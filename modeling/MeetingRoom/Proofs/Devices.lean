import MeetingRoom.Proofs.LateTeardown

/-!
Devices that are left on. Each device that is up was brought up for a session, by its attempt or by
a toggle. Once that session is over somebody owes a teardown to the transport, which brings the
device down again, with two exceptions: a toggle that gets through when its session is over already
leaves the device as it is, and so does an event that ends a session without a listener.
-/

namespace MeetingRoom

variable {Remote : Type}

namespace Session

def Task.asksFor (track : Media.Track) : Task Remote → Bool
  | .attempt request _ => request.wanted.contains track
  | .toggle own (.switching _ _ target) => own = track && target
  | _ => false

def Attempt.todo : Attempt → List Media.Track
  | .enabling _ todo => todo
  | .switching _ track todo => track :: todo
  | _ => []

/-- What a task does to the devices goes back to what it came for. -/
structure Task.Recorded (begun : List (Task Remote)) (task : Task Remote) : Prop where
  attempt : ∀ request stage epoch, task = .attempt request stage → task.epoch? = some epoch →
    .attempt request (.begun epoch) ∈ begun
  todo : ∀ request stage, task = .attempt request stage → ∀ track ∈ stage.todo,
    track ∈ request.wanted
  toggle : ∀ track epoch identity target,
    task = .toggle track (.switching epoch identity target) → task ∈ begun

theorem Task.Recorded.mono {begun more : List (Task Remote)} {task : Task Remote}
    (recorded : task.Recorded begun) (grown : ∀ other ∈ begun, other ∈ more) :
    task.Recorded more := by
  refine ⟨?_, recorded.todo, ?_⟩
  · intro request stage epoch same belongs
    exact grown _ (recorded.attempt request stage epoch same belongs)
  · intro track epoch identity target same
    exact grown _ (recorded.toggle track epoch identity target same)

private theorem Task.Recorded.of_other {begun : List (Task Remote)} {task : Task Remote}
    (attempt : ∀ request stage, task ≠ .attempt request stage)
    (toggle : ∀ track epoch identity target,
      task ≠ .toggle track (.switching epoch identity target)) : task.Recorded begun := by
  refine ⟨?_, ?_, ?_⟩
  · intro request stage epoch same
    exact absurd same (attempt request stage)
  · intro request stage same
    exact absurd same (attempt request stage)
  · intro track epoch identity target same
    exact absurd same (toggle track epoch identity target)

/-- An attempt that keeps its epoch, if it still has one, is recorded as before. -/
private theorem Task.Recorded.of_stage {begun : List (Task Remote)} {request : Request}
    {stage later : Attempt}
    (recorded : (Task.attempt request stage : Task Remote).Recorded begun)
    (epoch : ∀ epoch, (Task.attempt request later : Task Remote).epoch? = some epoch →
      (Task.attempt request stage : Task Remote).epoch? = some epoch)
    (todo : ∀ track ∈ later.todo, track ∈ request.wanted) :
    (Task.attempt request later : Task Remote).Recorded begun := by
  refine ⟨?_, ?_, ?_⟩
  · intro _request _stage present same belongs
    cases same
    exact recorded.attempt request stage present rfl (epoch present belongs)
  · intro _request _stage same
    cases same
    exact todo
  · intro track present identity target same
    cases same

/-- A task is recorded when it begins, and from then on it brings up only what it came for. -/
theorem Task.Recorded.follows {session : Session Remote} {begun : List (Task Remote)}
    {task later : Task Remote} (recorded : task.Recorded begun)
    (follows : Task.Follows session task later)
    (fresh : task.epoch? = none → later.epoch?.isSome = true → later ∈ begun) :
    later.Recorded begun := by
  have nothing : ∀ {wanted : List Media.Track}, ∀ track ∈ ([] : List Media.Track),
      track ∈ wanted := by
    intro wanted track member
    cases member
  cases follows with
  | admitted request =>
      refine ⟨?_, ?_, ?_⟩
      · intro _request stage epoch same belongs
        cases same
        cases belongs
        exact fresh rfl rfl
      · intro _request stage same
        cases same
        exact nothing
      · intro track epoch identity target same
        cases same
  | toggles track identity target =>
      refine ⟨?_, ?_, ?_⟩
      · intro request stage epoch same
        cases same
      · intro request stage same
        cases same
      · intro _track epoch _identity _target same
        exact fresh rfl rfl
  | linedUp => exact recorded.of_stage (fun _ belongs => belongs) nothing
  | turned => exact recorded.of_stage (fun _ belongs => belongs) nothing
  | shaken => exact recorded.of_stage (fun _ belongs => belongs) nothing
  | accepted => exact recorded.of_stage (fun _ belongs => belongs) (fun _ member => member)
  | failed => exact recorded.of_stage (fun _ none => by cases none) nothing
  | discarded => exact recorded.of_stage (fun _ none => by cases none) nothing
  | enables request track todo =>
      refine recorded.of_stage (fun _ belongs => belongs) ?_
      intro other member
      exact recorded.todo request _ rfl other member
  | skips => exact recorded.of_stage (fun _ belongs => belongs) nothing
  | switched request epoch track todo =>
      refine recorded.of_stage (fun _ belongs => belongs) ?_
      intro other member
      exact recorded.todo request _ rfl other (List.mem_cons_of_mem track member)
  | tooLate => exact recorded.of_stage (fun _ none => by cases none) nothing
  | hungUp => exact .of_other (by intros; nofun) (by intros; nofun)
  | toggled => exact .of_other (by intros; nofun) (by intros; nofun)
  | hears => exact .of_other (by intros; nofun) (by intros; nofun)
  | goesOn => exact .of_other (by intros; nofun) (by intros; nofun)
  | ended => exact .of_other (by intros; nofun) (by intros; nofun)

end Session

namespace Exchange

/-- Whether the session of an epoch has been asked for a device, by its attempt or by a toggle. -/
def sought (exchange : Exchange Remote) (epoch : Nat) (track : Media.Track) : Bool :=
  exchange.begun.any fun task => task.epoch? = some epoch && task.asksFor track

def Switch.isLateToggle (switch : Switch Remote) : Bool :=
  match switch.task with
  | .toggle _ _ => switch.task.epoch? ≠ some switch.epoch
  | _ => false

/-- A switch that nobody is going to undo once its session is over. -/
def strays (exchange : Exchange Remote) (switch : Switch Remote) : Bool :=
  switch.isLateToggle || switch.task.epoch?.any exchange.abandoned.contains

def Owes (exchange : Exchange Remote) (id : Room.TaskId) (task : Session.Task Remote) : Prop :=
  task.mustRelease exchange.room.session = true ∨
    task.ask? = some .disconnect ∧ id ∉ exchange.carried

def Owed (exchange : Exchange Remote) : Prop :=
  ∃ id task, exchange.room.task? id = some task ∧ exchange.Owes id task

/-! ### Teardowns that are owed -/

/-- A task that waits for the transport goes on by an answer only. -/
theorem answer_of_ask {room next : Room Remote} {action : Room.Action Remote}
    {id : Room.TaskId} {task : Session.Task Remote} (stepped : room.step? action = some next)
    (moved : action.task? = some id) (found : room.task? id = some task)
    (asks : task.ask?.isSome = true) : action = .ask id ∨ ∃ answer, action = .answer id answer := by
  cases action with
  | call operation => cases moved
  | event view event => cases moved
  | voice text? => cases moved
  | ask asker => cases moved; exact Or.inl rfl
  | answer asker answer => cases moved; exact Or.inr ⟨answer, rfl⟩
  | hear number event? =>
      cases moved
      obtain ⟨epoch, waiting, _same⟩ := Room.hear?_eq_some_iff.mp stepped
      rw [found] at waiting
      cases waiting
      cases asks
  | work worker view =>
      cases moved
      obtain ⟨working, part, same, _may, worked, _enacted⟩ := Room.work?_eq_some_iff.mp stepped
      rw [found] at same
      cases same
      rw [Session.Task.ask?_of_section? worked] at asks
      cases asks

/-- Only a teardown that has taken effect is answered, so one that is owed stays so. -/
private theorem waits_of_owed {exchange next : Exchange Remote} {action : Room.Action Remote}
    {id : Room.TaskId} {task : Session.Task Remote} (acts : exchange.Acts action next)
    (moved : action.task? = some id) (found : exchange.room.task? id = some task)
    (asks : task.ask? = some .disconnect) (outstanding : id ∉ exchange.carried) :
    action = .ask id := by
  rcases answer_of_ask acts.stepped moved found (by rw [asks]; rfl) with asked | ⟨answer, answered⟩
  · exact asked
  · subst answered
    obtain ⟨answering, later, journal, same, _asked, answered, _proceeded⟩ :=
      Room.answer?_eq_some_iff.mp acts.stepped
    rw [found] at same
    cases same
    have done : answer = .done := by
      cases task with
      | attempt request stage =>
          cases stage with
          | releasing result => cases answer <;> first | rfl | cases answered
          | _ => cases asks
      | hangUp stage => cases stage <;> cases answer <;> first | rfl | cases answered
      | toggle track stage => cases stage <;> cases asks
      | listener epoch stage => cases stage <;> cases answer <;> first | rfl | cases answered
    have permitted := acts.permitted
    rw [permits, done] at permitted
    have carried : exchange.carried.contains id = true := by simpa using permitted
    exact absurd (List.contains_iff_mem.mp carried) outstanding

/-- A task that owes a teardown is not dropped. -/
private theorem kept_of_owes {exchange : Exchange Remote} {id mover : Room.TaskId}
    {task moving : Session.Task Remote} {part : Session.Section Remote}
    (coherent : exchange.room.Coherent) (moves : exchange.room.Moves mover moving part)
    (found : exchange.room.task? id = some task) (owes : exchange.Owes id task) :
    part.dropped.map Room.TaskId.listener ≠ some id := by
  intro dropped
  obtain ⟨stage, same, quiet⟩ := moves.dropped_eq coherent dropped
  rw [found] at same
  cases same
  rcases owes with must | ⟨asks, _outstanding⟩
  · cases must
  · cases stage with
    | releasing => exact quiet rfl
    | _ => cases asks

/-- What a task has just come to has not been asked for, so it has not taken effect. -/
private theorem not_carried_of_enact {exchange next : Exchange Remote}
    {action : Room.Action Remote} {id : Room.TaskId} {part : Session.Section Remote}
    (acts : exchange.Acts action next) (enacted : exchange.room.enact id part = next.room) :
    id ∉ next.carried := by
  intro carried
  have requested := (acts.asked carried).2
  rw [← enacted] at requested
  exact ((Room.mem_asked_enact _ _ _ _).mp requested).2.1 rfl

/-- An attempt that has moved on owes what it owed. -/
private theorem owes_of_move {exchange next : Exchange Remote} {action : Room.Action Remote}
    {id : Room.TaskId} {task : Session.Task Remote} {part : Session.Section Remote}
    (coherent : exchange.room.Coherent) (acts : exchange.Acts action next)
    (moves : exchange.room.Moves id task part) (enacted : exchange.room.enact id part = next.room)
    (must : task.mustRelease exchange.room.session = true) : next.Owed := by
  have kept := kept_of_owes coherent moves moves.found (Or.inl must)
  obtain ⟨later, waits, owes⟩ := moves.releases must
  have found : next.room.task? id = some later := by
    rw [← enacted]
    exact moves.task?_self kept waits
  refine ⟨id, later, found, ?_⟩
  rcases owes with still | asks
  · refine Or.inl (Session.Task.mustRelease_mono still ?_ (coherent.epoch_le acts.stepped))
    intro epoch belongs
    rcases (moves.follows later waits).epoch?_eq belongs with same | ⟨⟨request, starts⟩, _new⟩ |
        ⟨⟨track, starts⟩, _new⟩
    · exact (coherent.fits id task moves.found).notAhead epoch same
    · rw [starts] at must
      cases must
    · rw [starts] at must
      cases must
  · exact Or.inr ⟨asks, not_carried_of_enact acts enacted⟩

private theorem owes_of_stay {exchange next : Exchange Remote} {action : Room.Action Remote}
    {id : Room.TaskId} {task : Session.Task Remote} (coherent : exchange.room.Coherent)
    (acts : exchange.Acts action next) (found : exchange.room.task? id = some task)
    (owes : exchange.Owes id task) : next.Owes id task := by
  rcases owes with must | ⟨asks, outstanding⟩
  · exact Or.inl (Session.Task.mustRelease_mono must (coherent.fits id task found).notAhead
      (coherent.epoch_le acts.stepped))
  · refine Or.inr ⟨asks, ?_⟩
    intro carried
    exact outstanding (acts.asked carried).1

/-- A teardown that is owed stays owed, whatever step the room takes. -/
theorem Owed.act {exchange next : Exchange Remote} {action : Room.Action Remote}
    (owed : exchange.Owed) (coherent : exchange.room.Coherent)
    (acts : exchange.Acts action next) : next.Owed := by
  obtain ⟨id, task, found, owes⟩ := owed
  have stays : next.room.task? id = some task → next.Owed := by
    intro still
    exact ⟨id, task, still, owes_of_stay coherent acts found owes⟩
  have stepped := acts.stepped
  rcases coherent.moves_of_step stepped with ⟨mover, moving, part, moved, moves, enacted⟩ |
      ⟨operation, rfl⟩ | ⟨asker, rfl⟩ | ⟨view, event, rfl⟩ | ⟨text?, rfl⟩
  · by_cases own : id = mover
    · subst own
      have same := Option.some.inj (found.symm.trans moves.found)
      subst same
      rcases owes with must | ⟨asks, outstanding⟩
      · exact owes_of_move coherent acts moves enacted must
      · have asked := waits_of_owed acts moved found asks outstanding
        subst asked
        obtain ⟨_waiting, _found, _asks, _new, same⟩ := Room.ask?_eq_some_iff.mp stepped
        exact stays (same ▸ found)
    · apply stays
      rw [← enacted]
      exact moves.task?_other own (kept_of_owes coherent moves found owes) found
  · rw [← Option.some.inj stepped] at stays
    exact stays (Room.task?_start_of_some found operation)
  · obtain ⟨_waiting, _found, _asks, _new, same⟩ := Room.ask?_eq_some_iff.mp stepped
    exact stays (same ▸ found)
  · exact stays (Option.some.inj stepped ▸ found)
  · exact stays (Option.some.inj stepped ▸ found)

/-- Whoever ends a live session owes a teardown, unless the session is abandoned. -/
theorem owed_of_end {exchange next : Exchange Remote} {action : Room.Action Remote}
    (coherent : exchange.room.Coherent) (acts : exchange.Acts action next)
    (live : exchange.room.session.phase = .live)
    (ended : next.room.session.epoch ≠ exchange.room.session.epoch) :
    next.Owed ∨ exchange.room.session.epoch ∈ next.abandoned := by
  have stepped := acts.stepped
  rcases coherent.moves_of_step stepped with ⟨mover, moving, part, moved, moves, enacted⟩ |
      ⟨operation, rfl⟩ | ⟨asker, rfl⟩ | ⟨view, event, rfl⟩ | ⟨text?, rfl⟩
  · have session : next.room.session = part.session := by rw [← enacted, Room.session_enact]
    -- The task that ended the session is still there, and its teardown has not been asked for.
    have owing : ∀ later, part.dropped.map Room.TaskId.listener ≠ some mover →
        part.next = .waits later → later.ask? = some .disconnect → next.Owed := by
      intro later kept waits asks
      refine ⟨mover, later, ?_, Or.inr ⟨asks, not_carried_of_enact acts enacted⟩⟩
      rw [← enacted]
      exact moves.task?_self kept waits
    rw [session] at ended
    cases moves.change with
    | continues same => exact absurd same.epoch ended
    | accepts _ _ same => exact absurd same ended
    | fails _ _ _ same => exact absurd same ended
    | completes _ _ same => exact absurd same ended
    | admits _ _ idle => rw [idle] at live; cases live
    | hangsUp starts _ _ _ next _ dropped =>
        have busy : exchange.room.session.phase ≠ .idle := by
          rw [live]
          intro idle
          cases idle
        rw [if_neg busy] at next
        refine Or.inl (owing _ ?_ next rfl)
        intro own
        obtain ⟨stage, same, _quiet⟩ := moves.dropped_eq coherent own
        rw [moves.found, starts] at same
        cases same
    | loses _ _ _ _ _ _ _ next _ dropped =>
        refine Or.inl (owing _ ?_ next rfl)
        rw [dropped]
        intro own
        cases own
  · exact absurd (congrArg (·.session.epoch) (Option.some.inj stepped).symm) ended
  · obtain ⟨_waiting, _found, _asks, _new, same⟩ := Room.ask?_eq_some_iff.mp stepped
    exact absurd (congrArg (·.session.epoch) same.symm) ended
  · by_cases ends : event.endsSession = true
    · apply Or.inr
      rw [acts.abandoned, abandons, Session.inCall_iff.mpr live, ends]
      exact List.mem_append_right _ (List.mem_singleton_self _)
    · have continues := (Session.continues_apply view
        (fun both => ends both.2 : ¬(exchange.room.session.phase = .live ∧ _))).1
      refine absurd ?_ ended
      rw [← Option.some.inj stepped]
      exact continues.epoch
  · exact absurd (congrArg (·.session.epoch) (Option.some.inj stepped).symm) ended

/-- Only a teardown that takes effect makes good what is owed. -/
theorem Owed.effect {exchange next : Exchange Remote} {id : Room.TaskId}
    {task : Session.Task Remote} {ask : Session.Ask} (owed : exchange.Owed)
    (found : exchange.room.task? id = some task) (asks : task.ask? = some ask)
    (another : ask ≠ .disconnect) (room : next.room = exchange.room)
    (carried : next.carried = exchange.carried ++ [id]) : next.Owed := by
  obtain ⟨other, owing, still, owes⟩ := owed
  refine ⟨other, owing, by rw [room, still], ?_⟩
  rcases owes with must | ⟨teardown, outstanding⟩
  · exact Or.inl (by rw [room]; exact must)
  · refine Or.inr ⟨teardown, ?_⟩
    intro done
    rw [carried] at done
    rcases List.mem_append.mp done with before | now
    · exact outstanding before
    · rw [List.mem_singleton.mp now, found] at still
      cases still
      rw [asks] at teardown
      exact another (Option.some.inj teardown)

/-! ### Who answers for a device -/

/-- A device that is up was brought up for a session that had asked for it. That session is there,
or a teardown is owed, or nobody will undo it. -/
def AccountsFor (exchange : Exchange Remote) (track : Media.Track) (switch : Switch Remote) :
    Prop :=
  ∃ epoch, switch.task.epoch? = some epoch ∧ exchange.sought epoch track = true ∧
    (epoch = exchange.room.session.epoch ∧ exchange.room.session.phase = .live ∨ exchange.Owed ∨
      exchange.strays switch = true)

structure Accounted (exchange : Exchange Remote) : Prop where
  recorded : ∀ id task, exchange.room.task? id = some task → task.Recorded exchange.begun
  holders : ∀ track switch, exchange.holder track = some switch →
    exchange.AccountsFor track switch

theorem Accounted.new (limit : Duration) : (new limit : Exchange Remote).Accounted := by
  constructor
  · intro id task found
    cases found
  · intro track switch held
    cases held

private theorem recorded_act {exchange next : Exchange Remote} {action : Room.Action Remote}
    (accounted : exchange.Accounted) (coherent : exchange.room.Coherent)
    (acts : exchange.Acts action next) {id : Room.TaskId} {task : Session.Task Remote}
    (found : next.room.task? id = some task) : task.Recorded next.begun := by
  have grown : ∀ other ∈ exchange.begun, other ∈ next.begun := by
    intro other member
    rw [acts.begun]
    exact List.mem_append_left _ member
  have before : ∀ other old, exchange.room.task? other = some old → old.Recorded next.begun := by
    intro other old present
    exact (accounted.recorded other old present).mono grown
  have stepped := acts.stepped
  rcases coherent.moves_of_step stepped with ⟨mover, moving, part, moved, moves, enacted⟩ |
      ⟨operation, rfl⟩ | ⟨asker, rfl⟩ | ⟨view, event, rfl⟩ | ⟨text?, rfl⟩
  · have origin := moves.origin (enacted ▸ found)
    rcases origin with ⟨own, waits⟩ | ⟨_different, _kept, old⟩ | ⟨_heir, new⟩
    · apply (before mover moving moves.found).follows (moves.follows task waits)
      intro epochless belongs
      have begins : begins? exchange.room next.room mover = some task := by
        rw [begins?, moves.found, Option.bind_some, epochless, ← own, found]
        simp [belongs]
      rw [acts.begun, moved, Option.bind_some, begins]
      exact List.mem_append_right _ (List.mem_singleton_self task)
    · exact before id task old
    · rw [(moves.listener_eq new).2.1]
      exact .of_other (by intros; nofun) (by intros; nofun)
  · rw [← Option.some.inj stepped] at found
    rcases Room.origin_start found with old | ⟨_same, new⟩
    · exact before id task old
    · subst new
      cases operation with
      | join request =>
          refine ⟨?_, ?_, ?_⟩
          · intro _request stage epoch same belongs
            cases belongs
          · intro _request stage same track member
            cases same
            cases member
          · intro track epoch identity target same
            cases same
      | hangUp => exact .of_other (by intros; nofun) (by intros; nofun)
      | toggle track => exact .of_other (by intros; nofun) (by intros; nofun)
  · obtain ⟨_waiting, _found, _asks, _new, same⟩ := Room.ask?_eq_some_iff.mp stepped
    rw [← same] at found
    exact before id task found
  · rw [← Option.some.inj stepped] at found
    exact before id task found
  · rw [← Option.some.inj stepped] at found
    exact before id task found

private theorem sought_mono {exchange next : Exchange Remote} {epoch : Nat} {track : Media.Track}
    (grown : ∀ other ∈ exchange.begun, other ∈ next.begun)
    (sought : exchange.sought epoch track = true) : next.sought epoch track = true := by
  obtain ⟨task, member, asks⟩ := List.any_eq_true.mp sought
  exact List.any_eq_true.mpr ⟨task, grown task member, asks⟩

private theorem strays_of_abandoned {exchange : Exchange Remote} {switch : Switch Remote}
    {epoch : Nat} (belongs : switch.task.epoch? = some epoch)
    (abandoned : epoch ∈ exchange.abandoned) : exchange.strays switch = true := by
  rw [strays, belongs, Option.any_some, List.contains_iff_mem.mpr abandoned, Bool.or_true]

private theorem strays_mono {exchange next : Exchange Remote} {switch : Switch Remote}
    (grown : ∀ epoch ∈ exchange.abandoned, epoch ∈ next.abandoned)
    (strays : exchange.strays switch = true) : next.strays switch = true := by
  rw [Exchange.strays, Bool.or_eq_true] at strays
  rcases strays with late | abandoned
  · rw [Exchange.strays, late, Bool.true_or]
  · cases belongs : switch.task.epoch? with
    | none =>
        rw [belongs] at abandoned
        cases abandoned
    | some epoch =>
        rw [belongs] at abandoned
        exact strays_of_abandoned belongs (grown epoch (List.contains_iff_mem.mp abandoned))

private theorem Accounted.act {exchange next : Exchange Remote} {action : Room.Action Remote}
    (accounted : exchange.Accounted) (sound : exchange.Sound)
    (acts : exchange.Acts action next) : next.Accounted := by
  have coherent := sound.coherent
  constructor
  · intro id task found
    exact recorded_act accounted coherent acts found
  · intro track switch held
    rw [acts.holder] at held
    obtain ⟨epoch, belongs, sought, reason⟩ := accounted.holders track switch held
    refine ⟨epoch, belongs, ?_, ?_⟩
    · refine sought_mono ?_ sought
      intro other member
      rw [acts.begun]
      exact List.mem_append_left _ member
    · rcases reason with ⟨current, live⟩ | owed | strays
      · by_cases same : next.room.session.epoch = exchange.room.session.epoch
        · exact Or.inl ⟨current.trans same.symm, coherent.live_step acts.stepped live same⟩
        · rcases owed_of_end coherent acts live same with owed | abandoned
          · exact Or.inr (Or.inl owed)
          · exact Or.inr (Or.inr (strays_of_abandoned (current ▸ belongs) abandoned))
      · exact Or.inr (Or.inl (owed.act coherent acts))
      · refine Or.inr (Or.inr (strays_mono ?_ strays))
        intro gone member
        rw [acts.abandoned]
        exact List.mem_append_left _ member

/-- Whoever brings a device up has been asked to, and either the session is there, or the attempt
that was too late will release the device, or a toggle was too late. -/
private theorem accountsFor_switch {exchange next : Exchange Remote} {id : Room.TaskId}
    {task : Session.Task Remote} {track : Media.Track} (accounted : exchange.Accounted)
    (coherent : exchange.room.Coherent) (found : exchange.room.task? id = some task)
    (asks : task.ask? = some (.enable track true)) (room : next.room = exchange.room)
    (begun : next.begun = exchange.begun) :
    next.AccountsFor track { task := task, epoch := exchange.room.session.epoch } := by
  have recorded := accounted.recorded id task found
  cases task with
  | attempt request stage =>
      cases stage with
      | switching epoch own todo =>
          cases asks
          have began := recorded.attempt request _ epoch rfl rfl
          have wanted := recorded.todo request _ rfl track List.mem_cons_self
          refine ⟨epoch, rfl, ?_, ?_⟩
          · rw [sought, begun]
            refine List.any_eq_true.mpr ⟨_, began, ?_⟩
            simpa [Session.Task.epoch?, Session.Task.asksFor] using wanted
          · by_cases current : epoch = exchange.room.session.epoch
            · have live := coherent.stage_phase found (congrArg some current) rfl
              exact Or.inl (by rw [room]; exact ⟨current, live⟩)
            · refine Or.inr (Or.inl ⟨id, _, by rw [room]; exact found, Or.inl ?_⟩)
              rw [room]
              exact decide_eq_true current
      | handshake epoch => cases asks
      | releasing result => cases asks
      | _ => cases asks
  | hangUp stage => cases stage <;> cases asks
  | toggle own stage =>
      cases stage with
      | switching epoch identity target =>
          cases asks
          have began := recorded.toggle track epoch identity true rfl
          refine ⟨epoch, rfl, ?_, ?_⟩
          · rw [sought, begun]
            refine List.any_eq_true.mpr ⟨_, began, ?_⟩
            simp [Session.Task.epoch?, Session.Task.asksFor]
          · by_cases current : epoch = exchange.room.session.epoch
            · have live := coherent.stage_phase found (congrArg some current) rfl
              exact Or.inl (by rw [room]; exact ⟨current, live⟩)
            · refine Or.inr (Or.inr ?_)
              have late : ({ task := .toggle track (.switching epoch identity true)
                             epoch := exchange.room.session.epoch } :
                  Switch Remote).isLateToggle = true := by
                simpa [Switch.isLateToggle, Session.Task.epoch?] using current
              rw [strays, late, Bool.true_or]
      | starting => cases asks
      | settling epoch identity target => cases asks
  | listener epoch stage => cases stage <;> cases asks

private theorem Accounted.effect {exchange next : Exchange Remote} {id : Room.TaskId}
    (accounted : exchange.Accounted) (sound : exchange.Sound)
    (effected : exchange.effect? id = some next) : next.Accounted := by
  obtain ⟨task, ask, found, asks, _asked, _fresh, rfl⟩ := effect?_eq_some_iff.mp effected
  have keeps : ∀ {after : Exchange Remote} {track : Media.Track} {switch : Switch Remote},
      exchange.AccountsFor track switch → ask ≠ .disconnect → after.room = exchange.room →
      after.begun = exchange.begun → after.abandoned = exchange.abandoned →
      after.carried = exchange.carried ++ [id] → after.AccountsFor track switch := by
    intro after track switch accounts another room begun abandoned carried
    obtain ⟨epoch, belongs, sought, reason⟩ := accounts
    refine ⟨epoch, belongs, ?_, ?_⟩
    · exact sought_mono (by intro other member; rw [begun]; exact member) sought
    · rcases reason with ⟨current, live⟩ | owed | strays
      · exact Or.inl (by rw [room]; exact ⟨current, live⟩)
      · exact Or.inr (Or.inl (owed.effect found asks another room carried))
      · exact Or.inr (Or.inr (strays_mono (by intro gone member; rw [abandoned]; exact member)
          strays))
  cases ask with
  | connect url token =>
      refine ⟨accounted.recorded, ?_⟩
      intro track switch held
      exact keeps (accounted.holders track switch held) (by nofun) rfl rfl rfl rfl
  | disconnect =>
      refine ⟨accounted.recorded, ?_⟩
      intro track switch held
      cases held
  | enable own enabled =>
      refine ⟨accounted.recorded, ?_⟩
      intro track switch held
      change (if track = own then
        if enabled then some { task := task, epoch := exchange.room.session.epoch } else none
        else exchange.holder track) = some switch at held
      split at held
      · rename_i same
        subst same
        cases enabled with
        | true =>
            cases held
            exact accountsFor_switch accounted sound.coherent found asks rfl rfl
        | false => cases held
      · exact keeps (accounted.holders track switch held) (by nofun) rfl rfl rfl rfl

theorem Accounted.run {limit : Duration} {actions : List (Action Remote)}
    {exchange : Exchange Remote} (ran : (Exchange.new limit).run? actions = some exchange) :
    exchange.Sound ∧ exchange.Accounted := by
  refine @run_keeps _ _ step? (fun reached => reached.Sound ∧ reached.Accounted) ?_ _ _ actions
    ⟨Sound.new limit, Accounted.new limit⟩ ran
  intro reached action next holds stepped
  refine ⟨holds.1.step stepped, ?_⟩
  cases action with
  | room action => exact holds.2.act holds.1 (acts_of_act? stepped)
  | effect id => exact holds.2.effect holds.1 stepped

/-- While a session is live, no attempt has a teardown to make. -/
private theorem teardown_of_owed {exchange : Exchange Remote} (coherent : exchange.room.Coherent)
    (live : exchange.room.session.phase = .live) (owed : exchange.Owed) : ¬exchange.AllDown := by
  obtain ⟨id, task, found, owes⟩ := owed
  intro down
  rcases owes with must | ⟨asks, outstanding⟩
  · cases task with
    | attempt request stage =>
        obtain ⟨epoch, belongs, late⟩ := Session.Task.epoch?_of_mustRelease must
        have turn : stage.hasTurn = true := by cases stage <;> first | rfl | cases must
        have current := coherent.alone live id request stage found turn
        rw [belongs] at current
        exact late (Option.some.inj current)
    | hangUp stage => cases must
    | toggle track stage => cases must
    | listener epoch stage => cases must
  · cases task with
    | attempt request stage =>
        cases stage with
        | releasing result =>
            have current := coherent.alone live id request _ found rfl
            cases current
        | _ => cases asks
    | hangUp stage =>
        cases stage with
        | releasing => exact outstanding (down id _ found rfl)
        | starting => cases asks
    | toggle track stage => cases stage <;> cases asks
    | listener epoch stage =>
        cases stage with
        | releasing => exact outstanding (down id _ found rfl)
        | _ => cases asks

/-- When everything has come to its end and there is no session, a device is up exactly if it was
brought up by a toggle that came too late, or for a session that was abandoned. In a live session
that was not asked for the device, it is up exactly if it was brought up in such a way or a teardown
is still to take effect. -/
theorem device_left_on_iff {limit : Duration} {actions : List (Action Remote)}
    {exchange : Exchange Remote} (ran : (Exchange.new limit).run? actions = some exchange)
    (track : Media.Track) :
    (exchange.room.tasks = [] → exchange.room.session.call = .disconnected →
      (exchange.isOn track = true ↔
        ∃ switch, exchange.holder track = some switch ∧ exchange.strays switch = true)) ∧
    (exchange.room.session.inCall = true →
      exchange.sought exchange.room.session.epoch track = false →
      (exchange.isOn track = true ↔
        ∃ switch, exchange.holder track = some switch ∧
          (exchange.strays switch = true ∨ ¬exchange.AllDown))) := by
  obtain ⟨sound, accounted⟩ := Accounted.run ran
  constructor
  · intro finished disconnected
    constructor
    · intro on
      obtain ⟨switch, held⟩ := Option.isSome_iff_exists.mp on
      obtain ⟨epoch, _belongs, _sought, reason⟩ := accounted.holders track switch held
      refine ⟨switch, held, ?_⟩
      rcases reason with ⟨_current, live⟩ | ⟨id, task, found, _owes⟩ | strays
      · rw [Session.disconnected_iff.mp disconnected] at live
        cases live
      · rw [Room.task?, finished] at found
        cases found
      · exact strays
    · intro stray
      obtain ⟨switch, held, _strays⟩ := stray
      rw [isOn, held]
      rfl
  · intro inCall unsought
    constructor
    · intro on
      obtain ⟨switch, held⟩ := Option.isSome_iff_exists.mp on
      obtain ⟨epoch, _belongs, sought, reason⟩ := accounted.holders track switch held
      refine ⟨switch, held, ?_⟩
      rcases reason with ⟨current, _live⟩ | owed | strays
      · rw [current, unsought] at sought
        cases sought
      · exact Or.inr (teardown_of_owed sound.coherent (Session.inCall_iff.mp inCall) owed)
      · exact Or.inl strays
    · intro stray
      obtain ⟨switch, held, _reason⟩ := stray
      rw [isOn, held]
      rfl

def aloneView : Media.View Unit :=
  { own := some { identity := "alex", name := "Alex", metadata := none, audio := false,
                  video := false, handle := none }
    remotes := [] }

/-- A session with a toggle of the microphone and a hang-up behind it. The toggle has made its
request when the hang-up starts. -/
def toggleAndHangUp (before after : List (Action Unit)) : List (Action Unit) :=
  handshake 0 ++ [.room (.work (.call 0) aloneView), .room (.work (.call 0) aloneView),
    .room (.call (.toggle .audio)), .room (.work (.call 1) aloneView), .room (.ask (.call 1))] ++
    before ++ [.room (.call .hangUp), .room (.work (.call 2) .empty), .room (.ask (.call 2)),
    .effect (.call 2), .room (.answer (.call 2) .done)] ++ after

def getThrough : List (Action Unit) :=
  [.effect (.call 1), .room (.answer (.call 1) .done), .room (.work (.call 1) .empty)]

theorem microphone_released_behind_toggle :
    ∃ exchange, (Exchange.new (.ofSeconds 15 0)).run? (toggleAndHangUp getThrough []) =
        some exchange ∧
      exchange.room.tasks = [] ∧ exchange.room.session.call = .disconnected ∧
      exchange.isOn .audio = false := by
  refine ⟨_, rfl, rfl, rfl, ?_⟩
  have exact := (@device_left_on_iff Unit (.ofSeconds 15 0) (toggleAndHangUp getThrough []) _ rfl
    .audio).1 rfl rfl
  apply Bool.eq_false_iff.mpr
  intro on
  obtain ⟨switch, held, _strays⟩ := exact.mp on
  cases held

/-- A toggle that gets through behind the teardown leaves the microphone on for good. -/
theorem microphone_left_on_behind_hang_up :
    ∃ exchange, (Exchange.new (.ofSeconds 15 0)).run? (toggleAndHangUp [] getThrough) =
        some exchange ∧
      exchange.room.tasks = [] ∧ exchange.room.session.call = .disconnected ∧
      exchange.abandoned = [] ∧ exchange.isOn .audio = true :=
  ⟨_, rfl, rfl, rfl, rfl, rfl⟩

end Exchange

end MeetingRoom
