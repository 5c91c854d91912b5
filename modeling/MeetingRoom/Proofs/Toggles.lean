import MeetingRoom.Proofs.Devices

/-!
Toggles of one device that overlap. A toggle looks at the device first and decides what to switch it
to; its request takes effect later. So a toggle turns the device over unless another one has done so
in between: then the device is where the toggle wants it already, and the toggle is in vain.
-/

namespace MeetingRoom

variable {Remote : Type}

namespace Session

inductive Toggle.Due where
  | look
  | switch (target : Bool)
  deriving DecidableEq

def Task.due? (track : Media.Track) (carried : Bool) : Task Remote → Option Toggle.Due
  | .toggle own .starting => if own = track then some .look else none
  | .toggle own (.switching _ _ target) =>
      if own = track ∧ carried = false then some (.switch target) else none
  | _ => none

def Task.isToggle (track : Media.Track) : Task Remote → Bool
  | .toggle own _ => own = track
  | _ => false

def Ask.spares (track : Media.Track) : Ask → Bool
  | .connect _ _ => true
  | .enable own _ => own ≠ track
  | .disconnect => false

section Due

variable {track : Media.Track} {carried : Bool} {task : Task Remote}

theorem Task.due?_of_not_isToggle (other : task.isToggle track = false) :
    task.due? track carried = none := by
  cases task with
  | toggle own stage =>
      have different : own ≠ track := of_decide_eq_false other
      cases stage with
      | starting => exact if_neg different
      | switching epoch identity target => exact if_neg fun both => different both.1
      | settling epoch identity target => rfl
  | _ => rfl

theorem Task.due?_eq_look_iff :
    task.due? track carried = some .look ↔ task = .toggle track .starting := by
  cases task with
  | toggle own stage =>
      cases stage with
      | starting => simp [due?]
      | switching epoch identity target => simp [due?]
      | settling epoch identity target => simp [due?]
  | _ => simp [due?]

theorem Task.due?_eq_switch_iff {target : Bool} :
    task.due? track carried = some (.switch target) ↔
      carried = false ∧ ∃ epoch identity,
        task = .toggle track (.switching epoch identity target) := by
  cases task with
  | toggle own stage =>
      cases stage with
      | starting => simp [due?]
      | switching epoch identity other =>
          simp only [due?, Option.ite_none_right_eq_some, Option.some.injEq, Toggle.Due.switch.injEq,
            toggle.injEq, Toggle.switching.injEq]
          constructor
          · rintro ⟨⟨same, fresh⟩, aim⟩
            exact ⟨fresh, epoch, identity, same, rfl, rfl, aim⟩
          · rintro ⟨fresh, _epoch, _identity, same, -, -, aim⟩
            exact ⟨⟨same, fresh⟩, aim⟩
      | settling epoch identity other => simp [due?]
  | _ => simp [due?]

/-- Whatever a task does otherwise, it has nothing to do as a toggle of the device after a section
or an answer, unless it has looked at the device. -/
theorem Task.Follows.due?_eq_none {session : Session Remote} {later : Task Remote}
    (follows : Task.Follows session task later) (looked : task ≠ .toggle track .starting) :
    later.due? track carried = none := by
  cases follows with
  | toggles own identity target =>
      refine if_neg fun both => looked ?_
      rw [both.1]
  | _ => rfl

theorem Task.due?_of_section {number : Nat} {view : Media.View Remote} {session : Session Remote}
    {part : Section Remote} (worked : task.section? number view session = some part)
    (looked : task ≠ .toggle track .starting) : task.due? track carried = none := by
  cases Task.works_of_section worked with
  | startsToggle own =>
      refine if_neg fun same => looked ?_
      rw [same]
  | _ => rfl

theorem Task.looked_of_answer {limit : Duration} {answer : Answer}
    {after : Next Remote × List Journal.Entry} (answered : task.answered? limit answer = some after) :
    task ≠ .toggle track .starting := by
  rintro rfl
  cases answered

/-- In a call a toggle decides for the opposite of what it is shown. -/
theorem Toggle.next_start {view : Media.View Remote} {session : Session Remote} {on : Bool}
    (connected : session.call = .connected) (known : session.identity.isSome = true)
    (shown : view.own.map (·.enabled track) = some on) :
    ∃ identity, (Toggle.start track view session).next =
      .waits (.toggle track (.switching session.epoch identity (!on))) := by
  obtain ⟨identity, same⟩ := Option.isSome_iff_exists.mp known
  refine ⟨identity, ?_⟩
  unfold Toggle.start Toggle.current
  rw [connected, same, shown]
  rfl

end Due

end Session

namespace Exchange

def toggling (exchange : Exchange Remote) (track : Media.Track) : Bool :=
  exchange.room.tasks.any (·.2.isToggle track)

/-- What a task has yet to do as a toggle of a device. Its request is done with once it has taken
effect, even if it has not been answered. -/
def due? (exchange : Exchange Remote) (track : Media.Track) (id : Room.TaskId) :
    Option Session.Toggle.Due :=
  (exchange.room.task? id).bind (·.due? track (exchange.carried.contains id))

def turn? (track : Media.Track) (exchange : Exchange Remote) : Action Remote → Option Bool
  | .effect id =>
      match exchange.due? track id with
      | some (.switch target) => some (exchange.isOn track != target)
      | _ => none
  | .room _ => none

def turns (exchange : Exchange Remote) (track : Media.Track) (actions : List (Action Remote)) :
    List Bool :=
  noted step? (turn? track) exchange actions

def Action.startsToggle (track : Media.Track) : Action Remote → Bool
  | .room (.call (.toggle own)) => own = track
  | _ => false

/-- A toggle finds itself in a call and is shown the device as it is, its request is granted, and
nobody else switches the device. -/
def steady (track : Media.Track) (exchange : Exchange Remote) : Action Remote → Bool
  | .room (.work id view) =>
      exchange.due? track id ≠ some .look ||
        (exchange.room.session.call = .connected && exchange.room.session.identity.isSome &&
          view.own.map (·.enabled track) = some (exchange.isOn track))
  | .room (.answer id answer) => (exchange.due? track id).isNone || answer = .done
  | .effect id =>
      (exchange.due? track id).isSome ||
        ((exchange.room.task? id).bind (·.ask?)).all (·.spares track)
  | _ => true

/-- A toggle looks at the device only when no other one has decided and is yet to switch it. -/
def inTurn (track : Media.Track) (exchange : Exchange Remote) : Action Remote → Bool
  | .room (.work id _) =>
      exchange.due? track id ≠ some .look ||
        exchange.room.tasks.all fun entry =>
          exchange.due? track entry.1 = none || exchange.due? track entry.1 = some .look
  | _ => true

def throughout (holds : Exchange Remote → Action Remote → Bool) :
    Exchange Remote → List (Action Remote) → Bool
  | _, [] => true
  | exchange, action :: rest =>
      holds exchange action && (exchange.step? action).all (throughout holds · rest)

variable {exchange next : Exchange Remote} {action : Action Remote} {track : Media.Track}
  {id : Room.TaskId}

theorem due?_of_not_toggling (idle : exchange.toggling track = false) (id : Room.TaskId) :
    exchange.due? track id = none := by
  unfold due?
  cases found : exchange.room.task? id with
  | none => rfl
  | some task =>
      refine Session.Task.due?_of_not_isToggle (Bool.eq_false_iff.mpr fun toggles => ?_)
      obtain ⟨entry, listed, same⟩ := Option.map_eq_some_iff.mp found
      have under : exchange.toggling track = true :=
        List.any_eq_true.mpr ⟨entry, List.mem_of_find?_eq_some listed, by rw [same]; exact toggles⟩
      rw [idle] at under
      cases under

theorem issued_of_due? (coherent : exchange.room.Coherent) {due : Session.Toggle.Due}
    (owes : exchange.due? track id = some due) :
    ∃ number, id = .call number ∧ number < exchange.room.calls := by
  obtain ⟨task, found, has⟩ := Option.bind_eq_some_iff.mp owes
  cases id with
  | call number => exact ⟨number, rfl, (coherent.calls number task found).1⟩
  | listener number =>
      obtain ⟨_issued, _ended, epoch, stage, rfl⟩ := coherent.heirs number task found
      cases has

/-! ### Steps -/

private theorem due?_congr (same : next.room.task? id = exchange.room.task? id)
    (carried : id ∈ next.carried ↔ id ∈ exchange.carried) :
    next.due? track id = exchange.due? track id := by
  have contains : next.carried.contains id = exchange.carried.contains id := by
    rw [Bool.eq_iff_iff, List.contains_iff_mem, List.contains_iff_mem, carried]
  rw [due?, same, contains, due?]

/-- A request that takes effect is done with, and nothing else is. -/
theorem due?_of_effect (effected : exchange.effect? id = some next) (other : Room.TaskId) :
    next.due? track other = if other = id then none else exchange.due? track other := by
  obtain ⟨task, ask, found, asks, _asked, _fresh, rfl⟩ := effect?_eq_some_iff.mp effected
  by_cases same : other = id
  · rw [if_pos same, same, due?, room_carryOut, found, Option.bind_some]
    have carried : (exchange.carried ++ [id]).contains id = true := by simp
    dsimp only
    rw [carried]
    cases task with
    | toggle own stage =>
        cases stage with
        | starting => cases asks
        | switching epoch identity target => exact if_neg fun both => by cases both.2
        | settling epoch identity target => rfl
    | _ => rfl
  · rw [if_neg same]
    refine due?_congr (by rw [room_carryOut]) ?_
    simp [same]

/-- What somebody else has asked for leaves all toggles of the device where they are. -/
private theorem due?_of_other_effect (effected : exchange.effect? id = some next)
    (owes : exchange.due? track id = none) (other : Room.TaskId) :
    next.due? track other = exchange.due? track other := by
  rw [due?_of_effect effected]
  split
  · rename_i same
    rw [same, owes]
  · rfl

private theorem due?_of_next {action : Room.Action Remote} (acts : exchange.Acts action next)
    {later : Session.Next Remote} (goesOn : next.room.task? id = later.task?)
    (unasked : id ∉ next.room.asked) :
    next.due? track id = later.task?.bind (·.due? track false) := by
  -- A task that goes on waits for no answer, so nothing of it has been carried out yet.
  have answered : next.carried.contains id = false := by
    rw [Bool.eq_false_iff, ne_eq, List.contains_iff_mem]
    exact fun carried => unasked (acts.asked carried).2
  rw [due?, goesOn, answered]

private theorem due?_of_work {number : Nat} {view : Media.View Remote}
    (acts : exchange.Acts (.work (.call number) view) next)
    (steady : exchange.steady track (.room (.work (.call number) view)) = true) :
    next.due? track (.call number) = exchange.due? track (.call number) ∨
      exchange.due? track (.call number) = some .look ∧
        next.due? track (.call number) = some (.switch (!exchange.isOn track)) := by
  obtain ⟨task, part, found, _may, worked, same⟩ := Room.work?_eq_some_iff.mp acts.stepped
  have dropped : part.dropped.map Room.TaskId.listener ≠ some (.call number) := by
    cases part.dropped <;> nofun
  have goesOn : next.room.task? (.call number) = part.next.task? := by
    rw [← same, Room.task?_enact found, if_neg dropped, if_pos rfl, if_neg nofun, Option.or_none]
  have unasked : .call number ∉ next.room.asked := by
    rw [← same, Room.mem_asked_enact]
    exact fun asked => asked.2.1 rfl
  rw [due?_of_next acts goesOn unasked, due?, found, Option.bind_some]
  by_cases looks : task = .toggle track .starting
  · refine Or.inr ⟨Session.Task.due?_eq_look_iff.mpr looks, ?_⟩
    subst looks
    have owes : exchange.due? track (.call number) = some .look := by
      rw [due?, found, Option.bind_some, Session.Task.due?_eq_look_iff]
    simp only [Exchange.steady, owes, ne_eq, not_true_eq_false, decide_false, Bool.false_or,
      Bool.and_eq_true, decide_eq_true_eq] at steady
    obtain ⟨⟨connected, known⟩, shown⟩ := steady
    obtain ⟨identity, decides⟩ := Session.Toggle.next_start connected known shown
    cases worked
    rw [decides]
    exact if_pos ⟨rfl, rfl⟩
  · refine Or.inl ?_
    rw [Session.Task.due?_of_section worked looks]
    cases waits : part.next with
    | ends result => rfl
    | waits later =>
        exact (Session.Task.section?_follows worked waits).due?_eq_none looks

private theorem due?_of_answer {answer : Session.Answer}
    (acts : exchange.Acts (.answer id answer) next)
    (steady : exchange.steady track (.room (.answer id answer)) = true) :
    next.due? track id = exchange.due? track id := by
  obtain ⟨task, later, journal, found, _asked, answered, same⟩ :=
    Room.answer?_eq_some_iff.mp acts.stepped
  have looked : task ≠ .toggle track .starting := Session.Task.looked_of_answer answered
  have goesOn : next.room.task? id = later.task? := by
    rw [← same, @Room.task?_proceed Remote
      { exchange.room with journal := exchange.room.journal ++ journal } id task found, if_pos rfl]
  have unasked : id ∉ next.room.asked := by
    rw [← same, Room.asked_proceed]
    simp
  have after : next.due? track id = none := by
    rw [due?_of_next acts goesOn unasked]
    cases later with
    | ends result => rfl
    | waits later =>
        have follows : Session.Task.Follows exchange.room.session task later :=
          Session.Task.answered?_follows answered
        exact follows.due?_eq_none looked
  have before : exchange.due? track id = none := by
    cases owes : exchange.due? track id with
    | none => rfl
    | some due =>
        have granted : answer = .done := by simpa [Exchange.steady, owes] using steady
        have carried : exchange.carried.contains id = true := by
          have permitted := acts.permitted
          rw [permits, granted] at permitted
          exact (beq_iff_eq.mp permitted).symm
        rw [due?, found, Option.bind_some, carried] at owes
        cases due with
        | look => exact absurd (Session.Task.due?_eq_look_iff.mp owes) looked
        | switch target => cases (Session.Task.due?_eq_switch_iff.mp owes).1
  rw [after, before]

private theorem due?_of_ask (sound : exchange.Sound) (acts : exchange.Acts (.ask id) next) :
    next.due? track id = exchange.due? track id := by
  obtain ⟨task, _found, _asks, _new, same⟩ := Room.ask?_eq_some_iff.mp acts.stepped
  refine due?_congr (by rw [← same]; rfl) ?_
  rw [acts.carried, ← same, List.mem_filter, List.contains_iff_mem]
  refine ⟨fun carried => carried.1, fun carried => ⟨carried, ?_⟩⟩
  exact List.mem_append_left _ (sound.asked id carried)

/-- A step of the room leaves what is due of a call, unless a toggle looks at the device. -/
theorem due?_of_act (sound : exchange.Sound) {action : Room.Action Remote}
    (acts : exchange.Acts action next) (steady : exchange.steady track (.room action) = true)
    {number : Nat} (issued : number < exchange.room.calls) :
    next.due? track (.call number) = exchange.due? track (.call number) ∨
      (∃ view, action = .work (.call number) view) ∧
        exchange.due? track (.call number) = some .look ∧
        next.due? track (.call number) = some (.switch (!exchange.isOn track)) := by
  by_cases moved : action.task? = some (.call number)
  · cases action with
    | work id view =>
        cases moved
        rcases due?_of_work acts steady with same | looks
        · exact Or.inl same
        · exact Or.inr ⟨⟨view, rfl⟩, looks⟩
    | ask id =>
        cases moved
        exact Or.inl (due?_of_ask sound acts)
    | answer id answer =>
        cases moved
        exact Or.inl (due?_of_answer acts steady)
    | _ => cases moved
  · obtain ⟨kept, asked, _results⟩ := sound.coherent.others acts.stepped moved
    refine Or.inl (due?_congr (kept issued) ?_)
    rw [acts.carried, List.mem_filter, List.contains_iff_mem, asked]
    exact ⟨fun carried => carried.1, fun carried => ⟨carried, sound.asked _ carried⟩⟩

private theorem due?_of_call (coherent : exchange.room.Coherent) {operation : Room.Operation}
    (acts : exchange.Acts (.call operation) next) :
    next.due? track (.call exchange.room.calls) =
      if (Action.room (.call operation) : Action Remote).startsToggle track then some .look
      else none := by
  have started : next.room.task? (.call exchange.room.calls) = some operation.task := by
    rw [← Option.some.inj acts.stepped, Room.task?_start, coherent.fresh, if_pos rfl]
    rfl
  rw [due?, started, Option.bind_some]
  cases operation with
  | toggle own => simp [Room.Operation.task, Session.Task.due?, Action.startsToggle]
  | _ => rfl

/-- A request takes effect for a toggle of the device, or it leaves the device alone. -/
private theorem effect_cases (effected : exchange.effect? id = some next)
    (steady : exchange.steady track (.effect id) = true) :
    (∃ target, exchange.due? track id = some (.switch target) ∧ next.isOn track = target) ∨
      exchange.due? track id = none ∧ next.isOn track = exchange.isOn track := by
  obtain ⟨task, ask, found, asks, _asked, fresh, rfl⟩ := effect?_eq_some_iff.mp effected
  cases owes : exchange.due? track id with
  | none =>
      refine Or.inr ⟨rfl, ?_⟩
      have spares : ask.spares track = true := by
        simpa [Exchange.steady, owes, found, asks] using steady
      cases ask with
      | connect url token => rfl
      | enable own enabled =>
          have other : ¬track = own := Ne.symm (of_decide_eq_true spares)
          simp only [isOn, carryOut, if_neg other]
      | disconnect => cases spares
  | some due =>
      rw [due?, found, Option.bind_some] at owes
      cases due with
      | look =>
          rw [Session.Task.due?_eq_look_iff.mp owes] at asks
          cases asks
      | switch target =>
          obtain ⟨_fresh, epoch, identity, rfl⟩ := Session.Task.due?_eq_switch_iff.mp owes
          cases asks
          refine Or.inl ⟨target, rfl, ?_⟩
          cases target <;> simp [isOn, carryOut]

/-! ### The device -/

private theorem isOn_of_acts {action : Room.Action Remote} (acts : exchange.Acts action next) :
    next.isOn track = exchange.isOn track := by
  rw [isOn, acts.holder, isOn]

/-- Only the request of a toggle changes the device. -/
private theorem isOn_step (stepped : exchange.step? action = some next)
    (steady : exchange.steady track action = true) :
    next.isOn track = (exchange.isOn track ^^ (exchange.turn? track action).getD false) := by
  cases action with
  | room action =>
      rw [isOn_of_acts (acts_of_act? stepped), turn?, Option.getD_none, Bool.xor_false]
  | effect id =>
      rcases effect_cases stepped steady with ⟨target, owes, set⟩ | ⟨owes, same⟩
      · rw [set, turn?, owes]
        cases exchange.isOn track <;> cases target <;> rfl
      · rw [same, turn?, owes, Option.getD_none, Bool.xor_false]

/-! ### The number of toggles -/

private theorem countP_eq_succ {before after : Nat → Bool} {numbers : List Nat} {number : Nat}
    (distinct : numbers.Nodup) (member : number ∈ numbers) (counted : before number = true)
    (dropped : after number = false)
    (others : ∀ other ∈ numbers, other ≠ number → after other = before other) :
    numbers.countP before = numbers.countP after + 1 := by
  have split := List.perm_cons_erase member
  rw [List.Perm.countP_eq before split, List.Perm.countP_eq after split,
    List.countP_cons_of_pos counted, List.countP_cons_of_neg (by rw [dropped]; nofun)]
  congr 1
  refine List.countP_congr fun other listed => ?_
  obtain ⟨different, listed⟩ := distinct.mem_erase_iff.mp listed
  rw [others other listed different]

def backlog (exchange : Exchange Remote) (track : Media.Track) : Nat :=
  (List.range exchange.room.calls).countP fun number =>
    (exchange.due? track (.call number)).isSome

theorem backlog_of_not_toggling (idle : exchange.toggling track = false) :
    exchange.backlog track = 0 := by
  refine List.countP_eq_zero.mpr fun number _listed => ?_
  rw [due?_of_not_toggling idle]
  nofun

private theorem backlog_of_acts (sound : exchange.Sound) {action : Room.Action Remote}
    (acts : exchange.Acts action next) (steady : exchange.steady track (.room action) = true) :
    next.backlog track = exchange.backlog track +
      if (Action.room action : Action Remote).startsToggle track then 1 else 0 := by
  -- A toggle that looks at the device counts before and after.
  have kept : ∀ number ∈ List.range exchange.room.calls,
      ((next.due? track (.call number)).isSome = true ↔
        (exchange.due? track (.call number)).isSome = true) := by
    intro number listed
    rcases due?_of_act sound acts steady (List.mem_range.mp listed) with same | ⟨_by, old, new⟩
    · rw [same]
    · rw [old, new]
      exact Iff.rfl
  have counted := List.countP_congr kept
  rcases sound.coherent.calls_step acts.stepped with same | ⟨operation, rfl, grown⟩
  · have other : (Action.room action : Action Remote).startsToggle track = false := by
      cases action with
      | call operation =>
          rw [← Option.some.inj acts.stepped] at same
          exact absurd same (Nat.succ_ne_self _)
      | _ => rfl
    rw [backlog, same, counted, other]
    rfl
  · rw [backlog, grown, List.range_succ, List.countP_append, counted, List.countP_singleton,
      due?_of_call sound.coherent acts]
    cases (Action.room (.call operation) : Action Remote).startsToggle track <;> rfl

private theorem backlog_of_effect (coherent : exchange.room.Coherent)
    (effected : exchange.effect? id = some next)
    (steady : exchange.steady track (.effect id) = true) :
    next.backlog track + (exchange.turn? track (.effect id)).toList.length =
      exchange.backlog track := by
  have issued : next.room.calls = exchange.room.calls := by
    obtain ⟨task, ask, _found, _asks, _asked, _fresh, rfl⟩ := effect?_eq_some_iff.mp effected
    rw [room_carryOut]
  rw [backlog, issued]
  rcases effect_cases effected steady with ⟨target, owes, _set⟩ | ⟨owes, _same⟩
  · obtain ⟨number, rfl, member⟩ := issued_of_due? coherent owes
    have taken : exchange.backlog track =
        (List.range exchange.room.calls).countP
          (fun number => (next.due? track (.call number)).isSome) + 1 := by
      refine countP_eq_succ List.nodup_range (List.mem_range.mpr member) ?_ ?_ ?_
      · rw [owes]
        rfl
      · rw [due?_of_effect effected, if_pos rfl]
        rfl
      · intro other _listed different
        rw [due?_of_effect effected, if_neg fun same => different (Room.TaskId.call.inj same)]
    rw [taken, turn?, owes]
    rfl
  · simp only [due?_of_other_effect effected owes]
    rw [turn?, owes]
    rfl

/-- A new toggle adds to the backlog and a request that takes effect takes from it. -/
private theorem backlog_step (sound : exchange.Sound) (stepped : exchange.step? action = some next)
    (steady : exchange.steady track action = true) :
    next.backlog track + (exchange.turn? track action).toList.length =
      exchange.backlog track + if action.startsToggle track then 1 else 0 := by
  cases action with
  | room action => exact backlog_of_acts sound (acts_of_act? stepped) steady
  | effect id => exact backlog_of_effect sound.coherent stepped steady

/-! ### One after the other -/

structure AtMostOne (exchange : Exchange Remote) (track : Media.Track) : Prop where
  current : ∀ id target, exchange.due? track id = some (.switch target) →
    target = !exchange.isOn track
  alone : ∀ left right target aim, exchange.due? track left = some (.switch target) →
    exchange.due? track right = some (.switch aim) → left = right

theorem AtMostOne.of_none (none : ∀ id target, exchange.due? track id ≠ some (.switch target)) :
    exchange.AtMostOne track := by
  constructor
  · intro id target owes
    exact absurd owes (none id target)
  · intro left right target aim owes
    exact absurd owes (none left target)

theorem AtMostOne.mono (few : exchange.AtMostOne track)
    (same : next.isOn track = exchange.isOn track)
    (old : ∀ id target, next.due? track id = some (.switch target) →
      exchange.due? track id = some (.switch target)) : next.AtMostOne track := by
  constructor
  · intro id target owes
    rw [same]
    exact few.current id target (old id target owes)
  · intro left right target aim leftOwes rightOwes
    exact few.alone left right target aim (old left target leftOwes) (old right aim rightOwes)

/-- Whoever has decided after a step of the room has done so before, or has just looked. -/
private theorem switch_origin (sound : exchange.Sound) {action : Room.Action Remote}
    (acts : exchange.Acts action next) (steady : exchange.steady track (.room action) = true)
    {target : Bool} (owes : next.due? track id = some (.switch target)) :
    exchange.due? track id = some (.switch target) ∨
      (∃ view, action = .work id view) ∧ exchange.due? track id = some .look ∧
        target = !exchange.isOn track := by
  have coherent := sound.coherent
  obtain ⟨number, rfl, issued⟩ := issued_of_due? (coherent.step acts.stepped) owes
  by_cases old : number < exchange.room.calls
  · rcases due?_of_act sound acts steady old with same | ⟨works, looks, decides⟩
    · exact Or.inl (same ▸ owes)
    · rw [owes] at decides
      cases decides
      exact Or.inr ⟨works, looks, rfl⟩
  · rcases coherent.calls_step acts.stepped with same | ⟨operation, rfl, grown⟩
    · exact absurd (same ▸ issued) old
    · have new : number = exchange.room.calls := by omega
      rw [new, due?_of_call coherent acts] at owes
      split at owes <;> cases owes

private theorem not_due_of_inTurn {view : Media.View Remote}
    (turn : exchange.inTurn track (.room (.work id view)) = true)
    (looks : exchange.due? track id = some .look) (other : Room.TaskId) (target : Bool) :
    exchange.due? track other ≠ some (.switch target) := by
  intro owes
  obtain ⟨task, found, _owes⟩ := Option.bind_eq_some_iff.mp owes
  obtain ⟨entry, listed, _same⟩ := Option.map_eq_some_iff.mp found
  have named : entry.1 = other := by simpa using List.find?_some listed
  simp only [inTurn, looks, ne_eq, not_true_eq_false, decide_false, Bool.false_or] at turn
  have rests := List.all_eq_true.mp turn entry (List.mem_of_find?_eq_some listed)
  rw [named, owes] at rests
  cases rests

private theorem AtMostOne.act (few : exchange.AtMostOne track) (sound : exchange.Sound)
    {action : Room.Action Remote} (acts : exchange.Acts action next)
    (steady : exchange.steady track (.room action) = true)
    (turn : exchange.inTurn track (.room action) = true) : next.AtMostOne track := by
  by_cases looking : ∃ id view, action = .work id view ∧ exchange.due? track id = some .look
  · obtain ⟨id, view, rfl, looks⟩ := looking
    have only : ∀ other target, next.due? track other = some (.switch target) →
        other = id ∧ target = !exchange.isOn track := by
      intro other target owes
      rcases switch_origin sound acts steady owes with old | ⟨⟨_, works⟩, _looks, decides⟩
      · exact absurd old (not_due_of_inTurn turn looks other target)
      · cases works
        exact ⟨rfl, decides⟩
    constructor
    · intro other target owes
      rw [isOn_of_acts acts]
      exact (only other target owes).2
    · intro left right target aim leftOwes rightOwes
      exact (only left target leftOwes).1.trans (only right aim rightOwes).1.symm
  · refine few.mono (isOn_of_acts acts) ?_
    intro id target owes
    rcases switch_origin sound acts steady owes with old | ⟨⟨view, works⟩, looks, _decides⟩
    · exact old
    · exact absurd ⟨id, view, works, looks⟩ looking

private theorem AtMostOne.effect (few : exchange.AtMostOne track)
    (effected : exchange.effect? id = some next)
    (steady : exchange.steady track (.effect id) = true) :
    next.AtMostOne track ∧ ∀ turned ∈ exchange.turn? track (.effect id), turned = true := by
  rcases effect_cases effected steady with ⟨target, owes, _set⟩ | ⟨owes, same⟩
  · constructor
    · refine .of_none fun other aim => ?_
      rw [due?_of_effect effected]
      split
      · nofun
      · rename_i different
        exact fun aims => different (few.alone other id aim target aims owes)
    · intro turned noted
      rw [turn?, owes, few.current id target owes] at noted
      rw [← Option.some.inj noted]
      cases exchange.isOn track <;> rfl
  · constructor
    · refine few.mono same fun other target aims => ?_
      rw [← due?_of_other_effect effected owes]
      exact aims
    · intro turned noted
      rw [turn?, owes] at noted
      cases noted

private theorem AtMostOne.step (few : exchange.AtMostOne track) (sound : exchange.Sound)
    (stepped : exchange.step? action = some next) (steady : exchange.steady track action = true)
    (turn : exchange.inTurn track action = true) :
    next.AtMostOne track ∧ ∀ turned ∈ exchange.turn? track action, turned = true := by
  cases action with
  | room action => exact ⟨few.act sound (acts_of_act? stepped) steady turn, nofun⟩
  | effect id => exact few.effect stepped steady

/-! ### Runs -/

private theorem turns_cons (stepped : exchange.step? action = some next)
    (rest : List (Action Remote)) :
    exchange.turns track (action :: rest) =
      (exchange.turn? track action).toList ++ next.turns track rest := by
  rw [turns, noted, stepped]
  rfl

/-- Over a run the turns tell what becomes of the device, and they settle the backlog. -/
private theorem turns_run {last : Exchange Remote} {actions : List (Action Remote)}
    (sound : exchange.Sound) (ran : exchange.run? actions = some last)
    (steadily : exchange.throughout (steady track) actions = true) :
    last.isOn track = (exchange.turns track actions).foldl xor (exchange.isOn track) ∧
      last.backlog track + (exchange.turns track actions).length =
        exchange.backlog track + actions.countP (·.startsToggle track) := by
  induction actions generalizing exchange with
  | nil =>
      cases ran
      exact ⟨rfl, rfl⟩
  | cons action rest ih =>
      rw [run?, List.foldlM_cons] at ran
      obtain ⟨next, stepped, rested⟩ := Option.bind_eq_some_iff.mp ran
      rw [throughout, stepped, Option.all_some, Bool.and_eq_true] at steadily
      obtain ⟨device, settled⟩ := ih (sound.step stepped) rested steadily.2
      have turned := isOn_step stepped steadily.1
      have counted := backlog_step sound stepped steadily.1
      rw [turns_cons stepped, List.foldl_append, List.length_append, List.countP_cons]
      constructor
      · rw [device, turned]
        cases exchange.turn? track action with
        | none => rw [Option.getD_none, Bool.xor_false]; rfl
        | some turned => rfl
      · omega

/-- One after the other, toggles turn the device over each time. -/
private theorem turns_inTurn {last : Exchange Remote} {actions : List (Action Remote)}
    (few : exchange.AtMostOne track) (sound : exchange.Sound)
    (ran : exchange.run? actions = some last)
    (steadily : exchange.throughout (steady track) actions = true)
    (orderly : exchange.throughout (inTurn track) actions = true) :
    ∀ turned ∈ exchange.turns track actions, turned = true := by
  induction actions generalizing exchange with
  | nil => nofun
  | cons action rest ih =>
      rw [run?, List.foldlM_cons] at ran
      obtain ⟨next, stepped, rested⟩ := Option.bind_eq_some_iff.mp ran
      rw [throughout, stepped, Option.all_some, Bool.and_eq_true] at steadily orderly
      obtain ⟨still, turnsOver⟩ := few.step sound stepped steadily.1 orderly.1
      intro turned member
      rw [turns_cons stepped] at member
      rcases List.mem_append.mp member with now | later
      · exact turnsOver turned (Option.mem_toList.mp now)
      · exact ih still (sound.step stepped) rested steadily.2 orderly.2 turned later

private theorem repeat_not (times : Nat) (on : Bool) :
    times.repeat not on = (on ^^ decide (times % 2 = 1)) := by
  induction times with
  | zero => cases on <;> rfl
  | succ times ih =>
      have parity : decide ((times + 1) % 2 = 1) = !decide (times % 2 = 1) := by
        rw [← decide_not, decide_eq_decide]
        omega
      rw [Nat.repeat, ih, parity, Bool.xor_not]

private theorem foldl_xor (turns : List Bool) (on : Bool) :
    turns.foldl xor on = (turns.count true).repeat not on := by
  induction turns generalizing on with
  | nil => rfl
  | cons turned rest ih =>
      rw [List.foldl_cons, ih]
      cases turned with
      | false => rw [List.count_cons_of_ne Bool.false_ne_true, Bool.xor_false]
      | true => rw [List.count_cons_self, Nat.repeat, repeat_not, repeat_not, Bool.xor_true,
          Bool.not_xor]

private theorem length_eq_count (turns : List Bool) :
    turns.length = turns.count true + turns.count false := by
  induction turns with
  | nil => rfl
  | cons turned rest ih =>
      cases turned <;> simp only [List.length_cons, List.count_cons] <;> simp <;> omega

/-- While nobody else switches a device, each of the toggles of it that begin and return in a run
switches it once, and turns it over or is in vain. So all of them together turn it over as often as
there are turns that are not in vain. This is as if they had run one after the other exactly if the
number of those in vain is even; and if none looks at the device while another one has decided and
is yet to switch it, then none is in vain. -/
theorem device_after_toggles {limit : Duration} {before actions : List (Action Remote)}
    {first last : Exchange Remote} {track : Media.Track}
    (began : (Exchange.new limit).run? before = some first) (idle : first.toggling track = false)
    (ran : first.run? actions = some last)
    (steadily : first.throughout (steady track) actions = true)
    (returned : last.toggling track = false) :
    (first.turns track actions).length = actions.countP (·.startsToggle track) ∧
    last.isOn track = ((first.turns track actions).count true).repeat not (first.isOn track) ∧
    (last.isOn track =
        (actions.countP (·.startsToggle track)).repeat not (first.isOn track) ↔
      (first.turns track actions).count false % 2 = 0) ∧
    (first.throughout (inTurn track) actions = true →
      (first.turns track actions).count false = 0) := by
  have sound := Sound.run began
  obtain ⟨device, settled⟩ := turns_run sound ran steadily
  rw [backlog_of_not_toggling idle, backlog_of_not_toggling returned, Nat.zero_add,
    Nat.zero_add] at settled
  rw [foldl_xor] at device
  refine ⟨settled, device, ?_, ?_⟩
  · rw [device, ← settled, length_eq_count, repeat_not, repeat_not, Bool.xor_right_inj,
      decide_eq_decide]
    omega
  · intro orderly
    refine List.count_eq_zero.mpr fun member => ?_
    have few : first.AtMostOne track := by
      refine .of_none fun id target => ?_
      rw [due?_of_not_toggling idle]
      nofun
    cases turns_inTurn few sound ran steadily orderly false member

def metAlone : List (Action Unit) :=
  handshake 0 ++ [.room (.work (.call 0) aloneView), .room (.work (.call 0) aloneView)]

def microphoneView (on : Bool) : Media.View Unit :=
  { aloneView with own := aloneView.own.map (·.setEnabled .audio on) }

/-- Two toggles of the microphone, of which each is shown it in one state when it decides. The
second one decides before the request of the first takes effect, or behind it. -/
def togglesTwice (between behind : List (Action Unit)) (after : Bool) : List (Action Unit) :=
  [.room (.call (.toggle .audio)), .room (.call (.toggle .audio)),
    .room (.work (.call 1) (microphoneView false)), .room (.ask (.call 1))] ++
    between ++ [.effect (.call 1)] ++ behind ++
    [.room (.ask (.call 2)), .effect (.call 2), .room (.answer (.call 1) .done),
      .room (.answer (.call 2) .done), .room (.work (.call 1) (microphoneView after)),
      .room (.work (.call 2) (microphoneView after))]

def togglesInTurn : List (Action Unit) :=
  togglesTwice [] [.room (.work (.call 2) (microphoneView true))] false

def togglesAtOnce : List (Action Unit) :=
  togglesTwice [.room (.work (.call 2) (microphoneView false))] [] true

theorem microphone_off_after_toggles_in_turn :
    ∃ first last, (Exchange.new (.ofSeconds 15 0)).run? metAlone = some first ∧
      first.run? togglesInTurn = some last ∧ first.isOn .audio = false ∧
      last.toggling .audio = false ∧ last.isOn .audio = false := by
  refine ⟨_, _, rfl, rfl, rfl, rfl, ?_⟩
  have law := @device_after_toggles Unit (.ofSeconds 15 0) metAlone togglesInTurn _ _ .audio rfl rfl
    rfl rfl rfl
  obtain ⟨_two, _device, exact, inTurn⟩ := law
  exact exact.mpr (by rw [inTurn rfl])

/-- Two toggles that both decide before either request takes effect leave a microphone on that was
off, though the session lasts and the transport does as it is told. -/
theorem microphone_on_after_toggles_at_once :
    ∃ first last, (Exchange.new (.ofSeconds 15 0)).run? metAlone = some first ∧
      first.toggling .audio = false ∧ first.run? togglesAtOnce = some last ∧
      first.throughout (fun exchange action =>
        steady .audio exchange action && exchange.room.session.call = .connected) togglesAtOnce =
          true ∧
      last.room.session.call = .connected ∧ last.toggling .audio = false ∧
      togglesAtOnce.countP (·.startsToggle .audio) = 2 ∧
      (2).repeat not (first.isOn .audio) = false ∧ last.isOn .audio = true :=
  ⟨_, _, rfl, rfl, rfl, rfl, rfl, rfl, rfl, rfl, rfl⟩

end Exchange

end MeetingRoom
