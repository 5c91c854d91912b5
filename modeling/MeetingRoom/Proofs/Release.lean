import MeetingRoom.Proofs.Devices

/-!
Everything that is opened is closed again. As long as a media session is open or a device is up,
there is a session, or somebody owes a teardown, or a handshake has just come through and its
attempt will either be accepted or have to release what it has got. Without toggles, and without
events that no listener brings, every step keeps that. So when everything has come to its end and
there is no session, nothing is left open.
-/

namespace MeetingRoom

variable {Remote : Type}

namespace Exchange

/-- Whether an attempt has got through to the transport and has not come back with it yet. -/
def Arrives (exchange : Exchange Remote) (number : Nat) : Session.Attempt → Prop
  | .handshake _ => .call number ∈ exchange.carried
  | .settling _ (.ok _) => True
  | _ => False

def Covered (exchange : Exchange Remote) : Prop :=
  exchange.room.session.phase = .live ∨ exchange.Owed ∨
    ∃ number request stage, exchange.room.task? (.call number) = some (.attempt request stage) ∧
      exchange.Arrives number stage

def Holds (exchange : Exchange Remote) : Prop :=
  exchange.connected = true ∨ ∃ track, exchange.isOn track = true

/-- Neither a toggle nor an event that no listener brings. -/
def Action.isPlain : Action Remote → Bool
  | .room (.call (.toggle _)) => false
  | .room (.event _ _) => false
  | _ => true

/-! ### A handshake that has come through -/

section Arrival

variable {exchange next : Exchange Remote} {action : Room.Action Remote} {number epoch : Nat}
  {request : Session.Request}

/-- Others leave it as it is. -/
private theorem arrives_of_others {stage : Session.Attempt} (sound : exchange.Sound)
    (acts : exchange.Acts action next)
    (found : exchange.room.task? (.call number) = some (.attempt request stage))
    (arrives : exchange.Arrives number stage) (others : action.task? ≠ some (.call number)) :
    next.Covered := by
  have issued := (sound.coherent.calls number _ found).1
  obtain ⟨still, asked, _results⟩ := sound.coherent.others acts.stepped others
  refine Or.inr (Or.inr ⟨number, request, stage, (still issued).trans found, ?_⟩)
  cases stage with
  | handshake epoch =>
      change .call number ∈ next.carried
      rw [acts.carried]
      have requested := asked.mpr (sound.asked _ arrives)
      exact List.mem_filter.mpr ⟨arrives, List.contains_iff_mem.mpr requested⟩
  | settling epoch answer =>
      cases answer with
      | ok done => trivial
      | error fault => cases arrives
  | _ => cases arrives

/-- The transport has already been asked, and can only answer that it is done. -/
private theorem covered_of_shaken (sound : exchange.Sound) (acts : exchange.Acts action next)
    (found : exchange.room.task? (.call number) = some (.attempt request (.handshake epoch)))
    (carried : .call number ∈ exchange.carried) (moved : action.task? = some (.call number)) :
    next.Covered := by
  rcases answer_of_ask acts.stepped moved found rfl with asked | ⟨answer, answered⟩
  · subst asked
    obtain ⟨_task, _found, _asks, unasked, _same⟩ := Room.ask?_eq_some_iff.mp acts.stepped
    exact absurd (sound.asked _ carried) unasked
  · subst answered
    have permitted := acts.permitted
    rw [permits, List.contains_iff_mem.mpr carried] at permitted
    have done : answer = .done := by simpa using permitted
    subst done
    obtain ⟨task, later, journal, same, _asked, answered, proceeded⟩ :=
      Room.answer?_eq_some_iff.mp acts.stepped
    rw [found] at same
    cases same
    have goesOn := @Room.task?_proceed Remote
      { exchange.room with journal := exchange.room.journal ++ journal } (.call number) _ found
      later (.call number)
    rw [proceeded, if_pos rfl] at goesOn
    cases answered
    exact Or.inr (Or.inr ⟨number, request, .settling epoch (.ok ()), goesOn, trivial⟩)

/-- The attempt is accepted if its session is still there, and has to release the transport
otherwise. -/
private theorem covered_of_settled {done : Unit} (sound : exchange.Sound)
    (acts : exchange.Acts action next)
    (found : exchange.room.task? (.call number) =
      some (.attempt request (.settling epoch (.ok done))))
    (moved : action.task? = some (.call number)) : next.Covered := by
  by_cases current : exchange.room.session.epoch = epoch
  · have stepped := acts.stepped
    cases action with
    | work worker view =>
        cases moved
        obtain ⟨task, part, same, _may, worked, enacted⟩ := Room.work?_eq_some_iff.mp stepped
        rw [found] at same
        cases same
        cases worked
        apply Or.inl
        rw [← enacted, Room.session_enact, Session.Attempt.settle, if_pos current]
        rfl
    | ask asker =>
        cases moved
        obtain ⟨task, same, asks, _new, _next⟩ := Room.ask?_eq_some_iff.mp stepped
        rw [found] at same
        cases same
        cases asks
    | answer asker answer =>
        cases moved
        obtain ⟨task, later, journal, same, _asked, answered, _next⟩ :=
          Room.answer?_eq_some_iff.mp stepped
        rw [found] at same
        cases same
        cases answered
    | call operation => cases moved
    | hear listener event? => cases moved
    | event view event => cases moved
    | voice text? => cases moved
  · have owes : exchange.Owed := ⟨_, _, found, Or.inl (decide_eq_true (Ne.symm current))⟩
    exact Or.inr (Or.inl (owes.act sound.coherent acts))

end Arrival

/-- Nothing that happens in the room leaves what is open to nobody, unless a session is
abandoned. -/
theorem Covered.act {exchange next : Exchange Remote} {action : Room.Action Remote}
    (covered : exchange.Covered) (sound : exchange.Sound) (acts : exchange.Acts action next)
    (unabandoned : next.abandoned = []) : next.Covered := by
  have coherent := sound.coherent
  rcases covered with live | owed | ⟨number, request, stage, found, arrives⟩
  · by_cases same : next.room.session.epoch = exchange.room.session.epoch
    · exact Or.inl (coherent.live_step acts.stepped live same)
    · rcases owed_of_end coherent acts live same with owed | abandoned
      · exact Or.inr (Or.inl owed)
      · rw [unabandoned] at abandoned
        cases abandoned
  · exact Or.inr (Or.inl (owed.act coherent acts))
  · by_cases moved : action.task? = some (.call number)
    · cases stage with
      | handshake epoch => exact covered_of_shaken sound acts found arrives moved
      | settling epoch answer =>
          cases answer with
          | ok done => exact covered_of_settled sound acts found moved
          | error fault => cases arrives
      | _ => cases arrives
    · exact arrives_of_others sound acts found arrives moved

/-! ### Runs without toggles -/

structure Secured (exchange : Exchange Remote) : Prop where
  sound : exchange.Sound
  unabandoned : exchange.abandoned = []
  toggleless : ∀ id track stage, exchange.room.task? id ≠ some (.toggle track stage)
  covered : exchange.Holds → exchange.Covered

theorem Secured.new (limit : Duration) : (new limit : Exchange Remote).Secured := by
  refine ⟨Sound.new limit, rfl, ?_, ?_⟩
  · intro id track stage found
    cases found
  · intro holds
    rcases holds with connected | ⟨track, on⟩
    · cases connected
    · cases on

/-- Nobody but a caller brings a toggle in. -/
private theorem toggleless_act {exchange next : Exchange Remote} {action : Room.Action Remote}
    (secured : exchange.Secured) (acts : exchange.Acts action next)
    (plain : (Action.room action).isPlain = true) {id : Room.TaskId} {track : Media.Track}
    {stage : Session.Toggle} (found : next.room.task? id = some (.toggle track stage)) : False := by
  have stepped := acts.stepped
  rcases secured.sound.coherent.moves_of_step stepped with
      ⟨mover, moving, part, _moved, moves, enacted⟩ | ⟨operation, rfl⟩ | ⟨asker, rfl⟩ |
      ⟨view, event, rfl⟩ | ⟨text?, rfl⟩
  · rcases moves.origin (enacted ▸ found) with ⟨_own, waits⟩ | ⟨_other, _kept, old⟩ | ⟨_heir, new⟩
    · obtain ⟨before, toggle⟩ := (moves.follows _ waits).of_toggle
      exact secured.toggleless mover track before (toggle ▸ moves.found)
    · exact secured.toggleless id track stage old
    · cases (moves.listener_eq new).2.1
  · rw [← Option.some.inj stepped] at found
    rcases Room.origin_start found with old | ⟨_same, new⟩
    · exact secured.toggleless id track stage old
    · cases operation with
      | join request => cases new
      | hangUp => cases new
      | toggle own => cases plain
  · obtain ⟨_waiting, _found, _asks, _new, same⟩ := Room.ask?_eq_some_iff.mp stepped
    rw [← same] at found
    exact secured.toggleless id track stage found
  · cases plain
  · rw [← Option.some.inj stepped] at found
    exact secured.toggleless id track stage found

private theorem Secured.act {exchange next : Exchange Remote} {action : Room.Action Remote}
    (secured : exchange.Secured) (acted : exchange.act? action = some next)
    (plain : (Action.room action).isPlain = true) : next.Secured := by
  have acts := acts_of_act? acted
  have unabandoned : next.abandoned = [] := by
    have stays : abandons exchange.room action = false := by
      cases action with
      | event view event => cases plain
      | _ => rfl
    rw [acts.abandoned, stays, secured.unabandoned]
    rfl
  have stepped : exchange.step? (.room action) = some next := acted
  refine ⟨secured.sound.step stepped, unabandoned, ?_, ?_⟩
  · intro id track stage found
    exact toggleless_act secured acts plain found
  · intro holds
    rw [Holds, acts.connected] at holds
    simp only [isOn, acts.holder] at holds
    exact (secured.covered holds).act secured.sound acts unabandoned

private theorem attempt_of_connect {task : Session.Task Remote} {url token : String}
    (asks : task.ask? = some (.connect url token)) :
    ∃ request epoch, task = .attempt request (.handshake epoch) := by
  cases task with
  | attempt request stage =>
      cases stage with
      | handshake epoch => exact ⟨request, epoch, rfl⟩
      | _ => cases asks
  | hangUp stage => cases stage <;> cases asks
  | toggle track stage => cases stage <;> cases asks
  | listener epoch stage => cases stage <;> cases asks

private theorem attempt_of_enable {task : Session.Task Remote} {track : Media.Track}
    {enabled : Bool} (asks : task.ask? = some (.enable track enabled))
    (toggleless : ∀ own stage, task ≠ .toggle own stage) :
    ∃ request epoch todo, task = .attempt request (.switching epoch track todo) := by
  cases task with
  | attempt request stage =>
      cases stage with
      | switching epoch own todo => cases asks; exact ⟨request, epoch, todo, rfl⟩
      | _ => cases asks
  | hangUp stage => cases stage <;> cases asks
  | toggle own stage => exact absurd rfl (toggleless own stage)
  | listener epoch stage => cases stage <;> cases asks

/-- What takes effect is a handshake, which arrives, or a device of an attempt, which has a session
or has to release it, or a teardown, which leaves nothing open. -/
private theorem covered_effect {exchange next : Exchange Remote} {id : Room.TaskId}
    (secured : exchange.Secured) (effected : exchange.effect? id = some next)
    (holds : next.Holds) : next.Covered := by
  have coherent := secured.sound.coherent
  obtain ⟨task, ask, found, asks, _asked, _fresh, rfl⟩ := effect?_eq_some_iff.mp effected
  cases ask with
  | connect url token =>
      obtain ⟨request, epoch, rfl⟩ := attempt_of_connect asks
      obtain ⟨number, rfl⟩ := coherent.attempt_call found
      refine Or.inr (Or.inr ⟨number, request, .handshake epoch, found, ?_⟩)
      exact List.mem_append_right _ (List.mem_singleton_self _)
  | enable track enabled =>
      have toggleless : ∀ own stage, task ≠ .toggle own stage := by
        intro own stage same
        exact secured.toggleless id own stage (same ▸ found)
      obtain ⟨request, epoch, todo, rfl⟩ := attempt_of_enable asks toggleless
      by_cases current : epoch = exchange.room.session.epoch
      · exact Or.inl (coherent.stage_phase found (congrArg some current) rfl)
      · exact Or.inr (Or.inl ⟨id, _, found, Or.inl (decide_eq_true current)⟩)
  | disconnect =>
      rcases holds with connected | ⟨track, on⟩
      · cases connected
      · cases on

theorem Secured.step {exchange next : Exchange Remote} {action : Action Remote}
    (secured : exchange.Secured) (plain : action.isPlain = true)
    (stepped : exchange.step? action = some next) : next.Secured := by
  cases action with
  | room action => exact secured.act stepped plain
  | effect id =>
      obtain ⟨task, ask, _found, _asks, _asked, _fresh, same⟩ := effect?_eq_some_iff.mp stepped
      have room : next.room = exchange.room := by
        rw [← same]
        exact room_carryOut exchange task ask
      have abandoned : next.abandoned = exchange.abandoned := by
        rw [← same]
        cases ask <;> rfl
      refine ⟨secured.sound.step stepped, abandoned.trans secured.unabandoned, ?_, ?_⟩
      · rw [room]
        exact secured.toggleless
      · exact covered_effect secured stepped

theorem Secured.run {limit : Duration} {actions : List (Action Remote)}
    {exchange : Exchange Remote} (plain : ∀ action ∈ actions, action.isPlain = true)
    (ran : (Exchange.new limit).run? actions = some exchange) : exchange.Secured := by
  refine run_keeps_of_kind ?_ plain (Secured.new limit) ran
  intro reached action next isPlain secured stepped
  exact secured.step isPlain stepped

/-- In a run without toggles, and with events from listeners only: once everything has come to its
end and there is no session, the transport holds no media session and every device is down. -/
theorem nothing_left_open {limit : Duration} {actions : List (Action Remote)}
    {exchange : Exchange Remote} (ran : (Exchange.new limit).run? actions = some exchange)
    (plain : ∀ action ∈ actions, action.isPlain = true) (finished : exchange.room.tasks = [])
    (disconnected : exchange.room.session.call = .disconnected) :
    exchange.connected = false ∧ ∀ track, exchange.isOn track = false := by
  have secured := Secured.run plain ran
  have gone : ∀ id, exchange.room.task? id = none := by
    intro id
    rw [Room.task?, finished]
    rfl
  have nothing : ¬exchange.Holds := by
    intro holds
    rcases secured.covered holds with live | ⟨id, task, found, _owes⟩ |
        ⟨number, request, stage, found, _arrives⟩
    · rw [Session.disconnected_iff.mp disconnected] at live
      cases live
    · rw [gone] at found
      cases found
    · rw [gone] at found
      cases found
  constructor
  · exact Bool.eq_false_iff.mpr fun connected => nothing (Or.inl connected)
  · intro track
    exact Bool.eq_false_iff.mpr fun on => nothing (Or.inr ⟨track, on⟩)

/-- An attempt that wants the microphone, and a hang-up while the transport brings it up. The
teardown of the hang-up is through before the microphone comes up. -/
def microphoneComesLate : List (Action Unit) :=
  [.room (.call (.join { url := "wss://media", token := "token", audio := true, video := false })),
    .room (.work (.call 0) .empty), .room (.work (.call 0) .empty), .room (.work (.call 0) .empty),
    .room (.ask (.call 0)), .effect (.call 0), .room (.answer (.call 0) .done),
    .room (.work (.call 0) aloneView), .room (.work (.call 0) aloneView), .room (.ask (.call 0)),
    .room (.call .hangUp), .room (.work (.call 1) .empty), .room (.ask (.call 1)),
    .effect (.call 1), .room (.answer (.call 1) .done), .effect (.call 0)]

def attemptReleases : List (Action Unit) :=
  [.room (.answer (.call 0) .done), .room (.work (.call 0) .empty), .room (.ask (.call 0)),
    .effect (.call 0), .room (.answer (.call 0) .done)]

theorem late_microphone_released :
    ∃ late exchange, (Exchange.new (.ofSeconds 15 0)).run? microphoneComesLate = some late ∧
      late.room.session.call = .disconnected ∧ late.isOn .audio = true ∧
      (Exchange.new (.ofSeconds 15 0)).run? (microphoneComesLate ++ attemptReleases) =
        some exchange ∧
      exchange.room.tasks = [] ∧ exchange.connected = false ∧
        ∀ track, exchange.isOn track = false := by
  refine ⟨_, _, rfl, rfl, rfl, rfl, rfl, ?_⟩
  have plain : (microphoneComesLate ++ attemptReleases).all (·.isPlain) = true := rfl
  exact @nothing_left_open Unit (.ofSeconds 15 0) (microphoneComesLate ++ attemptReleases) _ rfl
    (List.all_eq_true.mp plain) rfl rfl

end Exchange

end MeetingRoom
