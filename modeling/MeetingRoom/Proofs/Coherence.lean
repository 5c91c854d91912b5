import MeetingRoom.Proofs.Fits
import MeetingRoom.Proofs.Tasks

/-!
What holds in every room that can be reached: each task fits the session, attempts have epochs of
their own and take turns, and while a session is live no other attempt has anything to do with the
transport. One action keeps all of it, so a whole run does.
-/

namespace MeetingRoom

variable {Remote : Type}

/-- A run of actions of one kind keeps what each step of that kind keeps. -/
theorem run_keeps_of_kind {State Action : Type} {step? : State → Action → Option State}
    {invariant : State → Prop} {kind : Action → Prop}
    (keeps : ∀ state action next, kind action → invariant state →
      step? state action = some next → invariant next)
    {first last : State} {actions : List Action} (kinds : ∀ action ∈ actions, kind action)
    (holds : invariant first) (ran : actions.foldlM step? first = some last) : invariant last := by
  induction actions generalizing first with
  | nil =>
      cases ran
      exact holds
  | cons action rest ih =>
      rw [List.foldlM_cons] at ran
      obtain ⟨next, stepped, rested⟩ := Option.bind_eq_some_iff.mp ran
      refine ih (fun other member => kinds other (List.mem_cons_of_mem action member)) ?_ rested
      exact keeps first action next (kinds action List.mem_cons_self) holds stepped

/-- A run keeps what each of its steps keeps. -/
theorem run_keeps {State Action : Type} {step? : State → Action → Option State}
    {invariant : State → Prop}
    (keeps : ∀ state action next, invariant state → step? state action = some next → invariant next)
    {first last : State} {actions : List Action} (holds : invariant first)
    (ran : actions.foldlM step? first = some last) : invariant last :=
  @run_keeps_of_kind State Action step? invariant (fun _ => True)
    (fun state action next _any => keeps state action next) first last actions
    (fun _action _member => trivial) holds ran

section Notes

variable {State Action Note : Type} {step? : State → Action → Option State}
  {note? : State → Action → Option Note}

def noted (step? : State → Action → Option State) (note? : State → Action → Option Note) :
    State → List Action → List Note
  | _, [] => []
  | state, action :: rest =>
      match step? state action with
      | some next => (note? state action).toList ++ noted step? note? next rest
      | none => []

/-- A run keeps what each of its steps keeps of the state and of what was noted last. -/
theorem run_keeps_last {invariant : State → Option Note → Prop}
    (keeps : ∀ state action next last, invariant state last → step? state action = some next →
      invariant next ((note? state action).or last))
    {first final : State} {actions : List Action} {last : Option Note}
    (holds : invariant first last) (ran : actions.foldlM step? first = some final) :
    invariant final ((noted step? note? first actions).getLast?.or last) := by
  induction actions generalizing first last with
  | nil =>
      cases ran
      exact holds
  | cons action rest ih =>
      rw [List.foldlM_cons] at ran
      obtain ⟨next, stepped, rested⟩ := Option.bind_eq_some_iff.mp ran
      have later := ih (keeps first action next last holds stepped) rested
      have single : ((note? first action).toList).getLast? = note? first action := by
        cases note? first action <;> rfl
      rw [noted, stepped, List.getLast?_append, single, Option.or_assoc]
      exact later

end Notes

namespace Room

/-- What every room keeps that starts empty. -/
structure Coherent (room : Room Remote) : Prop where
  fits : ∀ id task, room.task? id = some task → task.Fits id.number room.session
  apart : ∀ left right leftTask rightTask, left ≠ right → room.task? left = some leftTask →
    room.task? right = some rightTask → leftTask.Apart rightTask
  /-- Calls hold what callers ask for. -/
  calls : ∀ number task, room.task? (.call number) = some task →
    number < room.calls ∧ ∀ epoch stage, task ≠ .listener epoch stage
  /-- A listener comes after the attempt that started it. -/
  heirs : ∀ number task, room.task? (.listener number) = some task →
    number < room.calls ∧ room.task? (.call number) = none ∧
      ∃ epoch stage, task = .listener epoch stage
  /-- The turn belongs to the first in line. -/
  turn : ∀ id request stage, room.task? id = some (.attempt request stage) →
    stage.hasTurn = true → room.line.head? = some id.number
  /-- In a live session the turn is with the attempt that brought it about, if anywhere. -/
  alone : room.session.phase = .live → ∀ id request stage,
    room.task? id = some (.attempt request stage) → stage.hasTurn = true →
      (Session.Task.attempt request stage : Session.Task Remote).epoch? = some room.session.epoch
  listener : ∀ number, room.session.listener = some number →
    ∃ stage, room.task? (.listener number) = some (.listener room.session.epoch stage)
  asked : ∀ id, id ∈ room.asked → ∃ task, room.task? id = some task ∧ task.ask?.isSome = true

theorem Coherent.new (limit : Duration) : (new limit : Room Remote).Coherent := by
  refine ⟨?_, ?_, ?_, ?_, ?_, ?_, ?_, ?_⟩
  · intro id task found
    cases found
  · intro left right leftTask rightTask _different found
    cases found
  · intro number task found
    cases found
  · intro number task found
    cases found
  · intro id request stage found
    cases found
  · intro _live id request stage found
    cases found
  · intro number held
    cases held
  · intro id asked
    cases asked

namespace Coherent

variable {room : Room Remote}

theorem fresh (coherent : room.Coherent) : room.task? (.call room.calls) = none := by
  cases found : room.task? (.call room.calls) with
  | none => rfl
  | some task => exact absurd (coherent.calls _ task found).1 (Nat.lt_irrefl _)

theorem quiet (coherent : room.Coherent) (idle : room.session.phase ≠ .live) :
    room.session.listener = none := by
  cases held : room.session.listener with
  | none => rfl
  | some number =>
      obtain ⟨stage, found⟩ := coherent.listener number held
      have fits := coherent.fits _ _ found
      have phase := fits.phase rfl
      cases stage with
      | waiting => exact absurd (Option.some.inj phase).symm idle
      | holding event? => exact absurd (Option.some.inj phase).symm idle
      | releasing => cases phase

theorem attempt_call (coherent : room.Coherent) {id : TaskId} {request : Session.Request}
    {stage : Session.Attempt} (found : room.task? id = some (.attempt request stage)) :
    ∃ number, id = .call number := by
  cases id with
  | call number => exact ⟨number, rfl⟩
  | listener number =>
      obtain ⟨epoch, otherStage, same⟩ := (coherent.heirs number _ found).2.2
      cases same

/-- A task of an epoch is there only in the phase in which its stage belongs. -/
theorem stage_phase (coherent : room.Coherent) {id : TaskId} {task : Session.Task Remote}
    {phase : Session.Phase} (found : room.task? id = some task)
    (belongs : task.epoch? = some room.session.epoch) (wants : task.phase? = some phase) :
    room.session.phase = phase :=
  (coherent.fits id task found).phase_eq belongs wants

end Coherent

/-! ### A task that moves -/

/-- A task goes on as its section, an answer or an event lets it. -/
structure Moves (room : Room Remote) (id : TaskId) (task : Session.Task Remote)
    (part : Session.Section Remote) : Prop where
  found : room.task? id = some task
  change : Session.Task.Change id.number room.session task part
  follows : ∀ later, part.next = .waits later → Session.Task.Follows room.session task later
  fits : ∀ later, part.next = .waits later → later.Fits id.number part.session
  /-- A listener does not stop while its session is there. -/
  stays : ∀ result epoch stage, part.next = .ends result → task = .listener epoch stage →
    epoch ≠ room.session.epoch
  turn : ∀ request epoch, task = .attempt request (.queued epoch) →
    room.line.head? = some id.number
  tears : ∀ later, part.next = .waits later → later.tearsDown = true →
    part.session.epoch = room.session.epoch + 1
  releases : task.mustRelease room.session = true → ∃ later, part.next = .waits later ∧
    (later.mustRelease room.session = true ∨ later.ask? = some .disconnect)

namespace Moves

variable {room : Room Remote} {id : TaskId} {task : Session.Task Remote} {part : Session.Section Remote}

/-- A task of the room after a move has moved, has stayed, or is the new listener. -/
theorem origin (moves : room.Moves id task part) {other : TaskId}
    {later : Session.Task Remote} (found : (room.enact id part).task? other = some later) :
    (other = id ∧ part.next = .waits later) ∨
      (other ≠ id ∧ part.dropped.map TaskId.listener ≠ some other ∧
        room.task? other = some later) ∨
      (other = .listener id.number ∧ part.listener = some later) := by
  rw [task?_enact moves.found] at found
  rcases Option.or_eq_some_iff.mp found with old | ⟨_gone, new⟩
  · split at old
    · cases old
    · rename_i kept
      split at old
      · rename_i same
        refine Or.inl ⟨same, ?_⟩
        cases next : part.next with
        | waits waiting => rw [next] at old; cases old; rfl
        | ends result => rw [next] at old; cases old
      · rename_i different
        exact Or.inr (Or.inl ⟨different, kept, old⟩)
  · split at new
    · rename_i same
      exact Or.inr (Or.inr ⟨same, new⟩)
    · cases new

theorem task?_other (moves : room.Moves id task part) {other : TaskId}
    {later : Session.Task Remote} (different : other ≠ id)
    (kept : part.dropped.map TaskId.listener ≠ some other)
    (found : room.task? other = some later) : (room.enact id part).task? other = some later := by
  rw [task?_enact moves.found, if_neg kept, if_neg different, found]
  rfl

theorem task?_self (moves : room.Moves id task part) {later : Session.Task Remote}
    (kept : part.dropped.map TaskId.listener ≠ some id) (next : part.next = .waits later) :
    (room.enact id part).task? id = some later := by
  rw [task?_enact moves.found, if_neg kept, if_pos rfl, next]
  rfl

/-- What becomes of a call that moves: its place, its request and its result. -/
theorem call_enact {number : Nat} (moves : room.Moves (.call number) task part) :
    (room.enact (.call number) part).task? (.call number) = part.next.task? ∧
      .call number ∉ (room.enact (.call number) part).asked ∧
      ∀ result, (number, result) ∈ (room.enact (.call number) part).results →
        (number, result) ∈ room.results ∨ part.next = .ends result := by
  obtain ⟨goesOn, unasked, results⟩ := Room.call_enact moves.found part
  exact ⟨goesOn, unasked, fun result => (results result).mp⟩

/-- Only an attempt that completes starts a listener, and it has ended then. -/
theorem listener_eq (moves : room.Moves id task part) {started : Session.Task Remote}
    (new : part.listener = some started) :
    (∃ request, task = .attempt request (.enabling room.session.epoch [])) ∧
      started = .listener room.session.epoch .waiting ∧
      part.next = .ends (.attempt (.ok .connected)) ∧ part.dropped = none ∧
      part.session.epoch = room.session.epoch ∧ part.session.phase = room.session.phase ∧
      part.session.listener = some id.number := by
  cases moves.change with
  | completes request enables epoch phase held next listener dropped =>
      rw [listener] at new
      cases new
      exact ⟨⟨request, enables⟩, rfl, next, dropped, epoch, phase, held⟩
  | continues _ listener => rw [listener] at new; cases new
  | admits _ _ _ _ _ _ _ _ listener => rw [listener] at new; cases new
  | accepts _ _ _ _ _ _ listener => rw [listener] at new; cases new
  | fails _ _ _ _ _ _ _ listener => rw [listener] at new; cases new
  | hangsUp _ _ _ _ _ listener => rw [listener] at new; cases new
  | loses _ _ _ _ _ _ _ _ listener => rw [listener] at new; cases new

/-- A hang-up drops the listener of the session, which has no teardown to make. -/
theorem dropped_eq (coherent : room.Coherent) (moves : room.Moves id task part) {other : TaskId}
    (dropped : part.dropped.map TaskId.listener = some other) :
    ∃ stage, room.task? other = some (.listener room.session.epoch stage) ∧
      stage ≠ .releasing := by
  have held : part.dropped = room.session.listener := by
    cases moves.change with
    | hangsUp _ _ _ _ _ _ same => exact same
    | continues _ _ none => rw [none] at dropped; cases dropped
    | admits _ _ _ _ _ _ _ _ _ none => rw [none] at dropped; cases dropped
    | accepts _ _ _ _ _ _ _ none => rw [none] at dropped; cases dropped
    | fails _ _ _ _ _ _ _ _ none => rw [none] at dropped; cases dropped
    | completes _ _ _ _ _ _ _ none => rw [none] at dropped; cases dropped
    | loses _ _ _ _ _ _ _ _ _ none => rw [none] at dropped; cases dropped
  rw [held] at dropped
  obtain ⟨number, listening, same⟩ := Option.map_eq_some_iff.mp dropped
  obtain ⟨stage, found⟩ := coherent.listener number listening
  rw [same] at found
  refine ⟨stage, found, ?_⟩
  intro releasing
  subst releasing
  cases (coherent.fits other _ found).phase rfl

/-- No call is new. -/
theorem task?_call_none (moves : room.Moves id task part) {number : Nat}
    (none : room.task? (.call number) = none) :
    (room.enact id part).task? (.call number) = Option.none := by
  cases found : (room.enact id part).task? (.call number) with
  | none => rfl
  | some later =>
      rcases moves.origin found with ⟨same, _next⟩ | ⟨_different, _kept, old⟩ | ⟨same, _new⟩
      · rw [same, moves.found] at none
        cases none
      · rw [old] at none
        cases none
      · cases same

/-! ### A move keeps a room coherent -/

private theorem fits_enact (coherent : room.Coherent) (moves : room.Moves id task part)
    {other : TaskId} {later : Session.Task Remote}
    (found : (room.enact id part).task? other = some later) :
    later.Fits other.number (room.enact id part).session := by
  rw [session_enact]
  rcases moves.origin found with ⟨same, next⟩ | ⟨different, _kept, old⟩ | ⟨same, new⟩
  · rw [same]
    exact moves.fits later next
  · have apart := coherent.apart id other task later (Ne.symm different) moves.found old
    exact (coherent.fits id task moves.found).of_change moves.change (coherent.fits other later old)
      apart
  · obtain ⟨⟨request, enables⟩, started, _next, _dropped, epoch, phase, held⟩ :=
      moves.listener_eq new
    have live : room.session.phase = .live := by
      apply coherent.stage_phase moves.found
      · rw [enables]
        rfl
      · rw [enables]
        rfl
    rw [started, same]
    refine ⟨?_, ?_, ?_, ?_⟩
    · rintro old ⟨⟩
      exact Nat.le_of_eq epoch.symm
    · intro _belongs
      rw [phase, live]
      rfl
    · rintro request stage ⟨⟩
    · intro stage _same
      exact held

private theorem apart_enact (coherent : room.Coherent) (moves : room.Moves id task part)
    {left right : TaskId} {leftTask rightTask : Session.Task Remote} (different : left ≠ right)
    (leftFound : (room.enact id part).task? left = some leftTask)
    (rightFound : (room.enact id part).task? right = some rightTask) :
    leftTask.Apart rightTask := by
  rcases moves.origin leftFound with ⟨leftSame, leftNext⟩ | ⟨leftOther, _leftKept, leftOld⟩ |
      ⟨leftSame, leftNew⟩
  · rcases moves.origin rightFound with ⟨rightSame, _rightNext⟩ | ⟨rightOther, _rightKept, rightOld⟩ |
        ⟨rightSame, rightNew⟩
    · exact absurd (leftSame.trans rightSame.symm) different
    · have apart := coherent.apart id right task rightTask (Ne.symm rightOther) moves.found rightOld
      exact apart.of_follows (moves.follows leftTask leftNext) (coherent.fits right rightTask rightOld)
    · rw [(moves.listener_eq rightNew).2.1]
      exact Session.Task.Apart.of_listener.symm
  · rcases moves.origin rightFound with ⟨rightSame, rightNext⟩ | ⟨rightOther, _rightKept, rightOld⟩ |
        ⟨rightSame, rightNew⟩
    · have apart := coherent.apart id left task leftTask (Ne.symm leftOther) moves.found leftOld
      exact (apart.of_follows (moves.follows rightTask rightNext)
        (coherent.fits left leftTask leftOld)).symm
    · exact coherent.apart left right leftTask rightTask different leftOld rightOld
    · rw [(moves.listener_eq rightNew).2.1]
      exact Session.Task.Apart.of_listener.symm
  · rw [(moves.listener_eq leftNew).2.1]
    exact Session.Task.Apart.of_listener

private theorem calls_enact (coherent : room.Coherent) (moves : room.Moves id task part)
    {number : Nat} {later : Session.Task Remote}
    (found : (room.enact id part).task? (.call number) = some later) :
    number < (room.enact id part).calls ∧ ∀ epoch stage, later ≠ .listener epoch stage := by
  rw [Room.calls_enact]
  rcases moves.origin found with ⟨same, next⟩ | ⟨_different, _kept, old⟩ | ⟨same, _new⟩
  · have before := coherent.calls number task (same ▸ moves.found)
    refine ⟨before.1, ?_⟩
    intro epoch stage heir
    rw [heir] at next
    obtain ⟨earlier, listener⟩ := (moves.follows _ next).of_listener
    exact before.2 epoch earlier listener
  · exact coherent.calls number later old
  · cases same

private theorem heirs_enact (coherent : room.Coherent) (moves : room.Moves id task part)
    {number : Nat} {later : Session.Task Remote}
    (found : (room.enact id part).task? (.listener number) = some later) :
    number < (room.enact id part).calls ∧ (room.enact id part).task? (.call number) = none ∧
      ∃ epoch stage, later = .listener epoch stage := by
  rw [Room.calls_enact]
  rcases moves.origin found with ⟨same, next⟩ | ⟨_different, _kept, old⟩ | ⟨same, new⟩
  · obtain ⟨issued, ended, epoch, stage, listener⟩ := coherent.heirs number task (same ▸ moves.found)
    have follows := moves.follows later next
    rw [listener] at follows
    obtain ⟨after, listens⟩ := follows.listener
    exact ⟨issued, moves.task?_call_none ended, epoch, after, listens⟩
  · obtain ⟨issued, ended, listens⟩ := coherent.heirs number later old
    exact ⟨issued, moves.task?_call_none ended, listens⟩
  · obtain ⟨⟨request, enables⟩, started, next, dropped, _epoch, _phase, _held⟩ :=
      moves.listener_eq new
    have attempt := moves.found
    rw [enables] at attempt
    obtain ⟨call, own⟩ := coherent.attempt_call attempt
    cases own
    cases same
    refine ⟨(coherent.calls call _ attempt).1, ?_, _, _, started⟩
    rw [task?_enact moves.found, dropped, next]
    simp [TaskId.number, Session.Next.task?]

private theorem turn_enact (coherent : room.Coherent) (moves : room.Moves id task part)
    {other : TaskId} {request : Session.Request} {stage : Session.Attempt}
    (found : (room.enact id part).task? other = some (.attempt request stage))
    (turn : stage.hasTurn = true) : (room.enact id part).line.head? = some other.number := by
  rw [line_enact, line_proceed]
  rcases moves.origin found with ⟨same, next⟩ | ⟨different, _kept, old⟩ | ⟨_same, new⟩
  · have queued : (Session.Task.attempt request stage : Session.Task Remote).isQueued = false := by
      cases stage <;> first | rfl | cases turn
    have follows := moves.follows _ next
    obtain ⟨before, earlier⟩ := follows.of_attempt
    rw [next, same]
    dsimp only
    rw [queued, if_neg Bool.false_ne_true]
    rw [earlier] at follows
    rcases follows.hasTurn turn with had | ⟨epoch, waited⟩
    · exact coherent.turn id request before (earlier ▸ moves.found) had
    · exact moves.turn request epoch (waited ▸ earlier)
  · have head := coherent.turn other request stage old turn
    obtain ⟨number, call⟩ := coherent.attempt_call old
    cases next : part.next with
    | waits later =>
        dsimp only
        split
        · rw [List.head?_append, head]
          rfl
        · exact head
    | ends result =>
        cases id with
        | call ended =>
            subst call
            have apart : number ≠ ended := fun same => different (congrArg TaskId.call same)
            dsimp only
            obtain ⟨rest, line⟩ := List.head?_eq_some_iff.mp head
            rw [line]
            simp [TaskId.number, apart]
        | listener ended => exact head
  · cases (moves.listener_eq new).2.1

/-- In a live session the turn cannot be taken, so whoever has it had it before. -/
private theorem alone_next (coherent : room.Coherent) (moves : room.Moves id task part)
    (live : room.session.phase = .live) {request : Session.Request} {stage : Session.Attempt}
    (next : part.next = .waits (.attempt request stage)) (turn : stage.hasTurn = true) :
    (Session.Task.attempt request stage : Session.Task Remote).epoch? = some room.session.epoch := by
  have follows := moves.follows _ next
  obtain ⟨before, same⟩ := follows.of_attempt
  subst same
  have found := moves.found
  have belongs : before.hasTurn = true →
      (Session.Task.attempt request before : Session.Task Remote).epoch? =
        some room.session.epoch := coherent.alone live id request before found
  -- A stage of the handshake belongs to a session that is not live yet.
  have shaken : (Session.Task.attempt request before : Session.Task Remote).phase? =
      some .connecting → before.hasTurn = true → False := by
    intro connecting had
    rw [coherent.stage_phase found (belongs had) connecting] at live
    cases live
  cases follows with
  | admitted => cases turn
  | linedUp => cases turn
  | turned =>
      rw [coherent.stage_phase found rfl rfl] at live
      cases live
  | shaken => exact (shaken rfl rfl).elim
  | accepted => exact (shaken rfl rfl).elim
  | failed => exact (shaken rfl rfl).elim
  | discarded => exact (shaken rfl rfl).elim
  | enables => rfl
  | skips _ epoch todo late => exact absurd (Option.some.inj (belongs rfl)) late
  | switched => exact belongs rfl
  | tooLate _ epoch late => exact absurd (Option.some.inj (belongs rfl)) late

private theorem alone_enact (coherent : room.Coherent) (moves : room.Moves id task part)
    (live : (room.enact id part).session.phase = .live) {other : TaskId}
    {request : Session.Request} {stage : Session.Attempt}
    (found : (room.enact id part).task? other = some (.attempt request stage))
    (turn : stage.hasTurn = true) :
    (Session.Task.attempt request stage : Session.Task Remote).epoch? =
      some (room.enact id part).session.epoch := by
  rw [session_enact] at live ⊢
  -- The session was live before, or the attempt that has the turn is the one that was let in.
  have lived : part.session.phase = room.session.phase → part.session.epoch = room.session.epoch →
      (Session.Task.attempt request stage : Session.Task Remote).epoch? =
        some part.session.epoch := by
    intro phase epoch
    rw [phase] at live
    rw [epoch]
    rcases moves.origin found with ⟨_same, next⟩ | ⟨_different, _kept, old⟩ | ⟨_same, new⟩
    · exact alone_next coherent moves live next turn
    · exact coherent.alone live other request stage old turn
    · cases (moves.listener_eq new).2.1
  cases moves.change with
  | continues same => exact lived same.phase same.epoch
  | completes _ _ epoch phase => exact lived phase epoch
  | admits _ _ _ _ _ phase => rw [phase] at live; cases live
  | fails _ _ _ _ phase => rw [phase] at live; cases live
  | hangsUp _ _ phase => rw [phase] at live; cases live
  | loses _ _ _ _ _ phase => rw [phase] at live; cases live
  | accepts accepted settles epoch _phase _held accepts =>
      rcases moves.origin found with ⟨_same, next⟩ | ⟨different, _kept, old⟩ | ⟨_same, new⟩
      · rw [accepts] at next
        cases next
        rw [epoch]
        rfl
      · have settling := settles ▸ moves.found
        obtain ⟨number, call⟩ := coherent.attempt_call old
        obtain ⟨mine, own⟩ := coherent.attempt_call settling
        have head := coherent.turn other request stage old turn
        rw [coherent.turn id accepted _ settling rfl, own, call] at head
        exact absurd (call.trans (congrArg TaskId.call (Option.some.inj head).symm |>.trans own.symm))
          different
      · cases (moves.listener_eq new).2.1

private theorem listener_enact (coherent : room.Coherent) (moves : room.Moves id task part)
    {number : Nat} (held : (room.enact id part).session.listener = some number) :
    ∃ stage, (room.enact id part).task? (.listener number) =
      some (.listener (room.enact id part).session.epoch stage) := by
  rw [session_enact] at held ⊢
  have quiet : room.session.phase ≠ .live → part.session.listener = room.session.listener → False := by
    intro idle same
    rw [same, coherent.quiet idle] at held
    cases held
  cases moves.change with
  | continues same _listener dropped =>
      rw [same.listener] at held
      rw [same.epoch]
      have kept : part.dropped.map TaskId.listener ≠ some (.listener number) := by
        rw [dropped]
        intro gone
        cases gone
      obtain ⟨stage, found⟩ := coherent.listener number held
      by_cases own : TaskId.listener number = id
      · subst own
        have listens := Option.some.inj (moves.found.symm.trans found)
        cases next : part.next with
        | waits later =>
            have follows := moves.follows later next
            rw [listens] at follows
            obtain ⟨after, still⟩ := follows.listener
            exact ⟨after, still ▸ moves.task?_self kept next⟩
        | ends result => exact absurd rfl (moves.stays result _ stage next listens)
      · exact ⟨stage, moves.task?_other own kept found⟩
  | admits _ _ idle _ _ _ same =>
      exact (quiet (by rw [idle]; intro live; cases live) same).elim
  | accepts _ settles _ _ same =>
      have connecting := coherent.stage_phase (settles ▸ moves.found) rfl rfl
      exact (quiet (by rw [connecting]; intro live; cases live) same).elim
  | fails _ _ settles _ _ same =>
      have connecting := coherent.stage_phase (settles ▸ moves.found) rfl rfl
      exact (quiet (by rw [connecting]; intro live; cases live) same).elim
  | completes request enables epoch _phase held' next listener dropped =>
      have attempt := enables ▸ moves.found
      obtain ⟨call, own⟩ := coherent.attempt_call attempt
      subst own
      rw [held'] at held
      cases held
      have none : room.task? (.listener call) = none := by
        cases found : room.task? (.listener call) with
        | none => rfl
        | some heir =>
            have ended := (coherent.heirs call heir found).2.1
            rw [attempt] at ended
            cases ended
      refine ⟨.waiting, ?_⟩
      rw [task?_enact moves.found, dropped, listener, epoch]
      simp [TaskId.number, none]
  | hangsUp _ _ _ none => rw [none] at held; cases held
  | loses _ _ _ _ _ _ none => rw [none] at held; cases held

theorem coherent_enact (coherent : room.Coherent) (moves : room.Moves id task part) :
    (room.enact id part).Coherent := by
  refine ⟨?_, ?_, ?_, ?_, ?_, ?_, ?_, ?_⟩
  · intro other later found
    exact fits_enact coherent moves found
  · intro left right leftTask rightTask different leftFound rightFound
    exact apart_enact coherent moves different leftFound rightFound
  · intro number later found
    exact calls_enact coherent moves found
  · intro number later found
    exact heirs_enact coherent moves found
  · intro other request stage found turn
    exact turn_enact coherent moves found turn
  · intro live other request stage found turn
    exact alone_enact coherent moves live found turn
  · intro number held
    exact listener_enact coherent moves held
  · intro other asked
    obtain ⟨member, different, kept⟩ := (mem_asked_enact room id part other).mp asked
    obtain ⟨waiting, found, asks⟩ := coherent.asked other member
    exact ⟨waiting, moves.task?_other different kept found, asks⟩

end Moves

/-! ### Every action keeps a room coherent -/

namespace Coherent

variable {room next : Room Remote}

theorem moves_of_work (coherent : room.Coherent) {id : TaskId} {view : Media.View Remote}
    {task : Session.Task Remote} {part : Session.Section Remote}
    (found : room.task? id = some task) (may : room.mayWork id task = true)
    (worked : task.section? id.number view room.session = some part) :
    room.Moves id task part := by
  have fits := coherent.fits id task found
  have quiet : room.session.phase = .idle → room.session.listener = none := by
    intro idle
    exact coherent.quiet (by rw [idle]; intro live; cases live)
  refine ⟨found, Session.Task.section?_change worked, ?_, ?_, ?_, ?_, ?_, ?_⟩
  · intro later next
    exact Session.Task.section?_follows worked next
  · intro later next
    exact fits.next quiet worked next
  · rintro result epoch stage ends rfl current
    subst current
    cases stage with
    | waiting => cases worked
    | releasing => cases worked
    | holding event? =>
        cases worked
        unfold Session.Listening.handle at ends
        rw [if_pos rfl] at ends
        dsimp only at ends
        split at ends <;> cases ends
  · intro request epoch queued
    subst queued
    simpa [mayWork, Session.Task.isQueued] using may
  · intro later next tears
    refine Session.Task.section?_tearsDown ?_ worked next tears
    intro event? holds
    subst holds
    exact coherent.stage_phase found rfl rfl
  · intro must
    exact Session.Task.section?_mustRelease must worked

/-- A task that only waits on leaves the session alone. -/
private theorem moves_of_wait {id : TaskId} {task : Session.Task Remote}
    {later : Session.Next Remote} {journal : List Journal.Entry}
    (found : room.task? id = some task)
    (follows : ∀ waiting, later = .waits waiting →
      Session.Task.Follows room.session task waiting ∧ waiting.Fits id.number room.session ∧
        waiting.tearsDown = false)
    (stays : ∀ result epoch stage, later = .ends result → task = .listener epoch stage →
      epoch ≠ room.session.epoch)
    (unqueued : task.isQueued = false)
    (releases : task.mustRelease room.session = true → ∃ waiting, later = .waits waiting ∧
      (waiting.mustRelease room.session = true ∨ waiting.ask? = some .disconnect)) :
    room.Moves id task { session := room.session, next := later, journal := journal } := by
  refine ⟨found, ?_, ?_, ?_, ?_, ?_, ?_, releases⟩
  · exact .continues (.refl room.session) rfl rfl
  · intro waiting next
    exact (follows waiting next).1
  · intro waiting next
    exact (follows waiting next).2.1
  · exact stays
  · intro request epoch queued
    rw [queued] at unqueued
    cases unqueued
  · intro waiting next tears
    rw [(follows waiting next).2.2] at tears
    cases tears

theorem moves_of_answer (coherent : room.Coherent) {id : TaskId} {answer : Session.Answer}
    {task : Session.Task Remote} {later : Session.Next Remote} {journal : List Journal.Entry}
    (found : room.task? id = some task)
    (answered : task.answered? room.limit answer = some (later, journal)) :
    room.Moves id task { session := room.session, next := later, journal := journal } := by
  have fits := coherent.fits id task found
  refine moves_of_wait found ?_ ?_ ?_ ?_
  · intro waiting same
    subst same
    exact ⟨Session.Task.answered?_follows answered, fits.answered answered,
      Session.Task.answered?_tearsDown answered⟩
  · rintro result epoch stage - rfl current
    subst current
    cases stage with
    | waiting => cases answered
    | holding event? => cases answered
    | releasing => cases fits.phase rfl
  · cases task with
    | attempt request stage => cases stage <;> first | rfl | cases answered
    | hangUp stage => rfl
    | toggle track stage => rfl
    | listener epoch stage => rfl
  · intro must
    exact Session.Task.answered?_mustRelease must answered

theorem moves_of_hear (coherent : room.Coherent) {number epoch : Nat}
    {event? : Option (Media.Event Remote)}
    (found : room.task? (.listener number) = some (.listener epoch .waiting)) :
    room.Moves (.listener number) (.listener epoch .waiting)
      { session := room.session, next := .waits (.listener epoch (.holding event?)) } := by
  have fits := coherent.fits _ _ found
  refine moves_of_wait found ?_ ?_ rfl ?_
  · rintro waiting ⟨⟩
    refine ⟨.hears epoch event?, ⟨fits.notAhead, fits.phase, ?_, ?_⟩, rfl⟩
    · rintro request stage ⟨⟩
    · rintro stage ⟨⟩
      exact fits.held _ rfl
  · rintro result epoch stage ⟨⟩
  · intro must
    cases must

/-- Whatever a task does is a move. -/
theorem moves_of_step (coherent : room.Coherent) {action : Action Remote}
    (stepped : room.step? action = some next) :
    (∃ id task part, action.task? = some id ∧ room.Moves id task part ∧
      room.enact id part = next) ∨
      (∃ operation, action = .call operation) ∨ (∃ id, action = .ask id) ∨
      (∃ view event, action = .event view event) ∨ ∃ text?, action = .voice text? := by
  cases action with
  | call operation => exact Or.inr (Or.inl ⟨operation, rfl⟩)
  | ask id => exact Or.inr (Or.inr (Or.inl ⟨id, rfl⟩))
  | event view event => exact Or.inr (Or.inr (Or.inr (Or.inl ⟨view, event, rfl⟩)))
  | voice text? => exact Or.inr (Or.inr (Or.inr (Or.inr ⟨text?, rfl⟩)))
  | work id view =>
      obtain ⟨task, part, found, may, worked, enacted⟩ := work?_eq_some_iff.mp stepped
      exact Or.inl ⟨id, task, part, rfl, coherent.moves_of_work found may worked, enacted⟩
  | answer id answer =>
      obtain ⟨task, later, journal, found, _asked, answered, proceeded⟩ :=
        answer?_eq_some_iff.mp stepped
      refine Or.inl ⟨id, task, _, rfl, coherent.moves_of_answer found answered, ?_⟩
      rw [enact_of_none room id rfl rfl]
      exact proceeded
  | hear number event? =>
      obtain ⟨epoch, found, replaced⟩ := hear?_eq_some_iff.mp stepped
      refine Or.inl ⟨_, _, _, rfl, @moves_of_hear _ room coherent number epoch event? found, ?_⟩
      rw [enact_hearing, replaced]

private theorem start (coherent : room.Coherent) (operation : Operation) :
    (room.start operation).Coherent := by
  have epochless : (operation.task : Session.Task Remote).epoch? = none := by
    cases operation <;> rfl
  refine ⟨?_, ?_, ?_, ?_, ?_, ?_, ?_, ?_⟩
  · intro id task found
    rcases origin_start found with old | ⟨_same, new⟩
    · exact coherent.fits id task old
    · rw [new]
      exact Session.Task.Fits.of_none epochless
  · intro left right leftTask rightTask different leftFound rightFound
    rcases origin_start leftFound with leftOld | ⟨_leftSame, leftNew⟩
    · rcases origin_start rightFound with rightOld | ⟨_rightSame, rightNew⟩
      · exact coherent.apart left right leftTask rightTask different leftOld rightOld
      · rw [rightNew]
        exact (Session.Task.Apart.of_none epochless).symm
    · rw [leftNew]
      exact Session.Task.Apart.of_none epochless
  · intro number task found
    change number < room.calls + 1 ∧ _
    rcases origin_start found with old | ⟨same, new⟩
    · have before := coherent.calls number task old
      exact ⟨Nat.lt_succ_of_lt before.1, before.2⟩
    · cases same
      refine ⟨Nat.lt_succ_self _, ?_⟩
      intro epoch stage listener
      rw [new] at listener
      cases operation <;> cases listener
  · intro number task found
    change number < room.calls + 1 ∧ _
    rcases origin_start found with old | ⟨same, _new⟩
    · obtain ⟨issued, ended, listens⟩ := coherent.heirs number task old
      refine ⟨Nat.lt_succ_of_lt issued, ?_, listens⟩
      have different : TaskId.call number ≠ .call room.calls := by
        intro same
        exact absurd (TaskId.call.inj same) (Nat.ne_of_lt issued)
      rw [task?_start, ended, if_neg different]
      rfl
    · cases same
  · intro id request stage found turn
    rcases origin_start found with old | ⟨_same, new⟩
    · exact coherent.turn id request stage old turn
    · cases operation <;> cases new
      cases turn
  · intro live id request stage found turn
    rcases origin_start found with old | ⟨_same, new⟩
    · exact coherent.alone live id request stage old turn
    · cases operation <;> cases new
      cases turn
  · intro number held
    obtain ⟨stage, found⟩ := coherent.listener number held
    exact ⟨stage, task?_start_of_some found operation⟩
  · intro id asked
    obtain ⟨task, found, asks⟩ := coherent.asked id asked
    exact ⟨task, task?_start_of_some found operation, asks⟩

/-- The tasks can stay as they are if the session ends, or goes on in its phase. -/
private theorem of_session (coherent : room.Coherent) {session : Session Remote}
    {journal : List Journal.Entry}
    (changed : room.session.Continues session ∨
      room.session.epoch < session.epoch ∧ session.phase = .idle ∧ session.listener = none) :
    ({ room with session := session, journal := journal } : Room Remote).Coherent := by
  refine ⟨?_, coherent.apart, coherent.calls, coherent.heirs, coherent.turn, ?_, ?_, coherent.asked⟩
  · intro id task found
    have fits := coherent.fits id task found
    rcases changed with same | ⟨later, _idle, _none⟩
    · exact fits.of_continues same
    · exact fits.of_later later
  · intro live id request stage found turn
    rcases changed with same | ⟨_later, idle, _none⟩
    · have belongs := coherent.alone (same.phase ▸ live) id request stage found turn
      rw [belongs, same.epoch]
    · rw [show session.phase = .live from live] at idle
      cases idle
  · intro number held
    rcases changed with same | ⟨_later, _idle, none⟩
    · obtain ⟨stage, found⟩ := coherent.listener number (same.listener ▸ held)
      refine ⟨stage, ?_⟩
      rw [show session.epoch = room.session.epoch from same.epoch]
      exact found
    · rw [show session.listener = some number from held] at none
      cases none

private theorem ask (coherent : room.Coherent) {id : TaskId} {task : Session.Task Remote}
    (found : room.task? id = some task) (asks : task.ask?.isSome = true) :
    ({ room with asked := room.asked ++ [id] } : Room Remote).Coherent := by
  refine ⟨coherent.fits, coherent.apart, coherent.calls, coherent.heirs, coherent.turn,
    coherent.alone, coherent.listener, ?_⟩
  intro other asked
  rcases List.mem_append.mp asked with old | new
  · exact coherent.asked other old
  · rw [List.mem_singleton.mp new]
    exact ⟨task, found, asks⟩

private theorem event (coherent : room.Coherent) (view : Media.View Remote)
    (event : Media.Event Remote) : (room.event view event).Coherent := by
  by_cases ends : room.session.phase = .live ∧ event.endsSession = true
  · cases event with
    | disconnected reason =>
        refine coherent.of_session (Or.inr ?_)
        rw [Session.apply_disconnected ends.1]
        exact ⟨Nat.lt_succ_self _, rfl, rfl⟩
    | _ => cases ends.2
  · exact coherent.of_session (Or.inl (Session.continues_apply view ends).1)

theorem step (coherent : room.Coherent) {action : Action Remote}
    (stepped : room.step? action = some next) : next.Coherent := by
  rcases coherent.moves_of_step stepped with ⟨id, task, part, _moved, moves, enacted⟩ |
      ⟨operation, called⟩ | ⟨id, asks⟩ | ⟨view, event, applied⟩ | ⟨text?, spoken⟩
  · rw [← enacted]
    exact moves.coherent_enact coherent
  · subst called
    cases stepped
    exact coherent.start operation
  · subst asks
    obtain ⟨task, found, asks, _new, rfl⟩ := ask?_eq_some_iff.mp stepped
    exact coherent.ask found asks
  · subst applied
    cases stepped
    exact coherent.event view event
  · subst spoken
    cases stepped
    exact @of_session Remote room coherent _ room.journal (Or.inl ⟨rfl, rfl, rfl⟩)

end Coherent

/-- Whoever acts is there. -/
theorem Coherent.found_of_moved {room next : Room Remote} (coherent : room.Coherent)
    {action : Action Remote} (stepped : room.step? action = some next) {id : TaskId}
    (moved : action.task? = some id) : ∃ task, room.task? id = some task := by
  rcases coherent.moves_of_step stepped with ⟨mover, moving, part, own, moves, _enacted⟩ |
      ⟨operation, rfl⟩ | ⟨asker, rfl⟩ | ⟨view, event, rfl⟩ | ⟨text?, rfl⟩
  · have same := Option.some.inj (own.symm.trans moved)
    exact ⟨moving, same ▸ moves.found⟩
  · cases moved
  · obtain ⟨task, found, _asks, _new, _next⟩ := ask?_eq_some_iff.mp stepped
    cases moved
    exact ⟨task, found⟩
  · cases moved
  · cases moved

/-- Only a new call counts, and it is the last one then. -/
theorem Coherent.calls_step {room next : Room Remote} (coherent : room.Coherent)
    {action : Action Remote} (stepped : room.step? action = some next) :
    next.calls = room.calls ∨
      ∃ operation, action = .call operation ∧ next.calls = room.calls + 1 := by
  rcases coherent.moves_of_step stepped with ⟨mover, moving, part, _moved, _moves, rfl⟩ |
      ⟨operation, rfl⟩ | ⟨asker, rfl⟩ | ⟨view, event, rfl⟩ | ⟨text?, rfl⟩
  · exact Or.inl (calls_enact room mover part)
  · cases stepped
    exact Or.inr ⟨operation, rfl, rfl⟩
  · obtain ⟨_waiting, _found, _asks, _new, rfl⟩ := ask?_eq_some_iff.mp stepped
    exact Or.inl rfl
  · cases stepped
    exact Or.inl rfl
  · cases stepped
    exact Or.inl rfl

/-- A call is left alone as long as others act: where it is, its request and its result. -/
theorem Coherent.others {room next : Room Remote} (coherent : room.Coherent)
    {action : Action Remote} (stepped : room.step? action = some next) {number : Nat}
    (others : action.task? ≠ some (.call number)) :
    (number < room.calls → next.task? (.call number) = room.task? (.call number)) ∧
      (.call number ∈ next.asked ↔ .call number ∈ room.asked) ∧
      ∀ result, (number, result) ∈ next.results ↔ (number, result) ∈ room.results := by
  rcases coherent.moves_of_step stepped with ⟨mover, moving, part, moved, moves, rfl⟩ |
      ⟨operation, rfl⟩ | ⟨asker, rfl⟩ | ⟨view, event, rfl⟩ | ⟨text?, rfl⟩
  · have different : TaskId.call number ≠ mover := by
      intro same
      exact others (same ▸ moved)
    have kept : part.dropped.map TaskId.listener ≠ some (.call number) := by
      intro dropped
      obtain ⟨listener, _held, same⟩ := Option.map_eq_some_iff.mp dropped
      cases same
    refine ⟨?_, ?_, ?_⟩
    · intro _issued
      rw [task?_enact moves.found, if_neg kept, if_neg different, if_neg nofun, Option.or_none]
    · rw [mem_asked_enact]
      exact ⟨fun asked => asked.1, fun asked => ⟨asked, different, kept⟩⟩
    · intro result
      rw [results_enact, results_proceed]
      split
      · rename_i _next _id ended other _ends
        have apart : number ≠ other := fun same => different (congrArg TaskId.call same)
        simp [apart]
      · rfl
  · cases stepped
    refine ⟨?_, Iff.rfl, fun _result => Iff.rfl⟩
    intro issued
    have old : TaskId.call number ≠ .call room.calls := by
      intro same
      exact Nat.ne_of_lt issued (TaskId.call.inj same)
    rw [task?_start, if_neg old, Option.or_none]
  · obtain ⟨_waiting, _found, _asks, _new, rfl⟩ := ask?_eq_some_iff.mp stepped
    have different : TaskId.call number ≠ asker := by
      intro same
      exact others (congrArg some same.symm)
    refine ⟨fun _issued => rfl, ?_, fun _result => Iff.rfl⟩
    simp [different]
  · cases stepped
    exact ⟨fun _issued => rfl, Iff.rfl, fun _result => Iff.rfl⟩
  · cases stepped
    exact ⟨fun _issued => rfl, Iff.rfl, fun _result => Iff.rfl⟩

/-- A live session stays live as long as its epoch lasts. -/
theorem Coherent.live_step {room next : Room Remote} (coherent : room.Coherent)
    {action : Action Remote} (stepped : room.step? action = some next)
    (live : room.session.phase = .live) (same : next.session.epoch = room.session.epoch) :
    next.session.phase = .live := by
  rcases coherent.moves_of_step stepped with ⟨id, task, part, _moved, moves, rfl⟩ |
      ⟨operation, rfl⟩ | ⟨id, rfl⟩ | ⟨view, event, rfl⟩ | ⟨text?, rfl⟩
  · rw [session_enact] at same ⊢
    cases moves.change with
    | continues same => rw [same.phase, live]
    | completes _ _ _ phase => rw [phase, live]
    | accepts _ _ _ phase => exact phase
    | admits _ _ idle => rw [idle] at live; cases live
    | fails _ _ settles =>
        rw [coherent.stage_phase (settles ▸ moves.found) rfl rfl] at live
        cases live
    | hangsUp _ later => omega
    | loses _ _ _ _ later => omega
  · cases stepped
    exact live
  · obtain ⟨_task, _found, _asks, _new, rfl⟩ := ask?_eq_some_iff.mp stepped
    exact live
  · cases stepped
    change (room.session.apply view event).session.epoch = _ at same
    change (room.session.apply view event).session.phase = .live
    by_cases ends : room.session.phase = .live ∧ event.endsSession = true
    · cases event with
      | disconnected reason =>
          rw [Session.apply_disconnected live] at same
          exact absurd same (Nat.ne_of_gt (Nat.lt_succ_self _))
      | _ => cases ends.2
    · rw [(Session.continues_apply view ends).1.phase, live]
  · cases stepped
    exact live

theorem Coherent.run {limit : Duration} {actions : List (Action Remote)} {room : Room Remote}
    (ran : (Room.new limit).run? actions = some room) : room.Coherent := by
  refine run_keeps ?_ (Coherent.new limit) ran
  intro room action next coherent stepped
  exact coherent.step stepped

end Room

end MeetingRoom
