import MeetingRoom.Proofs.Sections

/-!
How a task and the session fit together. No task is ahead of the session; a task of the session's
own epoch finds the session in the phase in which its stage belongs. A section, an answer and an
event keep this for the task that moves, and a section keeps it for all the others.
-/

namespace MeetingRoom

variable {Remote : Type}

namespace Session

def Attempt.hasTurn : Attempt → Bool
  | .handshake _ => true
  | .settling _ _ => true
  | .enabling _ _ => true
  | .switching _ _ _ => true
  | .releasing _ => true
  | _ => false

theorem Task.Follows.hasTurn {session : Session Remote} {request laterRequest : Request}
    {stage later : Attempt}
    (follows : Follows session (.attempt request stage : Task Remote)
      (.attempt laterRequest later))
    (turn : later.hasTurn = true) : stage.hasTurn = true ∨ ∃ epoch, stage = .queued epoch := by
  cases follows with
  | admitted => cases turn
  | linedUp => cases turn
  | turned => exact Or.inr ⟨_, rfl⟩
  | _ => exact Or.inl rfl

namespace Task

def phase? : Task Remote → Option Phase
  | .attempt _ (.begun _) => some .connecting
  | .attempt _ (.queued _) => some .connecting
  | .attempt _ (.handshake _) => some .connecting
  | .attempt _ (.settling _ _) => some .connecting
  | .attempt _ (.enabling _ _) => some .live
  | .attempt _ (.switching _ _ _) => some .live
  | .toggle _ (.switching _ _ _) => some .live
  | .toggle _ (.settling _ _ _) => some .live
  | .listener _ .waiting => some .live
  | .listener _ (.holding _) => some .live
  | _ => none

/-- No task is ahead of the session, and one that is of the session's epoch finds the session as it
left it: in the right phase, and with the right listener. -/
structure Fits (number : Nat) (session : Session Remote) (task : Task Remote) : Prop where
  notAhead : ∀ epoch, task.epoch? = some epoch → epoch ≤ session.epoch
  phase : task.epoch? = some session.epoch → task.phase? = some session.phase
  free : ∀ request stage, task = .attempt request stage → task.epoch? = some session.epoch →
    session.listener = none
  held : ∀ stage, task = .listener session.epoch stage → session.listener = some number

/-- A task without an epoch fits every session. -/
theorem Fits.of_none {number : Nat} {session : Session Remote} {task : Task Remote}
    (none : task.epoch? = none) : task.Fits number session := by
  refine ⟨?_, ?_, ?_, ?_⟩
  · intro epoch belongs
    rw [none] at belongs
    cases belongs
  · intro belongs
    rw [none] at belongs
    cases belongs
  · intro request stage _same belongs
    rw [none] at belongs
    cases belongs
  · intro stage same
    subst same
    cases none

theorem Fits.of_continues {number : Nat} {session after : Session Remote} {task : Task Remote}
    (fits : task.Fits number session) (same : session.Continues after) :
    task.Fits number after := by
  refine ⟨?_, ?_, ?_, ?_⟩
  · rw [same.epoch]
    exact fits.notAhead
  · rw [same.epoch, same.phase]
    exact fits.phase
  · rw [same.epoch, same.listener]
    exact fits.free
  · rw [same.epoch, same.listener]
    exact fits.held

/-- With a new epoch every task is of one gone by. -/
theorem Fits.of_later {number : Nat} {session after : Session Remote} {task : Task Remote}
    (fits : task.Fits number session) (later : session.epoch < after.epoch) :
    task.Fits number after := by
  have behind : ∀ epoch, task.epoch? = some epoch → epoch < after.epoch := fun epoch belongs =>
    Nat.lt_of_le_of_lt (fits.notAhead epoch belongs) later
  refine ⟨?_, ?_, ?_, ?_⟩
  · intro epoch belongs
    exact Nat.le_of_lt (behind epoch belongs)
  · intro belongs
    exact absurd (behind _ belongs) (Nat.lt_irrefl _)
  · intro request stage _same belongs
    exact absurd (behind _ belongs) (Nat.lt_irrefl _)
  · intro stage same
    subst same
    exact absurd (behind _ rfl) (Nat.lt_irrefl _)

def Apart (left right : Task Remote) : Prop :=
  ∀ leftRequest leftStage rightRequest rightStage epoch,
    left = .attempt leftRequest leftStage → right = .attempt rightRequest rightStage →
    left.epoch? = some epoch → right.epoch? ≠ some epoch

theorem Apart.symm {left right : Task Remote} (apart : left.Apart right) : right.Apart left := by
  intro rightRequest rightStage leftRequest leftStage epoch rightSame leftSame rightEpoch leftEpoch
  exact apart _ _ _ _ epoch leftSame rightSame leftEpoch rightEpoch

theorem Apart.of_none {left right : Task Remote} (none : left.epoch? = none) :
    left.Apart right := by
  intro leftRequest leftStage rightRequest rightStage epoch _leftSame _rightSame leftEpoch
  rw [none] at leftEpoch
  cases leftEpoch

theorem Apart.of_listener {epoch : Nat} {stage : Listening Remote} {right : Task Remote} :
    (listener epoch stage).Apart right := by
  rintro leftRequest leftStage rightRequest rightStage epoch ⟨⟩

/-- A task that goes on stays apart from the others, since an epoch is given out once. -/
theorem Apart.of_follows {number : Nat} {session : Session Remote} {task later other : Task Remote}
    (apart : task.Apart other) (follows : Follows session task later)
    (fits : other.Fits number session) : later.Apart other := by
  intro laterRequest laterStage otherRequest otherStage epoch laterSame otherSame laterEpoch
    otherEpoch
  subst laterSame
  obtain ⟨stage, same⟩ := follows.of_attempt
  rcases follows.epoch?_eq laterEpoch with old | ⟨_starting, new⟩ | ⟨⟨track, toggle⟩, _new⟩
  · exact apart _ _ _ _ epoch same otherSame old otherEpoch
  · have behind := fits.notAhead epoch otherEpoch
    omega
  · rw [same] at toggle
    cases toggle

/-- A task of an epoch gone by fits the session whatever becomes of it. -/
theorem Fits.of_gone {number : Nat} {session after : Session Remote} {task : Task Remote}
    (fits : task.Fits number session) (gone : task.epoch? ≠ some session.epoch)
    (epoch : after.epoch = session.epoch) : task.Fits number after := by
  refine ⟨?_, ?_, ?_, ?_⟩
  · rw [epoch]
    exact fits.notAhead
  · intro belongs
    rw [epoch] at belongs
    exact absurd belongs gone
  · intro request stage _same belongs
    rw [epoch] at belongs
    exact absurd belongs gone
  · intro stage same
    subst same
    exact absurd (congrArg some epoch) gone

theorem Fits.phase_eq {number : Nat} {session : Session Remote} {task : Task Remote}
    {phase : Phase} (fits : task.Fits number session)
    (belongs : task.epoch? = some session.epoch) (wants : task.phase? = some phase) :
    session.phase = phase := by
  have found := fits.phase belongs
  rw [wants] at found
  exact (Option.some.inj found).symm

theorem attempt_of_connecting {task : Task Remote} (connecting : task.phase? = some .connecting) :
    ∃ request stage, task = .attempt request stage := by
  cases task with
  | attempt request stage => exact ⟨request, stage, rfl⟩
  | hangUp stage => cases connecting
  | toggle track stage => cases stage <;> cases connecting
  | listener epoch stage => cases stage <;> cases connecting

/-- While an attempt is settling, nothing else belongs to its epoch. -/
theorem Fits.gone_of_settling {number mine : Nat} {session : Session Remote}
    {other : Task Remote} {request : Request} {answer : Except Fault Unit}
    (own : (Task.attempt request (.settling session.epoch answer)).Fits mine session)
    (fits : other.Fits number session)
    (apart : (Task.attempt request (.settling session.epoch answer)).Apart other) :
    other.epoch? ≠ some session.epoch := by
  intro belongs
  have connecting := own.phase_eq rfl rfl
  have wants := fits.phase belongs
  rw [connecting] at wants
  obtain ⟨otherRequest, otherStage, same⟩ := attempt_of_connecting wants
  exact apart _ _ _ _ _ rfl same rfl belongs

/-- What a section does to the session suits every other task. -/
theorem Fits.of_change {number mine : Nat} {session : Session Remote}
    {task other : Task Remote} {part : Section Remote}
    (change : Change mine session task part) (own : task.Fits mine session)
    (fits : other.Fits number session) (apart : task.Apart other) :
    other.Fits number part.session := by
  cases change with
  | continues same => exact fits.of_continues same
  | admits request _ _ _ epoch => exact fits.of_later (by rw [epoch]; exact Nat.lt_succ_self _)
  | hangsUp _ epoch => exact fits.of_later (by rw [epoch]; exact Nat.lt_succ_self _)
  | loses event? _ _ _ epoch => exact fits.of_later (by rw [epoch]; exact Nat.lt_succ_self _)
  | accepts request settles epoch =>
      subst settles
      exact fits.of_gone (own.gone_of_settling fits apart) epoch
  | fails request fault settles epoch =>
      subst settles
      exact fits.of_gone (own.gone_of_settling fits apart) epoch
  | completes request enables epoch phase =>
      subst enables
      have free := own.free request _ rfl rfl
      refine ⟨?_, ?_, ?_, ?_⟩
      · rw [epoch]
        exact fits.notAhead
      · rw [epoch, phase]
        exact fits.phase
      · intro otherRequest stage same belongs
        rw [epoch] at belongs
        exact absurd belongs (apart _ _ _ _ _ rfl same rfl)
      · intro stage same
        rw [epoch] at same
        have held := fits.held stage same
        rw [free] at held
        cases held

/-- An attempt that goes on in the same epoch and phase fits as before. -/
private theorem Fits.of_stage {number : Nat} {session : Session Remote} {request : Request}
    {stage later : Attempt} (fits : (attempt request stage : Task Remote).Fits number session)
    (epoch : (attempt request later : Task Remote).epoch? =
      (attempt request stage : Task Remote).epoch?)
    (phase : (attempt request later : Task Remote).phase? =
      (attempt request stage : Task Remote).phase?) :
    (attempt request later : Task Remote).Fits number session := by
  refine ⟨?_, ?_, ?_, ?_⟩
  · rw [epoch]
    exact fits.notAhead
  · rw [epoch, phase]
    exact fits.phase
  · intro _request _stage _same belongs
    rw [epoch] at belongs
    exact fits.free _ _ rfl belongs
  · rintro stage ⟨⟩

private theorem Fits.start_next {number : Nat} {session : Session Remote} {request : Request}
    {later : Task Remote} (quiet : session.phase = .idle → session.listener = none)
    (next : (Attempt.start request session).next = .waits later) :
    later.Fits number (Attempt.start request session).session := by
  unfold Attempt.start at next ⊢
  split at next
  · rename_i disconnected
    split at next
    · cases next
    · cases next
      rw [if_pos disconnected]
      refine ⟨?_, ?_, ?_, ?_⟩
      · rintro epoch ⟨⟩
        exact Nat.le_refl _
      · intro _belongs
        rfl
      · intro _request _stage _same _belongs
        exact quiet (disconnected_iff.mp disconnected)
      · rintro stage ⟨⟩
  · cases next

private theorem Fits.settle_next {number : Nat} {session : Session Remote} {request : Request}
    {epoch : Nat} {answer : Except Fault Unit} {view : Media.View Remote} {later : Task Remote}
    (fits : (attempt request (.settling epoch answer) : Task Remote).Fits number session)
    (next : (Attempt.settle request epoch answer view session).next = .waits later) :
    later.Fits number (Attempt.settle request epoch answer view session).session := by
  unfold Attempt.settle at next ⊢
  by_cases current : session.epoch = epoch
  · subst current
    rw [if_pos rfl] at next ⊢
    cases answer with
    | ok done =>
        cases next
        refine ⟨?_, ?_, ?_, ?_⟩
        · rintro epoch ⟨⟩
          exact Nat.le_refl _
        · intro _belongs
          rfl
        · intro _request _stage _same _belongs
          exact fits.free request _ rfl rfl
        · rintro stage ⟨⟩
    | error fault => cases next; exact .of_none rfl
  · rw [if_neg current] at next ⊢
    cases answer with
    | ok done => cases next; exact .of_none rfl
    | error fault => cases next

private theorem Fits.toggle_next {number : Nat} {session : Session Remote}
    {track : Media.Track} {view : Media.View Remote} {later : Task Remote}
    (next : (Toggle.start track view session).next = .waits later) :
    later.Fits number (Toggle.start track view session).session := by
  unfold Toggle.start at next ⊢
  split at next
  · rename_i connected known
    cases next
    refine ⟨?_, ?_, ?_, ?_⟩
    · rintro epoch ⟨⟩
      exact Nat.le_refl _
    · intro _belongs
      exact congrArg some (phase_of_connected connected).symm
    · rintro request stage ⟨⟩
    · rintro stage ⟨⟩
  · cases next

private theorem Fits.handle_next {number epoch : Nat} {session : Session Remote}
    {event? : Option (Media.Event Remote)} {view : Media.View Remote} {later : Task Remote}
    (fits : (listener epoch (.holding event?)).Fits number session)
    (next : (Listening.handle epoch event? view session).next = .waits later) :
    later.Fits number (Listening.handle epoch event? view session).session := by
  by_cases current : epoch = session.epoch
  · subst current
    have live := fits.phase_eq rfl rfl
    cases ends : (Listening.act event?).endsSession with
    | true =>
        obtain ⟨reason, handled⟩ := Listening.handle_ends live ends view
        rw [handled] at next ⊢
        cases next
        refine ⟨?_, ?_, ?_, ?_⟩
        · rintro epoch ⟨⟩
          exact Nat.le_succ _
        · intro belongs
          exact absurd (Option.some.inj belongs) (Nat.ne_of_lt (Nat.lt_succ_self _))
        · rintro request stage ⟨⟩
        · intro stage same
          injection same with epoch
          exact absurd epoch (Nat.ne_of_lt (Nat.lt_succ_self _))
    | false =>
        cases event? with
        | none => cases ends
        | some event =>
            have handled := @Listening.handle_goesOn Remote event session ends view
            rw [handled] at next ⊢
            cases next
            refine Fits.of_continues ?_ (continues_apply_of_goesOn ends view).1
            refine ⟨?_, ?_, ?_, ?_⟩
            · rintro epoch ⟨⟩
              exact Nat.le_refl _
            · intro _belongs
              exact congrArg some live.symm
            · rintro request stage ⟨⟩
            · intro _stage _same
              exact fits.held _ rfl
  · rw [Listening.handle_late current] at next
    cases next

/-- What becomes of the task itself fits as well, if an idle session holds no listener. -/
theorem Fits.next {number : Nat} {session : Session Remote} {view : Media.View Remote}
    {task later : Task Remote} {part : Section Remote} (fits : task.Fits number session)
    (quiet : session.phase = .idle → session.listener = none)
    (worked : task.section? number view session = some part) (next : part.next = .waits later) :
    later.Fits number part.session := by
  cases task with
  | attempt request stage =>
      cases stage with
      | starting => cases worked; exact Fits.start_next quiet next
      | begun epoch => cases worked; cases next; exact fits.of_stage rfl rfl
      | queued epoch =>
          cases worked
          unfold Attempt.takeTurn at next ⊢
          split at next
          · rename_i current
            cases next
            rw [if_pos current]
            exact fits.of_stage rfl rfl
          · cases next
      | handshake epoch => cases worked
      | settling epoch answer => cases worked; exact fits.settle_next next
      | enabling epoch todo =>
          cases todo with
          | nil =>
              cases worked
              unfold Attempt.complete at next ⊢
              split at next
              · cases next
              · cases next; exact .of_none rfl
          | cons track todo =>
              cases worked
              unfold Attempt.enable at next ⊢
              dsimp only at next ⊢
              split at next <;> cases next <;> exact fits.of_stage rfl rfl
      | switching epoch track todo => cases worked
      | releasing result => cases worked
  | hangUp stage =>
      cases stage with
      | starting =>
          cases worked
          unfold HangUp.start at next
          split at next
          · cases next
          · cases next; exact .of_none rfl
      | releasing => cases worked
  | toggle track stage =>
      cases stage with
      | starting => cases worked; exact Fits.toggle_next next
      | switching epoch identity target => cases worked
      | settling epoch identity target =>
          cases worked
          unfold Toggle.settle at next
          split at next <;> cases next
  | listener epoch stage =>
      cases stage with
      | waiting => cases worked
      | holding event? => cases worked; exact fits.handle_next next
      | releasing => cases worked

/-- Behind an answer a task is where it was, as far as epochs and phases go. -/
theorem Fits.answered {number : Nat} {session : Session Remote} {limit : Duration}
    {task later : Task Remote} {answer : Answer} {journal : List Journal.Entry}
    (fits : task.Fits number session)
    (answered : task.answered? limit answer = some (.waits later, journal)) :
    later.Fits number session := by
  cases task with
  | attempt request stage =>
      cases stage with
      | handshake epoch => cases answered; exact fits.of_stage rfl rfl
      | switching epoch track todo => cases answer <;> cases answered <;> exact fits.of_stage rfl rfl
      | releasing result => cases answer <;> cases answered
      | _ => cases answered
  | hangUp stage => cases stage <;> cases answer <;> cases answered
  | toggle track stage =>
      cases stage with
      | switching epoch identity target =>
          cases answer with
          | done =>
              cases answered
              refine ⟨fits.notAhead, fits.phase, ?_, ?_⟩
              · rintro request stage ⟨⟩
              · rintro stage ⟨⟩
          | failed fault => cases answered
          | timedOut => cases answered
      | starting => cases answered
      | settling epoch identity target => cases answered
  | listener epoch stage => cases stage <;> cases answer <;> cases answered

end Task

end Session

end MeetingRoom
