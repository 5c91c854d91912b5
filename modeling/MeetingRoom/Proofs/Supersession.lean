import MeetingRoom.Proofs.Coherence

/-!
Work that is superseded has no effect. Only three things begin a new epoch: an attempt that is let
in, a hang-up and the loss of a session. A task that belongs to no epoch, or to another than the
present one, leaves the session as it is in every step it makes, and so a session that was hung up
stays as the hang-up left it until somebody connects again.
-/

namespace MeetingRoom

variable {Remote : Type}

namespace Session.Task

def isStarting : Task Remote → Bool
  | .attempt _ .starting => true
  | .hangUp .starting => true
  | .toggle _ .starting => true
  | _ => false

/-- A task that has no epoch works on the session only at its start, and a toggle not even then. -/
theorem section?_of_none {number : Nat} {view : Media.View Remote} {session : Session Remote}
    {task : Task Remote} {part : Section Remote}
    (worked : task.section? number view session = some part) (none : task.epoch? = none) :
    (∃ request, task = .attempt request .starting) ∨ task = .hangUp .starting ∨
      part.session = session := by
  cases task with
  | attempt request stage =>
      cases stage with
      | starting => exact Or.inl ⟨request, rfl⟩
      | releasing result => cases worked
      | _ => cases none
  | hangUp stage =>
      cases stage with
      | starting => exact Or.inr (Or.inl rfl)
      | releasing => cases worked
  | toggle track stage =>
      cases stage with
      | starting =>
          cases worked
          refine Or.inr (Or.inr ?_)
          unfold Toggle.start
          split <;> rfl
      | _ => cases none
  | listener epoch stage => cases none

theorem phase?_ne_idle (task : Task Remote) : task.phase? ≠ some .idle := by
  intro idle
  cases task with
  | attempt request stage => cases stage <;> cases idle
  | hangUp stage => cases idle
  | toggle track stage => cases stage <;> cases idle
  | listener epoch stage => cases stage <;> cases idle

end Session.Task

namespace Room

def connects (room : Room Remote) : Action Remote → Bool
  | .work id _ =>
      match room.task? id with
      | some (.attempt _ .starting) => true
      | _ => false
  | _ => false

def admits (room : Room Remote) : Action Remote → Bool
  | .work id _ =>
      match room.task? id with
      | some (.attempt request .starting) =>
          room.session.call = .disconnected && request.complaint?.isNone
      | _ => false
  | _ => false

def hangsUp (room : Room Remote) : Action Remote → Bool
  | .work id _ =>
      match room.task? id with
      | some (.hangUp .starting) => true
      | _ => false
  | _ => false

def loses (room : Room Remote) : Action Remote → Bool
  | .work id _ =>
      match room.task? id with
      | some (.listener epoch (.holding event?)) =>
          epoch = room.session.epoch && (Session.Listening.act event?).endsSession
      | _ => false
  | .event _ event => room.session.inCall && event.endsSession
  | _ => false

def beginsEpoch (room : Room Remote) (action : Action Remote) : Bool :=
  room.admits action || room.hangsUp action || room.loses action

def admissions : Room Remote → List (Action Remote) → List Nat
  | _, [] => []
  | room, action :: rest =>
      match room.step? action with
      | some next =>
          (if room.admits action then [next.session.epoch] else []) ++ next.admissions rest
      | none => []

def avoids (happens : Room Remote → Action Remote → Bool) :
    Room Remote → List (Action Remote) → Bool
  | _, [] => true
  | room, action :: rest =>
      !happens room action && (room.step? action).all (avoids happens · rest)

/-! ### Epochs -/

section Epochs

variable {room next : Room Remote}

private theorem epoch_of_begin (coherent : room.Coherent) {id : TaskId} {view : Media.View Remote}
    {task : Session.Task Remote} {part : Session.Section Remote} (found : room.task? id = some task)
    (worked : task.section? id.number view room.session = some part)
    (begins : room.beginsEpoch (.work id view) = true) :
    part.session.epoch = room.session.epoch + 1 := by
  simp only [beginsEpoch, admits, hangsUp, loses, found, Bool.or_eq_true] at begins
  rcases begins with (admits | hangs) | loses
  · split at admits
    · rename_i request same
      cases same
      simp only [Bool.and_eq_true, decide_eq_true_eq, Option.isNone_iff_eq_none] at admits
      cases worked
      rw [Session.Attempt.start, if_pos admits.1, admits.2]
    · cases admits
  · split at hangs
    · rename_i same
      cases same
      cases worked
      unfold Session.HangUp.start
      split <;> rfl
    · cases hangs
  · split at loses
    · rename_i epoch event? same
      cases same
      simp only [Bool.and_eq_true, decide_eq_true_eq] at loses
      have live := coherent.stage_phase found (congrArg some loses.1) rfl
      obtain ⟨reason, handled⟩ := Session.Listening.handle_ends live loses.2 view
      cases worked
      rw [loses.1, handled]
      rfl
    · cases loses

private theorem epoch_of_rest {id : TaskId} {view : Media.View Remote}
    {task : Session.Task Remote} {part : Session.Section Remote} (found : room.task? id = some task)
    (worked : task.section? id.number view room.session = some part)
    (rests : room.beginsEpoch (.work id view) = false) :
    part.session.epoch = room.session.epoch := by
  simp only [beginsEpoch, admits, hangsUp, loses, found, Bool.or_eq_false_iff] at rests
  obtain ⟨⟨admits, hangs⟩, loses⟩ := rests
  cases Session.Task.section?_change worked with
  | continues same => exact same.epoch
  | accepts _ _ epoch => exact epoch
  | fails _ _ _ epoch => exact epoch
  | completes _ _ epoch => exact epoch
  | admits request starts idle valid =>
      subst starts
      simp [Session.disconnected_iff.mpr idle, valid] at admits
  | hangsUp starts =>
      subst starts
      cases hangs
  | loses event? holds _live ends =>
      subst holds
      simp [ends] at loses

/-- An epoch begins exactly when an attempt is let in, somebody hangs up or the session is lost. -/
theorem epoch_step (coherent : room.Coherent) {action : Action Remote}
    (stepped : room.step? action = some next) :
    next.session.epoch = room.session.epoch + (if room.beginsEpoch action then 1 else 0) := by
  have alters := alters_of_step stepped
  generalize next.session = after at alters ⊢
  cases alters with
  | event view event =>
      by_cases ends : room.session.phase = .live ∧ event.endsSession = true
      · have loses : room.beginsEpoch (.event view event) = true := by
          simp [beginsEpoch, loses, Session.inCall_iff.mpr ends.1, ends.2]
        rw [if_pos loses]
        cases event with
        | disconnected reason => rw [Session.apply_disconnected ends.1]; rfl
        | _ => cases ends.2
      · have rests : room.beginsEpoch (.event view event) = false := by
          rw [← Session.inCall_iff] at ends
          simpa [beginsEpoch, admits, hangsUp, loses] using ends
        rw [rests]
        exact (Session.continues_apply view ends).1.epoch
  | work id view found worked =>
      cases begins : room.beginsEpoch (.work id view) with
      | true => exact epoch_of_begin coherent found worked begins
      | false => exact epoch_of_rest found worked begins
  | _ => rfl

/-- A task that gets an epoch gets the present one, and it keeps it. -/
theorem epoch_origin (coherent : room.Coherent) {action : Action Remote}
    (stepped : room.step? action = some next) {id : TaskId} {later : Session.Task Remote}
    {epoch : Nat} (found : next.task? id = some later) (belongs : later.epoch? = some epoch) :
    (∃ task, room.task? id = some task ∧ task.epoch? = some epoch) ∨
      epoch = next.session.epoch := by
  rcases coherent.moves_of_step stepped with ⟨mover, task, part, _moved, moves, rfl⟩ |
      ⟨operation, rfl⟩ | ⟨asker, rfl⟩ | ⟨view, event, rfl⟩ | ⟨text?, rfl⟩
  · rw [session_enact]
    rcases moves.origin found with ⟨same, waits⟩ | ⟨_different, _kept, old⟩ | ⟨_same, new⟩
    · have behind := (moves.fits later waits).notAhead epoch belongs
      rcases (moves.follows later waits).epoch?_eq belongs with old | ⟨⟨request, starts⟩, new⟩ |
          ⟨⟨track, starts⟩, new⟩
      · exact Or.inl ⟨task, same ▸ moves.found, old⟩
      · have grown : part.session.epoch ≤ room.session.epoch + 1 := by
          cases moves.change with
          | continues same => rw [same.epoch]; omega
          | admits _ _ _ _ grown => omega
          | accepts _ _ grown => omega
          | fails _ _ _ grown => omega
          | completes _ _ grown => omega
          | hangsUp _ grown => omega
          | loses _ _ _ _ grown => omega
        exact Or.inr (by omega)
      · subst starts
        cases moves.change with
        | continues same => exact Or.inr (new.trans same.epoch.symm)
        | admits _ starts => cases starts
        | accepts _ settles => cases settles
        | fails _ _ settles => cases settles
        | completes _ enables => cases enables
        | hangsUp starts => cases starts
        | loses _ holds => cases holds
    · exact Or.inl ⟨later, old, belongs⟩
    · obtain ⟨_enables, started, _next, _dropped, same, _phase, _held⟩ := moves.listener_eq new
      subst started
      exact Or.inr (by rw [same]; exact (Option.some.inj belongs).symm)
  · cases stepped
    rcases origin_start found with old | ⟨_same, new⟩
    · exact Or.inl ⟨later, old, belongs⟩
    · subst new
      cases operation <;> cases belongs
  · obtain ⟨task, _found, _asks, _new, rfl⟩ := ask?_eq_some_iff.mp stepped
    exact Or.inl ⟨later, found, belongs⟩
  · cases stepped
    exact Or.inl ⟨later, found, belongs⟩
  · cases stepped
    exact Or.inl ⟨later, found, belongs⟩

/-- A task that belongs to no epoch, or to another than the present one, leaves the session alone
once it has started. -/
theorem session_of_superseded {action : Action Remote} (stepped : room.step? action = some next)
    {id : TaskId} {task : Session.Task Remote} (moved : action.task? = some id)
    (found : room.task? id = some task) (started : task.isStarting = false)
    (superseded : task.epoch? ≠ some room.session.epoch) : next.session = room.session := by
  have alters := alters_of_step stepped
  generalize next.session = after at alters ⊢
  cases alters with
  | event view event => cases moved
  | voice text? => cases moved
  | work worker view same worked =>
      cases moved
      rw [found] at same
      cases same
      cases belongs : task.epoch? with
      | some epoch =>
          have late : epoch ≠ room.session.epoch := by
            intro current
            rw [belongs, current] at superseded
            exact superseded rfl
          exact (Session.Task.section?_late worked belongs late).1
      | none =>
          rcases Session.Task.section?_of_none worked belongs with ⟨request, starts⟩ | starts | same
          · rw [starts] at started
            cases started
          · rw [starts] at started
            cases started
          · exact same
  | _ => rfl

/-- Attempts are let in with ever later epochs. -/
private theorem admissions_later (coherent : room.Coherent) (actions : List (Action Remote)) :
    (∀ epoch ∈ room.admissions actions, room.session.epoch < epoch) ∧
      (room.admissions actions).Pairwise (· < ·) := by
  induction actions generalizing room with
  | nil =>
      refine ⟨?_, List.Pairwise.nil⟩
      intro epoch member
      cases member
  | cons action rest ih =>
      rw [admissions]
      cases stepped : room.step? action with
      | none =>
          refine ⟨?_, List.Pairwise.nil⟩
          intro epoch member
          cases member
      | some next =>
          obtain ⟨later, increasing⟩ := ih (coherent.step stepped)
          have grown := epoch_step coherent stepped
          dsimp only
          cases admitted : room.admits action with
          | false =>
              rw [if_neg Bool.false_ne_true, List.nil_append]
              refine ⟨?_, increasing⟩
              intro epoch member
              have after := later epoch member
              omega
          | true =>
              rw [beginsEpoch, admitted, Bool.true_or, Bool.true_or, if_pos rfl] at grown
              rw [if_pos rfl, List.singleton_append]
              refine ⟨?_, List.pairwise_cons.mpr ⟨later, increasing⟩⟩
              intro epoch member
              rcases List.mem_cons.mp member with first | other
              · omega
              · have after := later epoch other
                omega

end Epochs

/-! ### After a hang-up -/

structure HungUp (session : Session Remote) : Prop where
  call : session.call = .disconnected
  fault : session.fault = none
  identity : session.identity = none
  roster : session.roster = Roster.empty

section HungUp

variable {room next : Room Remote}

theorem HungUp.status {session : Session Remote} (hungUp : HungUp session) :
    session.status = .idle := by
  rw [Session.status, hungUp.call, hungUp.fault]

private theorem hungUp_start (session : Session Remote) :
    HungUp (Session.HangUp.start session).session := by
  unfold Session.HangUp.start
  split <;> exact ⟨rfl, rfl, rfl, rfl⟩

theorem hungUp_of_hangsUp {action : Action Remote} (hangs : room.hangsUp action = true)
    (stepped : room.step? action = some next) : HungUp next.session := by
  cases action with
  | work id view =>
      obtain ⟨task, part, found, _may, worked, rfl⟩ := work?_eq_some_iff.mp stepped
      rw [hangsUp, found] at hangs
      split at hangs
      · rename_i same
        cases same
        cases worked
        rw [session_enact]
        exact hungUp_start room.session
      · cases hangs
  | _ => cases hangs

/-- Without a session there is nothing that a task could belong to, so only a hang-up can work on
it, until somebody connects. -/
theorem HungUp.step (hungUp : HungUp room.session) (coherent : room.Coherent)
    {action : Action Remote} (unconnected : room.connects action = false)
    (stepped : room.step? action = some next) : HungUp next.session := by
  have idle := Session.disconnected_iff.mp hungUp.call
  have superseded : ∀ id task, room.task? id = some task →
      task.epoch? ≠ some room.session.epoch := by
    intro id task found belongs
    have wants := (coherent.fits id task found).phase belongs
    rw [idle] at wants
    exact task.phase?_ne_idle wants
  have inert : ∀ id task, action.task? = some id → room.task? id = some task →
      task.isStarting = false → HungUp next.session := by
    intro id task moved found started
    rw [session_of_superseded stepped moved found started (superseded id task found)]
    exact hungUp
  have alters := alters_of_step stepped
  generalize next.session = after at alters inert ⊢
  cases alters with
  | voice text? => exact ⟨hungUp.call, hungUp.fault, hungUp.identity, hungUp.roster⟩
  | event view event =>
      have outside : room.session.inCall = false := by
        rw [Session.inCall, hungUp.call]
        rfl
      unfold Session.apply
      rw [outside]
      exact hungUp
  | @work id view task part found worked =>
      cases started : task.isStarting with
      | false => exact inert id task rfl found started
      | true =>
          cases task with
          | attempt request stage =>
              cases stage with
              | starting =>
                  rw [connects, found] at unconnected
                  cases unconnected
              | _ => cases started
          | hangUp stage =>
              cases stage with
              | starting => cases worked; exact hungUp_start room.session
              | releasing => cases started
          | toggle track stage =>
              cases stage with
              | starting =>
                  cases worked
                  rw [Session.Toggle.start, hungUp.call]
                  exact hungUp
              | _ => cases started
          | listener epoch stage => cases started
  | _ => exact hungUp

private theorem HungUp.run (hungUp : HungUp room.session) (coherent : room.Coherent)
    {actions : List (Action Remote)} (unconnected : room.avoids connects actions = true)
    {last : Room Remote} (ran : room.run? actions = some last) : HungUp last.session := by
  induction actions generalizing room with
  | nil => cases ran; exact hungUp
  | cons action rest ih =>
      rw [run?, List.foldlM_cons] at ran
      obtain ⟨next, stepped, rested⟩ := Option.bind_eq_some_iff.mp ran
      rw [avoids, stepped, Bool.and_eq_true, Bool.not_eq_true'] at unconnected
      exact ih (hungUp.step coherent unconnected.1 stepped) (coherent.step stepped) unconnected.2 rested

end HungUp

/-- In every run attempts are let in with epochs of their own, each begin and each end of a session
takes the next epoch and nothing else does, what is superseded leaves the session alone, and a
session that was hung up stays so until somebody connects. -/
theorem superseded_work_is_inert {limit : Duration} {actions : List (Action Remote)}
    {room : Room Remote} (ran : (Room.new limit).run? actions = some room) :
    ((Room.new limit : Room Remote).admissions actions).Pairwise (· < ·) ∧
    (∀ action next, room.step? action = some next →
      next.session.epoch = room.session.epoch + (if room.beginsEpoch action then 1 else 0) ∧
      (∀ id later epoch, next.task? id = some later → later.epoch? = some epoch →
        (∃ task, room.task? id = some task ∧ task.epoch? = some epoch) ∨
          epoch = next.session.epoch) ∧
      (∀ id task, action.task? = some id → room.task? id = some task → task.isStarting = false →
        task.epoch? ≠ some room.session.epoch → next.session = room.session)) ∧
    (∀ action next later last, room.hangsUp action = true → room.step? action = some next →
      next.avoids connects later = true → next.run? later = some last →
      last.session.call = .disconnected ∧ last.session.status = .idle ∧
        last.session.identity = none ∧ last.session.roster = Roster.empty) := by
  have coherent := Coherent.run ran
  refine ⟨(admissions_later (Coherent.new limit) actions).2, ?_, ?_⟩
  · intro action next stepped
    refine ⟨epoch_step coherent stepped, ?_, ?_⟩
    · intro id later epoch found belongs
      exact epoch_origin coherent stepped found belongs
    · intro id task moved found started superseded
      exact session_of_superseded stepped moved found started superseded
  · intro action next later last hangs stepped unconnected rested
    have hungUp := (hungUp_of_hangsUp hangs stepped).run (coherent.step stepped) unconnected rested
    exact ⟨hungUp.call, hungUp.status, hungUp.identity, hungUp.roster⟩

def lateHandshake : List (Action Unit) :=
  [.call (.join { url := "wss://media", token := "token", audio := true, video := false }),
    .work (.call 0) .empty, .work (.call 0) .empty, .work (.call 0) .empty, .ask (.call 0),
    .call .hangUp, .work (.call 1) .empty, .answer (.call 0) .done]

theorem late_handshake_is_inert :
    ∃ room next, (Room.new (.ofSeconds 15 0)).run? lateHandshake = some room ∧
      room.step? (.work (.call 0) .empty) = some next ∧ next.session = room.session := by
  refine ⟨_, _, rfl, rfl, ?_⟩
  have settles := ((@superseded_work_is_inert _ (.ofSeconds 15 0) lateHandshake _ rfl).2.1
    (.work (.call 0) .empty) _ rfl).2.2
  exact settles (.call 0) _ rfl rfl rfl (by decide)

end Room

end MeetingRoom
