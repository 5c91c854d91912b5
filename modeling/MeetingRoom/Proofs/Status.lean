import MeetingRoom.Proofs.Coherence

/-!
What the status tells of the past. Without a session it shows the fault of the last attempt or
session, unless somebody has hung up since; so it is told by the last of a few kinds of steps: an
attempt that is let in, refused or fails, the loss of a session, and a hang-up. Everything else,
and above all what comes too late, leaves the status alone.
-/

namespace MeetingRoom

variable {Remote : Type}

def Media.Event.loss? : Media.Event Remote → Option String
  | .disconnected reason => some reason
  | _ => none

namespace Session

inductive Milestone where
  | admitted
  | failed (fault : Fault)
  | hungUp
  deriving DecidableEq

def Milestone.fault? : Milestone → Option Fault
  | failed fault => some fault
  | _ => none

def milestone? (session : Session Remote) (event : Media.Event Remote) : Option Milestone :=
  if session.inCall then event.loss?.map fun reason => .failed (.lost reason) else none

/-- An attempt that is refused or let in, an attempt of the present epoch that fails, a hang-up, and
a loss that the listener of the present epoch hears of. -/
def Task.milestone? (session : Session Remote) : Task Remote → Option Milestone
  | .attempt request .starting =>
      if session.call = .disconnected then
        match request.complaint? with
        | some fault => some (.failed fault)
        | none => some .admitted
      else none
  | .attempt _ (.settling epoch (.error fault)) =>
      if session.epoch = epoch then some (.failed fault) else none
  | .hangUp .starting => some .hungUp
  | .listener epoch (.holding event?) =>
      if session.epoch = epoch then session.milestone? (Listening.act event?) else none
  | _ => none

/-- What does not concern the status: a request to join while there is a session, the failure of an
attempt that is superseded, all of a toggle, and an event or the end of the events of a session that
is over or that ignores it. -/
def Task.passesOver (view : Media.View Remote) (session : Session Remote) : Task Remote → Bool
  | .attempt _ .starting => session.call ≠ .disconnected
  | .attempt _ (.settling epoch (.error _)) => session.epoch ≠ epoch
  | .toggle _ _ => true
  | .listener epoch (.holding event?) =>
      session.epoch ≠ epoch || (session.apply view (Listening.act event?)).result = .ignored
  | _ => false

/-- Without a session the last milestone is a failure with the fault that is kept, or there is no
fault and it is none or a hang-up. -/
def Recalls (session : Session Remote) (last : Option Milestone) : Prop :=
  session.call = .disconnected →
    session.fault = last.bind (·.fault?) ∧ last ≠ some .admitted

variable {session after : Session Remote} {view : Media.View Remote} {last : Option Milestone}

theorem status_eq_failed_iff {fault : Fault} :
    session.status = .failed fault ↔
      session.call = .disconnected ∧ session.fault = some fault := by
  unfold status
  cases session.call <;> cases session.fault <;> simp

theorem status_eq_idle_iff :
    session.status = .idle ↔ session.call = .disconnected ∧ session.fault = none := by
  unfold status
  cases session.call <;> cases session.fault <;> simp

theorem status_congr (call : after.call = session.call) (fault : after.fault = session.fault) :
    after.status = session.status := by
  rw [status, call, fault, status]

namespace Recalls

theorem congr (recalls : session.Recalls last) (call : after.call = session.call)
    (fault : after.fault = session.fault) : after.Recalls last := by
  intro disconnected
  rw [fault]
  exact recalls (call.symm.trans disconnected)

theorem of_call (connected : session.call ≠ .disconnected) : session.Recalls last :=
  fun disconnected => absurd disconnected connected

/-- A loss is the last milestone then, and any other event leaves the fault alone. -/
theorem apply (recalls : session.Recalls last) (view : Media.View Remote)
    (event : Media.Event Remote) :
    (session.apply view event).session.Recalls ((session.milestone? event).or last) := by
  unfold Session.apply milestone?
  split
  · cases event with
    | joined snapshot =>
        dsimp only
        rw [session_join]
        exact recalls.congr rfl rfl
    | left identity =>
        dsimp only
        rw [session_leave]
        exact recalls.congr rfl rfl
    | track change identity track =>
        dsimp only
        rw [session_refreshMedia]
        exact recalls.congr rfl rfl
    | metadata identity =>
        dsimp only
        rw [session_refreshMetadata]
        exact recalls.congr rfl rfl
    | reconnecting => exact of_call nofun
    | reconnected => exact of_call nofun
    | disconnected reason => exact fun _disconnected => ⟨rfl, nofun⟩
  · exact recalls

end Recalls

private theorem Toggle.start_keeps (track : Media.Track) :
    (start track view session).session.call = session.call ∧
      (start track view session).session.fault = session.fault := by
  unfold start
  split <;> exact ⟨rfl, rfl⟩

private theorem Toggle.settle_keeps (track : Media.Track) (epoch : Nat) (identity : String)
    (target : Bool) :
    (settle track epoch identity target view session).session.call = session.call ∧
      (settle track epoch identity target view session).session.fault = session.fault := by
  unfold settle
  split
  · dsimp only
    rw [session_refreshMedia]
    exact ⟨rfl, rfl⟩
  · exact ⟨rfl, rfl⟩

section Sections

variable (recalls : session.Recalls last)

include recalls

private theorem Attempt.recalls_start (request : Request) :
    (start request session).session.Recalls
      (((Task.attempt request .starting : Task Remote).milestone? session).or last) := by
  unfold start Task.milestone?
  dsimp only
  by_cases disconnected : session.call = .disconnected
  · rw [if_pos disconnected, if_pos disconnected]
    cases request.complaint? with
    | some fault => exact fun _disconnected => ⟨rfl, nofun⟩
    | none => exact .of_call nofun
  · rw [if_neg disconnected, if_neg disconnected]
    exact recalls

private theorem Attempt.recalls_settle (request : Request) (epoch : Nat)
    (answer : Except Fault Unit) :
    (settle request epoch answer view session).session.Recalls
      (((Task.attempt request (.settling epoch answer) : Task Remote).milestone? session).or
        last) := by
  unfold settle Task.milestone?
  by_cases current : session.epoch = epoch
  · rw [if_pos current]
    cases answer with
    | ok done => exact .of_call nofun
    | error fault =>
        dsimp only
        rw [if_pos current]
        exact fun _disconnected => ⟨rfl, nofun⟩
  · rw [if_neg current]
    cases answer with
    | ok done => exact recalls
    | error fault =>
        dsimp only
        rw [if_neg current]
        exact recalls

private theorem Listening.recalls_handle (epoch : Nat) (event? : Option (Media.Event Remote)) :
    (handle epoch event? view session).session.Recalls
      (((Task.listener epoch (.holding event?)).milestone? session).or last) := by
  unfold handle Task.milestone?
  dsimp only
  by_cases current : session.epoch = epoch
  · rw [if_pos current, if_pos current]
    exact recalls.apply view (act event?)
  · rw [if_neg current, if_neg current]
    exact recalls

theorem Task.recalls_section {number : Nat} {task : Task Remote} {part : Section Remote}
    (worked : task.section? number view session = some part) :
    part.session.Recalls ((task.milestone? session).or last) := by
  cases Task.works_of_section worked with
  | starts request => exact Attempt.recalls_start recalls request
  | linesUp request epoch => exact recalls
  | takesTurn request epoch =>
      unfold Attempt.takeTurn
      split <;> exact recalls
  | settles request epoch answer => exact Attempt.recalls_settle recalls request epoch answer
  | enables request epoch track todo => exact recalls
  | completes request epoch =>
      unfold Attempt.complete
      split
      · exact recalls.congr rfl rfl
      · exact recalls
  | hangsUp =>
      unfold HangUp.start
      split <;> exact fun _disconnected => ⟨rfl, nofun⟩
  | startsToggle track =>
      obtain ⟨call, fault⟩ := Toggle.start_keeps track
      exact recalls.congr call fault
  | settlesToggle track epoch identity target =>
      obtain ⟨call, fault⟩ := Toggle.settle_keeps track epoch identity target
      exact recalls.congr call fault
  | handles epoch event? => exact Listening.recalls_handle recalls epoch event?

end Sections

theorem Task.status_of_passedOver {number : Nat} {task : Task Remote} {part : Section Remote}
    (worked : task.section? number view session = some part)
    (passed : task.passesOver view session = true) : part.session.status = session.status := by
  cases Task.works_of_section worked with
  | starts request =>
      have present : session.call ≠ .disconnected := of_decide_eq_true passed
      rw [Attempt.start, if_neg present]
  | settles request epoch answer =>
      cases answer with
      | ok done => cases passed
      | error fault =>
          have late : session.epoch ≠ epoch := of_decide_eq_true passed
          rw [Attempt.settle, if_neg late]
  | startsToggle track =>
      obtain ⟨call, fault⟩ := Toggle.start_keeps track
      exact status_congr call fault
  | settlesToggle track epoch identity target =>
      obtain ⟨call, fault⟩ := Toggle.settle_keeps track epoch identity target
      exact status_congr call fault
  | handles epoch event? =>
      by_cases current : session.epoch = epoch
      · have ignored : (session.apply view (Listening.act event?)).result = .ignored := by
          simpa [passesOver, current] using passed
        rw [Listening.handle, if_pos current]
        exact congrArg status (session_of_ignored view session ignored)
      · rw [Listening.handle_late (Ne.symm current)]
  | _ => cases passed

end Session

namespace Room

def milestone? (room : Room Remote) : Action Remote → Option Session.Milestone
  | .work id _ => (room.task? id).bind (·.milestone? room.session)
  | .event _ event => room.session.milestone? event
  | _ => none

def milestones (room : Room Remote) (actions : List (Action Remote)) : List Session.Milestone :=
  noted step? milestone? room actions

def passesOver (room : Room Remote) : Action Remote → Bool
  | .work id view => (room.task? id).any (·.passesOver view room.session)
  | .event view event => (room.session.apply view event).result = .ignored
  | _ => true

variable {room next : Room Remote} {action : Action Remote}

theorem recalls_step {last : Option Session.Milestone} (recalls : room.session.Recalls last)
    (stepped : room.step? action = some next) :
    next.session.Recalls ((room.milestone? action).or last) := by
  have alters := alters_of_step stepped
  generalize next.session = after at alters ⊢
  cases alters with
  | work id view found worked =>
      rw [milestone?, found]
      exact Session.Task.recalls_section recalls worked
  | event view event => exact recalls.apply view event
  | voice text? => exact recalls.congr rfl rfl
  | _ => exact recalls

theorem recalls_run {limit : Duration} {actions : List (Action Remote)} {room : Room Remote}
    (ran : (Room.new limit).run? actions = some room) :
    room.session.Recalls ((Room.new limit).milestones actions).getLast? := by
  have recalls := @run_keeps_last _ _ _ step? milestone?
    (fun reached last => reached.session.Recalls last)
    (fun _reached _action _next _last recalls stepped => recalls_step recalls stepped) _ _ actions
    none (fun _disconnected => ⟨rfl, nofun⟩) ran
  rw [Option.or_none] at recalls
  exact recalls

theorem status_of_passedOver (stepped : room.step? action = some next)
    (passed : room.passesOver action = true) : next.session.status = room.session.status := by
  have alters := alters_of_step stepped
  generalize next.session = after at alters ⊢
  cases alters with
  | work id view found worked =>
      rw [passesOver, found] at passed
      exact Session.Task.status_of_passedOver worked passed
  | event view event =>
      exact congrArg Session.status
        (Session.session_of_ignored view room.session (of_decide_eq_true passed))
  | _ => rfl

end Room

/-- In every room that can be reached the status is that of a failure exactly if there is no session
and the last milestone is this failure, and it is idle exactly if there is no session and nothing
has happened yet or the last milestone is a hang-up. Whatever passes over the status leaves it. -/
theorem status_tells_last_milestone {limit : Duration} {actions : List (Room.Action Remote)}
    {room : Room Remote} (ran : (Room.new limit).run? actions = some room) :
    (∀ fault, room.session.status = .failed fault ↔
      room.session.call = .disconnected ∧
        ((Room.new limit).milestones actions).getLast? = some (.failed fault)) ∧
    (room.session.status = .idle ↔
      room.session.call = .disconnected ∧
        (((Room.new limit).milestones actions).getLast? = none ∨
          ((Room.new limit).milestones actions).getLast? = some .hungUp)) ∧
    ∀ action next, room.step? action = some next → room.passesOver action = true →
      next.session.status = room.session.status := by
  have recalls := Room.recalls_run ran
  refine ⟨?_, ?_, fun action next => Room.status_of_passedOver⟩
  · intro fault
    rw [Session.status_eq_failed_iff]
    refine and_congr_right fun disconnected => ?_
    obtain ⟨kept, notAdmitted⟩ := recalls disconnected
    rw [kept]
    generalize ((Room.new limit).milestones actions).getLast? = last
    rcases last with _ | _ | told | _ <;> simp [Session.Milestone.fault?]
  · rw [Session.status_eq_idle_iff]
    refine and_congr_right fun disconnected => ?_
    obtain ⟨kept, notAdmitted⟩ := recalls disconnected
    rw [kept]
    revert notAdmitted
    generalize ((Room.new limit).milestones actions).getLast? = last
    rcases last with _ | _ | told | _ <;> simp [Session.Milestone.fault?]

/-- Somebody hangs up during a handshake, then a request without a token is refused, and only then
the transport rejects the handshake. -/
def lateRejection : List (Room.Action Unit) :=
  [.call (.join { url := "wss://media", token := "token", audio := true, video := false }),
    .work (.call 0) .empty, .work (.call 0) .empty, .work (.call 0) .empty, .ask (.call 0),
    .call .hangUp, .work (.call 1) .empty,
    .call (.join { url := "wss://media", token := " ", audio := true, video := false }),
    .work (.call 2) .empty, .answer (.call 0) (.failed (.rejected "full"))]

theorem refusal_outlasts_late_rejection :
    ∃ room next, (Room.new (.ofSeconds 15 0)).run? lateRejection = some room ∧
      room.step? (.work (.call 0) .empty) = some next ∧
      room.session.status = .failed (.invalidCredentials "missing access token") ∧
      next.session.status = room.session.status := by
  refine ⟨_, _, rfl, rfl, ?_⟩
  obtain ⟨failures, _idle, passes⟩ :=
    @status_tells_last_milestone _ (.ofSeconds 15 0) lateRejection _ rfl
  exact ⟨(failures _).mpr ⟨rfl, rfl⟩, passes (.work (.call 0) .empty) _ rfl rfl⟩

end MeetingRoom

