import MeetingRoom.Proofs.Events
import MeetingRoom.Session.Task

/-!
What one section of work can do to a session. A session is idle, connecting or live; a section that
belongs to an epoch gone by does nothing at all, and any other either continues the session, moves
it from one phase to the next, or begins a new epoch.
-/

namespace MeetingRoom

variable {Remote : Type}

def Media.Event.endsSession : Media.Event Remote → Bool
  | .disconnected _ => true
  | _ => false

namespace Session

inductive Phase where
  | idle
  | connecting
  | live
  deriving DecidableEq

def phase (session : Session Remote) : Phase :=
  match session.call with
  | .disconnected => .idle
  | .connecting => .connecting
  | .connected => .live
  | .reconnecting => .live

theorem inCall_iff {session : Session Remote} : session.inCall = true ↔ session.phase = .live := by
  unfold inCall phase
  cases session.call <;> simp

theorem disconnected_iff {session : Session Remote} :
    session.call = .disconnected ↔ session.phase = .idle := by
  unfold phase
  cases session.call <;> simp

theorem phase_of_connected {session : Session Remote} (connected : session.call = .connected) :
    session.phase = .live := by
  unfold phase
  rw [connected]

/-- The epoch that a task belongs to, from its admission until it has nothing more to compare. -/
def Task.epoch? : Task Remote → Option Nat
  | .attempt _ (.begun epoch) => some epoch
  | .attempt _ (.queued epoch) => some epoch
  | .attempt _ (.handshake epoch) => some epoch
  | .attempt _ (.settling epoch _) => some epoch
  | .attempt _ (.enabling epoch _) => some epoch
  | .attempt _ (.switching epoch _ _) => some epoch
  | .toggle _ (.switching epoch _ _) => some epoch
  | .toggle _ (.settling epoch _ _) => some epoch
  | .listener epoch _ => some epoch
  | _ => none

structure Continues (session after : Session Remote) : Prop where
  epoch : after.epoch = session.epoch
  phase : after.phase = session.phase
  listener : after.listener = session.listener

theorem Continues.refl (session : Session Remote) : session.Continues session :=
  ⟨rfl, rfl, rfl⟩

theorem Continues.of_roster (session : Session Remote) (roster : Roster Remote) :
    session.Continues { session with roster := roster } :=
  ⟨rfl, rfl, rfl⟩

/-! ### Events -/

theorem continues_join (session : Session Remote) (snapshot : Media.Snapshot Remote) :
    session.Continues (session.join snapshot).session := by
  rw [session_join]
  exact .of_roster session _

theorem continues_leave (session : Session Remote) (identity : String) :
    session.Continues (session.leave identity).session := by
  rw [session_leave]
  exact .of_roster session _

theorem continues_refreshMedia (view : Media.View Remote) (session : Session Remote)
    (identity : String) : session.Continues (session.refreshMedia view identity).session := by
  rw [session_refreshMedia]
  exact .of_roster session _

theorem continues_refreshMetadata (view : Media.View Remote) (session : Session Remote)
    (identity : String) : session.Continues (session.refreshMetadata view identity).session := by
  rw [session_refreshMetadata]
  exact .of_roster session _

theorem apply_disconnected {session : Session Remote} (live : session.phase = .live)
    (view : Media.View Remote) (reason : String) :
    session.apply view (.disconnected reason) = session.lose reason := by
  rw [apply, if_pos (inCall_iff.mpr live)]

/-- Only the end of a live session ends a session. -/
theorem continues_apply (view : Media.View Remote) {session : Session Remote}
    {event : Media.Event Remote} (goesOn : ¬(session.phase = .live ∧ event.endsSession = true)) :
    session.Continues (session.apply view event).session ∧
      (session.apply view event).result ≠ .ended := by
  unfold apply
  split
  · rename_i inCall
    have live := inCall_iff.mp inCall
    cases event with
    | joined snapshot =>
        refine ⟨continues_join session snapshot, ?_⟩
        change (session.join snapshot).result ≠ .ended
        unfold join
        split <;> simp [ignore]
    | left identity =>
        refine ⟨continues_leave session identity, ?_⟩
        change (session.leave identity).result ≠ .ended
        unfold leave
        split
        · simp
        · split <;> simp [ignore]
    | track change identity track =>
        refine ⟨continues_refreshMedia view session identity, ?_⟩
        change (session.refreshMedia view identity).result ≠ .ended
        unfold refreshMedia
        split <;> simp [ignore]
    | metadata identity =>
        refine ⟨continues_refreshMetadata view session identity, ?_⟩
        change (session.refreshMetadata view identity).result ≠ .ended
        unfold refreshMetadata
        split <;> simp [ignore]
    | reconnecting => exact ⟨⟨rfl, live.symm, rfl⟩, by simp [suspend]⟩
    | reconnected => exact ⟨⟨rfl, live.symm, rfl⟩, by simp [resume]⟩
    | disconnected reason => exact absurd ⟨live, rfl⟩ goesOn
  · exact ⟨.refl session, by simp [ignore]⟩

theorem continues_apply_of_goesOn {session : Session Remote} {event : Media.Event Remote}
    (goesOn : event.endsSession = false) (view : Media.View Remote) :
    session.Continues (session.apply view event).session ∧
      (session.apply view event).result ≠ .ended :=
  continues_apply view fun ended => by rw [goesOn] at ended; cases ended.2

/-! ### Sections -/

/-- The event that a listener acts on: the end of the events counts as a disconnect. -/
def Listening.act (event? : Option (Media.Event Remote)) : Media.Event Remote :=
  event?.getD (.disconnected "transport event stream closed")

theorem Listening.handle_late {epoch : Nat} {session : Session Remote}
    (late : epoch ≠ session.epoch) (event? : Option (Media.Event Remote))
    (view : Media.View Remote) :
    handle epoch event? view session = { session := session, next := .ends .listener } := by
  rw [handle, if_neg (Ne.symm late)]

theorem Listening.handle_ends {event? : Option (Media.Event Remote)} {session : Session Remote}
    (live : session.phase = .live) (ends : (act event?).endsSession = true)
    (view : Media.View Remote) :
    ∃ reason, handle session.epoch event? view session =
      { session := (session.lose reason).session
        next := .waits (.listener session.epoch .releasing)
        journal := (session.lose reason).journal } := by
  cases acted : act event? with
  | disconnected reason =>
      have applied := apply_disconnected live view reason
      rw [← acted, act] at applied
      refine ⟨reason, ?_⟩
      unfold handle
      simp only [if_true, applied]
      rfl
  | _ => rw [acted] at ends; cases ends

theorem Listening.handle_goesOn {event : Media.Event Remote} {session : Session Remote}
    (goesOn : event.endsSession = false) (view : Media.View Remote) :
    handle session.epoch (some event) view session =
      { session := (session.apply view event).session
        next := .waits (.listener session.epoch .waiting)
        journal := (session.apply view event).journal } := by
  have result : (session.apply view event).result ≠ .ended :=
    (continues_apply_of_goesOn goesOn view).2
  unfold handle
  simp [result]

inductive Task.Works (number : Nat) (view : Media.View Remote) (session : Session Remote) :
    Task Remote → Section Remote → Prop where
  | starts (request : Request) :
      Works number view session (.attempt request .starting) (Attempt.start request session)
  | linesUp (request : Request) (epoch : Nat) :
      Works number view session (.attempt request (.begun epoch))
        { session := session, next := .waits (.attempt request (.queued epoch)) }
  | takesTurn (request : Request) (epoch : Nat) :
      Works number view session (.attempt request (.queued epoch))
        (Attempt.takeTurn request epoch session)
  | settles (request : Request) (epoch : Nat) (answer : Except Fault Unit) :
      Works number view session (.attempt request (.settling epoch answer))
        (Attempt.settle request epoch answer view session)
  | enables (request : Request) (epoch : Nat) (track : Media.Track) (todo : List Media.Track) :
      Works number view session (.attempt request (.enabling epoch (track :: todo)))
        (Attempt.enable request epoch track todo session)
  | completes (request : Request) (epoch : Nat) :
      Works number view session (.attempt request (.enabling epoch []))
        (Attempt.complete number request epoch view session)
  | hangsUp : Works number view session (.hangUp .starting) (HangUp.start session)
  | startsToggle (track : Media.Track) :
      Works number view session (.toggle track .starting) (Toggle.start track view session)
  | settlesToggle (track : Media.Track) (epoch : Nat) (identity : String) (target : Bool) :
      Works number view session (.toggle track (.settling epoch identity target))
        (Toggle.settle track epoch identity target view session)
  | handles (epoch : Nat) (event? : Option (Media.Event Remote)) :
      Works number view session (.listener epoch (.holding event?))
        (Listening.handle epoch event? view session)

theorem Task.works_of_section {number : Nat} {view : Media.View Remote}
    {session : Session Remote} {task : Task Remote} {part : Section Remote}
    (worked : task.section? number view session = some part) :
    Task.Works number view session task part := by
  cases task with
  | attempt request stage =>
      cases stage with
      | starting => cases worked; exact .starts request
      | begun epoch => cases worked; exact .linesUp request epoch
      | queued epoch => cases worked; exact .takesTurn request epoch
      | settling epoch answer => cases worked; exact .settles request epoch answer
      | enabling epoch todo =>
          cases todo with
          | nil => cases worked; exact .completes request epoch
          | cons track todo => cases worked; exact .enables request epoch track todo
      | _ => cases worked
  | hangUp stage =>
      cases stage with
      | starting => cases worked; exact .hangsUp
      | releasing => cases worked
  | toggle track stage =>
      cases stage with
      | starting => cases worked; exact .startsToggle track
      | switching epoch identity target => cases worked
      | settling epoch identity target => cases worked; exact .settlesToggle track epoch identity target
  | listener epoch stage =>
      cases stage with
      | holding event? => cases worked; exact .handles epoch event?
      | _ => cases worked

/-- A section keeps out of a session that is not, or no longer, the one its task belongs to. -/
theorem Task.section?_late {number : Nat} {view : Media.View Remote} {session : Session Remote}
    {task : Task Remote} {part : Section Remote} {epoch : Nat}
    (worked : task.section? number view session = some part) (belongs : task.epoch? = some epoch)
    (late : epoch ≠ session.epoch) :
    part.session = session ∧ part.listener = none ∧ part.dropped = none := by
  cases task with
  | attempt request stage =>
      cases stage with
      | starting => cases belongs
      | begun begun => cases worked; exact ⟨rfl, rfl, rfl⟩
      | queued queued =>
          cases belongs; cases worked
          rw [Attempt.takeTurn, if_neg (Ne.symm late)]
          exact ⟨rfl, rfl, rfl⟩
      | handshake waiting => cases worked
      | settling settling answer =>
          cases belongs; cases worked
          unfold Attempt.settle
          rw [if_neg (Ne.symm late)]
          exact ⟨rfl, rfl, rfl⟩
      | enabling enabling todo =>
          cases belongs
          cases todo with
          | nil =>
              cases worked
              rw [Attempt.complete, if_neg (Ne.symm late)]
              exact ⟨rfl, rfl, rfl⟩
          | cons track todo => cases worked; exact ⟨rfl, rfl, rfl⟩
      | switching waiting track todo => cases worked
      | releasing result => cases belongs
  | hangUp stage => cases belongs
  | toggle track stage =>
      cases stage with
      | starting => cases belongs
      | switching waiting identity target => cases worked
      | settling settling identity target =>
          cases belongs; cases worked
          rw [Toggle.settle, if_neg (Ne.symm late)]
          exact ⟨rfl, rfl, rfl⟩
  | listener heard stage =>
      cases belongs
      cases stage with
      | waiting => cases worked
      | holding event? =>
          cases worked
          rw [Listening.handle_late late]
          exact ⟨rfl, rfl, rfl⟩
      | releasing => cases worked

/-- The ways in which a section can change the session. -/
inductive Task.Change (number : Nat) (session : Session Remote) (task : Task Remote)
    (part : Section Remote) : Prop where
  | continues (same : session.Continues part.session) (listener : part.listener = none)
      (dropped : part.dropped = none)
  | admits (request : Request) (starts : task = .attempt request .starting)
      (idle : session.phase = .idle) (valid : request.complaint? = none)
      (epoch : part.session.epoch = session.epoch + 1) (phase : part.session.phase = .connecting)
      (held : part.session.listener = session.listener)
      (next : part.next = .waits (.attempt request (.begun (session.epoch + 1))))
      (listener : part.listener = none) (dropped : part.dropped = none)
  | accepts (request : Request) (settles : task = .attempt request (.settling session.epoch (.ok ())))
      (epoch : part.session.epoch = session.epoch) (phase : part.session.phase = .live)
      (held : part.session.listener = session.listener)
      (next : part.next = .waits (.attempt request (.enabling session.epoch request.wanted)))
      (listener : part.listener = none) (dropped : part.dropped = none)
  | fails (request : Request) (fault : Fault)
      (settles : task = .attempt request (.settling session.epoch (.error fault)))
      (epoch : part.session.epoch = session.epoch) (phase : part.session.phase = .idle)
      (held : part.session.listener = session.listener)
      (next : part.next = .waits (.attempt request (.releasing (.error fault))))
      (listener : part.listener = none) (dropped : part.dropped = none)
  | completes (request : Request) (enables : task = .attempt request (.enabling session.epoch []))
      (epoch : part.session.epoch = session.epoch) (phase : part.session.phase = session.phase)
      (held : part.session.listener = some number)
      (next : part.next = .ends (.attempt (.ok .connected)))
      (listener : part.listener = some (.listener session.epoch .waiting))
      (dropped : part.dropped = none)
  | hangsUp (starts : task = .hangUp .starting)
      (epoch : part.session.epoch = session.epoch + 1) (phase : part.session.phase = .idle)
      (held : part.session.listener = none)
      (next : part.next = if session.phase = .idle then .ends .hangUp else .waits (.hangUp .releasing))
      (listener : part.listener = none) (dropped : part.dropped = session.listener)
  | loses (event? : Option (Media.Event Remote))
      (holds : task = .listener session.epoch (.holding event?))
      (live : session.phase = .live) (ends : (Listening.act event?).endsSession = true)
      (epoch : part.session.epoch = session.epoch + 1) (phase : part.session.phase = .idle)
      (held : part.session.listener = none)
      (next : part.next = .waits (.listener session.epoch .releasing))
      (listener : part.listener = none) (dropped : part.dropped = none)

private theorem Attempt.start_change (number : Nat) (request : Request)
    (session : Session Remote) :
    Task.Change number session (.attempt request .starting) (start request session) := by
  unfold start
  split
  · rename_i disconnected
    have idle := disconnected_iff.mp disconnected
    split
    · exact .continues ⟨rfl, rfl, rfl⟩ rfl rfl
    · rename_i valid
      exact .admits request rfl idle valid rfl rfl rfl rfl rfl rfl
  · exact .continues (.refl session) rfl rfl

private theorem Attempt.settle_change (number : Nat) (request : Request) (epoch : Nat)
    (answer : Except Fault Unit) (view : Media.View Remote) (session : Session Remote) :
    Task.Change number session (.attempt request (.settling epoch answer))
      (settle request epoch answer view session) := by
  unfold settle
  split
  · rename_i current
    subst current
    cases answer with
    | ok done => exact .accepts request rfl rfl rfl rfl rfl rfl rfl
    | error fault => exact .fails request fault rfl rfl rfl rfl rfl rfl rfl
  · exact .continues (.refl session) rfl rfl

private theorem Attempt.complete_change (number : Nat) (request : Request) (epoch : Nat)
    (view : Media.View Remote) (session : Session Remote) :
    Task.Change number session (.attempt request (.enabling epoch []))
      (complete number request epoch view session) := by
  unfold complete
  split
  · rename_i current
    subst current
    exact .completes request rfl rfl rfl rfl rfl rfl rfl
  · exact .continues (.refl session) rfl rfl

private theorem HangUp.start_change (number : Nat) (session : Session Remote) :
    Task.Change number session (.hangUp .starting) (start session) := by
  unfold start
  split
  · rename_i disconnected
    have idle := disconnected_iff.mp disconnected
    exact .hangsUp rfl rfl rfl rfl (by rw [if_pos idle]) rfl rfl
  · rename_i connected
    have busy : session.phase ≠ .idle := fun idle => connected (disconnected_iff.mpr idle)
    exact .hangsUp rfl rfl rfl rfl (by rw [if_neg busy]) rfl rfl

private theorem Toggle.start_change (number : Nat) (track : Media.Track)
    (view : Media.View Remote) (session : Session Remote) :
    Task.Change number session (.toggle track .starting) (start track view session) := by
  unfold start
  split <;> exact .continues (.refl session) rfl rfl

private theorem Toggle.settle_change (number : Nat) (track : Media.Track) (epoch : Nat)
    (identity : String) (target : Bool) (view : Media.View Remote) (session : Session Remote) :
    Task.Change number session (.toggle track (.settling epoch identity target))
      (settle track epoch identity target view session) := by
  unfold settle
  split
  · exact .continues (continues_refreshMedia view session identity) rfl rfl
  · exact .continues (.refl session) rfl rfl

private theorem Listening.handle_change (number epoch : Nat)
    (event? : Option (Media.Event Remote)) (view : Media.View Remote)
    (session : Session Remote) :
    Task.Change number session (.listener epoch (.holding event?))
      (handle epoch event? view session) := by
  by_cases current : epoch = session.epoch
  · subst current
    by_cases ended : session.phase = .live ∧ (act event?).endsSession = true
    · obtain ⟨reason, handled⟩ := handle_ends ended.1 ended.2 view
      rw [handled]
      exact .loses event? rfl ended.1 ended.2 rfl rfl rfl rfl rfl rfl
    · have goesOn := (continues_apply view ended).1
      unfold handle
      rw [if_pos rfl]
      exact .continues goesOn rfl rfl
  · rw [handle_late current]
    exact .continues (.refl session) rfl rfl

theorem Task.section?_change {number : Nat} {view : Media.View Remote}
    {session : Session Remote} {task : Task Remote} {part : Section Remote}
    (worked : task.section? number view session = some part) :
    Task.Change number session task part := by
  cases task with
  | attempt request stage =>
      cases stage with
      | starting => cases worked; exact Attempt.start_change number request session
      | begun epoch => cases worked; exact .continues (.refl session) rfl rfl
      | queued epoch =>
          cases worked
          unfold Attempt.takeTurn
          split <;> exact .continues (.refl session) rfl rfl
      | handshake epoch => cases worked
      | settling epoch answer =>
          cases worked
          exact Attempt.settle_change number request epoch answer view session
      | enabling epoch todo =>
          cases todo with
          | nil => cases worked; exact Attempt.complete_change number request epoch view session
          | cons track todo => cases worked; exact .continues (.refl session) rfl rfl
      | switching epoch track todo => cases worked
      | releasing result => cases worked
  | hangUp stage =>
      cases stage with
      | starting => cases worked; exact HangUp.start_change number session
      | releasing => cases worked
  | toggle track stage =>
      cases stage with
      | starting => cases worked; exact Toggle.start_change number track view session
      | switching epoch identity target => cases worked
      | settling epoch identity target =>
          cases worked
          exact Toggle.settle_change number track epoch identity target view session
  | listener epoch stage =>
      cases stage with
      | waiting => cases worked
      | holding event? =>
          cases worked
          exact Listening.handle_change number epoch event? view session
      | releasing => cases worked

/-- A task that waits for an answer has no section to do. -/
theorem Task.ask?_of_section? {number : Nat} {view : Media.View Remote}
    {session : Session Remote} {task : Task Remote} {part : Section Remote}
    (worked : task.section? number view session = some part) : task.ask? = none := by
  cases task with
  | attempt request stage => cases stage <;> first | rfl | cases worked
  | hangUp stage => cases stage <;> first | rfl | cases worked
  | toggle track stage => cases stage <;> first | rfl | cases worked
  | listener epoch stage => cases stage <;> first | rfl | cases worked

/-! ### The life of a task -/

/-- What a task can be next, seen from the session it works on, if it does not end. -/
inductive Task.Follows (session : Session Remote) : Task Remote → Task Remote → Prop where
  | admitted (request : Request) :
      Follows session (.attempt request .starting) (.attempt request (.begun (session.epoch + 1)))
  | linedUp (request : Request) (epoch : Nat) :
      Follows session (.attempt request (.begun epoch)) (.attempt request (.queued epoch))
  | turned (request : Request) :
      Follows session (.attempt request (.queued session.epoch))
        (.attempt request (.handshake session.epoch))
  | shaken (request : Request) (epoch : Nat) (answer : Except Fault Unit) :
      Follows session (.attempt request (.handshake epoch))
        (.attempt request (.settling epoch answer))
  | accepted (request : Request) :
      Follows session (.attempt request (.settling session.epoch (.ok ())))
        (.attempt request (.enabling session.epoch request.wanted))
  | failed (request : Request) (fault : Fault) :
      Follows session (.attempt request (.settling session.epoch (.error fault)))
        (.attempt request (.releasing (.error fault)))
  | discarded (request : Request) (epoch : Nat) (late : epoch ≠ session.epoch) :
      Follows session (.attempt request (.settling epoch (.ok ())))
        (.attempt request (.releasing (.ok .superseded)))
  | enables (request : Request) (track : Media.Track) (todo : List Media.Track) :
      Follows session (.attempt request (.enabling session.epoch (track :: todo)))
        (.attempt request (.switching session.epoch track todo))
  | skips (request : Request) (epoch : Nat) (todo : List Media.Track)
      (late : epoch ≠ session.epoch) :
      Follows session (.attempt request (.enabling epoch todo))
        (.attempt request (.enabling epoch []))
  | switched (request : Request) (epoch : Nat) (track : Media.Track) (todo : List Media.Track) :
      Follows session (.attempt request (.switching epoch track todo))
        (.attempt request (.enabling epoch todo))
  | tooLate (request : Request) (epoch : Nat) (late : epoch ≠ session.epoch) :
      Follows session (.attempt request (.enabling epoch []))
        (.attempt request (.releasing (.ok .superseded)))
  | hungUp : Follows session (.hangUp .starting) (.hangUp .releasing)
  | toggles (track : Media.Track) (identity : String) (target : Bool)
      (live : session.phase = .live) (known : session.identity = some identity) :
      Follows session (.toggle track .starting)
        (.toggle track (.switching session.epoch identity target))
  | toggled (track : Media.Track) (epoch : Nat) (identity : String) (target : Bool) :
      Follows session (.toggle track (.switching epoch identity target))
        (.toggle track (.settling epoch identity target))
  | hears (epoch : Nat) (event? : Option (Media.Event Remote)) :
      Follows session (.listener epoch .waiting) (.listener epoch (.holding event?))
  | goesOn (event : Media.Event Remote) :
      Follows session (.listener session.epoch (.holding (some event)))
        (.listener session.epoch .waiting)
  | ended (event? : Option (Media.Event Remote)) :
      Follows session (.listener session.epoch (.holding event?))
        (.listener session.epoch .releasing)

private theorem Attempt.start_follows {request : Request} {session : Session Remote}
    {later : Task Remote} (next : (start request session).next = .waits later) :
    Task.Follows session (.attempt request .starting) later := by
  unfold start at next
  split at next
  · split at next
    · cases next
    · cases next; exact .admitted request
  · cases next

private theorem Attempt.settle_follows {request : Request} {epoch : Nat}
    {answer : Except Fault Unit} {view : Media.View Remote} {session : Session Remote}
    {later : Task Remote} (next : (settle request epoch answer view session).next = .waits later) :
    Task.Follows session (.attempt request (.settling epoch answer)) later := by
  unfold settle at next
  split at next
  · rename_i current
    subst current
    cases answer with
    | ok done => cases next; exact .accepted request
    | error fault => cases next; exact .failed request fault
  · rename_i late
    cases answer with
    | ok done => cases next; exact .discarded request epoch (Ne.symm late)
    | error fault => cases next

private theorem Listening.handle_follows {epoch : Nat} {event? : Option (Media.Event Remote)}
    {view : Media.View Remote} {session : Session Remote} {later : Task Remote}
    (next : (handle epoch event? view session).next = .waits later) :
    Task.Follows session (.listener epoch (.holding event?)) later := by
  unfold handle at next
  split at next
  · rename_i current
    subst current
    dsimp only at next
    split at next
    · cases next; exact .ended event?
    · rename_i goesOn
      cases next
      cases event? with
      | none => exact absurd (Or.inr rfl) goesOn
      | some event => exact .goesOn event
  · cases next

theorem Task.section?_follows {number : Nat} {view : Media.View Remote}
    {session : Session Remote} {task later : Task Remote} {part : Section Remote}
    (worked : task.section? number view session = some part) (next : part.next = .waits later) :
    Task.Follows session task later := by
  cases task with
  | attempt request stage =>
      cases stage with
      | starting => cases worked; exact Attempt.start_follows next
      | begun epoch => cases worked; cases next; exact .linedUp request epoch
      | queued epoch =>
          cases worked
          unfold Attempt.takeTurn at next
          split at next
          · rename_i current
            subst current
            cases next
            exact .turned request
          · cases next
      | handshake epoch => cases worked
      | settling epoch answer => cases worked; exact Attempt.settle_follows next
      | enabling epoch todo =>
          cases todo with
          | nil =>
              cases worked
              unfold Attempt.complete at next
              split at next
              · cases next
              · rename_i late
                cases next
                exact .tooLate request epoch (Ne.symm late)
          | cons track todo =>
              cases worked
              unfold Attempt.enable at next
              dsimp only at next
              split at next
              · rename_i current
                subst current
                cases next
                exact .enables request track todo
              · rename_i late
                cases next
                exact .skips request epoch _ (Ne.symm late)
      | switching epoch track todo => cases worked
      | releasing result => cases worked
  | hangUp stage =>
      cases stage with
      | starting =>
          cases worked
          unfold HangUp.start at next
          split at next
          · cases next
          · cases next; exact .hungUp
      | releasing => cases worked
  | toggle track stage =>
      cases stage with
      | starting =>
          cases worked
          unfold Toggle.start at next
          split at next
          · rename_i identity connected known
            cases next
            exact .toggles track identity _ (phase_of_connected connected) known
          · cases next
      | switching epoch identity target => cases worked
      | settling epoch identity target =>
          cases worked
          unfold Toggle.settle at next
          split at next <;> cases next
  | listener epoch stage =>
      cases stage with
      | waiting => cases worked
      | holding event? => cases worked; exact Listening.handle_follows next
      | releasing => cases worked

theorem Task.answered?_follows {limit : Duration} {session : Session Remote}
    {task later : Task Remote} {answer : Answer} {journal : List Journal.Entry}
    (answered : task.answered? limit answer = some (.waits later, journal)) :
    Task.Follows session task later := by
  cases task with
  | attempt request stage =>
      cases stage with
      | handshake epoch => cases answered; exact .shaken request epoch _
      | switching epoch track todo =>
          cases answer <;> cases answered <;> exact .switched request epoch track todo
      | releasing result => cases answer <;> cases answered
      | _ => cases answered
  | hangUp stage => cases stage <;> cases answer <;> cases answered
  | toggle track stage =>
      cases stage with
      | switching epoch identity target =>
          cases answer <;> cases answered
          exact .toggled track epoch identity target
      | starting => cases answered
      | settling epoch identity target => cases answered
  | listener epoch stage => cases stage <;> cases answer <;> cases answered

/-- A task keeps its epoch until it has none, and takes the one that the session has or is about to
have when it gets one. -/
theorem Task.Follows.epoch?_eq {session : Session Remote} {task later : Task Remote}
    (follows : Follows session task later) {epoch : Nat} (belongs : later.epoch? = some epoch) :
    task.epoch? = some epoch ∨
      (∃ request, task = .attempt request .starting) ∧ epoch = session.epoch + 1 ∨
      (∃ track, task = .toggle track .starting) ∧ epoch = session.epoch := by
  cases follows with
  | admitted request =>
      cases belongs
      exact Or.inr (Or.inl ⟨⟨request, rfl⟩, rfl⟩)
  | toggles track =>
      cases belongs
      exact Or.inr (Or.inr ⟨⟨track, rfl⟩, rfl⟩)
  | failed request fault => cases belongs
  | discarded request gone => cases belongs
  | tooLate request gone => cases belongs
  | hungUp => cases belongs
  | _ => exact Or.inl belongs

/-- An attempt stays an attempt, with the same request. -/
theorem Task.Follows.of_attempt {session : Session Remote} {task : Task Remote}
    {request : Request} {stage : Attempt} (follows : Follows session task (.attempt request stage)) :
    ∃ before, task = .attempt request before := by
  cases follows <;> exact ⟨_, rfl⟩

theorem Task.Follows.of_listener {session : Session Remote} {task : Task Remote} {epoch : Nat}
    {stage : Listening Remote} (follows : Follows session task (.listener epoch stage)) :
    ∃ before, task = .listener epoch before := by
  cases follows <;> exact ⟨_, rfl⟩

theorem Task.Follows.of_toggle {session : Session Remote} {task : Task Remote}
    {track : Media.Track} {stage : Toggle} (follows : Follows session task (.toggle track stage)) :
    ∃ before, task = .toggle track before := by
  cases follows <;> exact ⟨_, rfl⟩

theorem Task.Follows.listener {session : Session Remote} {later : Task Remote} {epoch : Nat}
    {stage : Listening Remote} (follows : Follows session (.listener epoch stage) later) :
    ∃ after, later = .listener epoch after := by
  cases follows <;> exact ⟨_, rfl⟩

/-! ### Teardowns -/

def Task.tearsDown : Task Remote → Bool
  | .hangUp .releasing => true
  | .listener _ .releasing => true
  | _ => false

private theorem Listening.handle_tearsDown {epoch : Nat} {event? : Option (Media.Event Remote)}
    {view : Media.View Remote} {session : Session Remote} {later : Task Remote}
    (live : epoch = session.epoch → session.phase = .live)
    (next : (handle epoch event? view session).next = .waits later)
    (tears : later.tearsDown = true) :
    (handle epoch event? view session).session.epoch = session.epoch + 1 := by
  by_cases current : epoch = session.epoch
  · subst current
    cases ends : (act event?).endsSession with
    | true =>
        obtain ⟨reason, handled⟩ := handle_ends (live rfl) ends view
        rw [handled]
        rfl
    | false =>
        cases event? with
        | none => cases ends
        | some event =>
            have handled := @handle_goesOn Remote event session ends view
            rw [handled] at next
            cases next
            cases tears
  · rw [handle_late current] at next
    cases next

/-- Whoever comes to release the transport this way has ended the session just then. -/
theorem Task.section?_tearsDown {number : Nat} {view : Media.View Remote}
    {session : Session Remote} {task later : Task Remote} {part : Section Remote}
    (live : ∀ event?, task = .listener session.epoch (.holding event?) → session.phase = .live)
    (worked : task.section? number view session = some part) (next : part.next = .waits later)
    (tears : later.tearsDown = true) : part.session.epoch = session.epoch + 1 := by
  cases Task.section?_follows worked next with
  | hungUp =>
      cases worked
      unfold HangUp.start
      split <;> rfl
  | ended event? =>
      cases worked
      exact Listening.handle_tearsDown (fun _current => live event? rfl) next tears
  | _ => cases tears

theorem Task.answered?_tearsDown {limit : Duration} {task later : Task Remote} {answer : Answer}
    {journal : List Journal.Entry}
    (answered : task.answered? limit answer = some (.waits later, journal)) :
    later.tearsDown = false := by
  have follows : Follows Session.new task later := answered?_follows answered
  cases follows with
  | hungUp => cases answered
  | ended event? => cases answered
  | _ => rfl

/-- An attempt that has got through to the transport for a session that is over by now. It has to
release the transport before it ends. -/
def Task.mustRelease (session : Session Remote) : Task Remote → Bool
  | .attempt _ (.settling epoch (.ok _)) => epoch ≠ session.epoch
  | .attempt _ (.enabling epoch _) => epoch ≠ session.epoch
  | .attempt _ (.switching epoch _ _) => epoch ≠ session.epoch
  | _ => false

theorem Task.epoch?_of_mustRelease {session : Session Remote} {task : Task Remote}
    (must : task.mustRelease session = true) :
    ∃ epoch, task.epoch? = some epoch ∧ epoch ≠ session.epoch := by
  cases task with
  | attempt request stage =>
      cases stage with
      | settling epoch answer =>
          cases answer with
          | ok done => exact ⟨epoch, rfl, of_decide_eq_true must⟩
          | error fault => cases must
      | enabling epoch todo => exact ⟨epoch, rfl, of_decide_eq_true must⟩
      | switching epoch track todo => exact ⟨epoch, rfl, of_decide_eq_true must⟩
      | _ => cases must
  | hangUp stage => cases must
  | toggle track stage => cases must
  | listener epoch stage => cases must

/-- What is over stays over. -/
theorem Task.mustRelease_mono {session after : Session Remote} {task : Task Remote}
    (must : task.mustRelease session = true)
    (notAhead : ∀ epoch, task.epoch? = some epoch → epoch ≤ session.epoch)
    (grown : session.epoch ≤ after.epoch) : task.mustRelease after = true := by
  have behind : ∀ epoch, epoch ≤ session.epoch → epoch ≠ session.epoch → epoch ≠ after.epoch := by
    intro epoch atMost different
    omega
  cases task with
  | attempt request stage =>
      cases stage with
      | settling epoch answer =>
          cases answer with
          | ok done => exact decide_eq_true (behind epoch (notAhead epoch rfl) (of_decide_eq_true must))
          | error fault => cases must
      | enabling epoch todo =>
          exact decide_eq_true (behind epoch (notAhead epoch rfl) (of_decide_eq_true must))
      | switching epoch track todo =>
          exact decide_eq_true (behind epoch (notAhead epoch rfl) (of_decide_eq_true must))
      | _ => cases must
  | hangUp stage => cases must
  | toggle track stage => cases must
  | listener epoch stage => cases must

/-- Such an attempt goes on until it releases the transport. -/
theorem Task.section?_mustRelease {number : Nat} {view : Media.View Remote}
    {session : Session Remote} {task : Task Remote} {part : Section Remote}
    (must : task.mustRelease session = true)
    (worked : task.section? number view session = some part) :
    ∃ later, part.next = .waits later ∧
      (later.mustRelease session = true ∨ later.ask? = some .disconnect) := by
  cases task with
  | attempt request stage =>
      cases stage with
      | settling epoch answer =>
          cases answer with
          | error fault => cases must
          | ok done =>
              have late : epoch ≠ session.epoch := of_decide_eq_true must
              cases worked
              unfold Attempt.settle
              rw [if_neg (Ne.symm late)]
              exact ⟨_, rfl, Or.inr rfl⟩
      | enabling epoch todo =>
          have late : epoch ≠ session.epoch := of_decide_eq_true must
          cases todo with
          | nil =>
              cases worked
              unfold Attempt.complete
              rw [if_neg (Ne.symm late)]
              exact ⟨_, rfl, Or.inr rfl⟩
          | cons track todo =>
              cases worked
              unfold Attempt.enable
              rw [if_neg (Ne.symm late)]
              exact ⟨_, rfl, Or.inl (decide_eq_true late)⟩
      | switching epoch track todo => cases worked
      | _ => cases must
  | hangUp stage => cases must
  | toggle track stage => cases must
  | listener epoch stage => cases must

theorem Task.answered?_mustRelease {limit : Duration} {session : Session Remote}
    {task : Task Remote} {answer : Answer} {next : Next Remote} {journal : List Journal.Entry}
    (must : task.mustRelease session = true)
    (answered : task.answered? limit answer = some (next, journal)) :
    ∃ later, next = .waits later ∧
      (later.mustRelease session = true ∨ later.ask? = some .disconnect) := by
  cases task with
  | attempt request stage =>
      cases stage with
      | switching epoch track todo => cases answer <;> cases answered <;> exact ⟨_, rfl, Or.inl must⟩
      | settling epoch verdict => cases answered
      | enabling epoch todo => cases answered
      | _ => cases must
  | hangUp stage => cases must
  | toggle track stage => cases must
  | listener epoch stage => cases must

end Session

end MeetingRoom
