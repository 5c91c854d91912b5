import MeetingRoom.Proofs.Coherence

/-!
What a session can become in one step of its room, with everything that it holds. A task that fits
the session works on it only in the phase in which it belongs, so for each way of changing there is
one kind of session that can change like that.
-/

namespace MeetingRoom

variable {Remote : Type}

namespace Session

theorem connecting_iff {session : Session Remote} :
    session.call = .connecting ↔ session.phase = .connecting := by
  unfold phase
  cases session.call <;> simp

/-- The sessions that one step can make of a session, while the transport shows a view. -/
inductive Becomes (view : Media.View Remote) (session : Session Remote) : Session Remote → Prop where
  | stays : Becomes view session session
  | refuses (fault : Fault) (idle : session.phase = .idle) :
      Becomes view session { session with fault := some fault }
  | admits (idle : session.phase = .idle) :
      Becomes view session
        { session with call := .connecting, epoch := session.epoch + 1, fault := none }
  | accepts (connecting : session.phase = .connecting) :
      Becomes view session (resync view { session with call := .connected })
  | fails (fault : Fault) (connecting : session.phase = .connecting) :
      Becomes view session { session with call := .disconnected, fault := some fault }
  | completes (number : Nat) (live : session.phase = .live) :
      Becomes view session { resync view session with listener := some number }
  | hangsUp : Becomes view session { session.close with fault := none }
  | joins (snapshot : Media.Snapshot Remote) (roster : Roster Remote) (live : session.phase = .live)
      (added : session.roster.add? (Participant.ofSnapshot .remote snapshot) = some roster) :
      Becomes view session { session with roster := roster }
  | leaves (identity : String) (live : session.phase = .live)
      (other : session.identity ≠ some identity) :
      Becomes view session { session with roster := session.roster.remove identity }
  | turns (identity : String) (snapshot : Media.Snapshot Remote) (live : session.phase = .live)
      (known : session.truth? view identity = some snapshot) :
      Becomes view session
        { session with roster := session.roster.refreshMedia identity snapshot }
  | describes (identity : String) (snapshot : Media.Snapshot Remote) (live : session.phase = .live)
      (known : session.truth? view identity = some snapshot) :
      Becomes view session
        { session with roster := session.roster.refreshMetadata identity snapshot }
  | suspends (live : session.phase = .live) :
      Becomes view session { session with call := .reconnecting }
  | resumes (live : session.phase = .live) :
      Becomes view session (resync view { session with call := .connected })
  | loses (reason : String) (live : session.phase = .live) :
      Becomes view session { session.close with fault := some (.lost reason) }
  | voices (text? : Option String) : Becomes view session (session.setVoice text?)

/-! ### Events -/

section Events

variable {session : Session Remote} (live : session.phase = .live) (view : Media.View Remote)

include live

private theorem becomes_join (snapshot : Media.Snapshot Remote) :
    session.Becomes view (session.join snapshot).session := by
  unfold join
  split
  · rename_i roster added
    exact .joins snapshot roster live added
  · exact .stays

private theorem becomes_leave (identity : String) :
    session.Becomes view (session.leave identity).session := by
  unfold leave
  split
  · exact .stays
  · rename_i other
    split
    · exact .leaves identity live other
    · exact .stays

private theorem becomes_refreshMedia (identity : String) :
    session.Becomes view (session.refreshMedia view identity).session := by
  unfold refreshMedia
  split
  · rename_i snapshot _listed known
    exact .turns identity snapshot live known
  · exact .stays

private theorem becomes_refreshMetadata (identity : String) :
    session.Becomes view (session.refreshMetadata view identity).session := by
  unfold refreshMetadata
  split
  · rename_i snapshot _listed known
    exact .describes identity snapshot live known
  · exact .stays

end Events

theorem becomes_apply (view : Media.View Remote) (session : Session Remote)
    (event : Media.Event Remote) : session.Becomes view (session.apply view event).session := by
  unfold apply
  split
  · rename_i inCall
    have live := inCall_iff.mp inCall
    cases event with
    | joined snapshot => exact becomes_join live view snapshot
    | left identity => exact becomes_leave live view identity
    | track change identity track => exact becomes_refreshMedia live view identity
    | metadata identity => exact becomes_refreshMetadata live view identity
    | reconnecting => exact .suspends live
    | reconnected => exact .resumes live
    | disconnected reason => exact .loses reason live
  · exact .stays

/-! ### Sections -/

section Sections

variable {number : Nat} {view : Media.View Remote} {session : Session Remote}

private theorem Attempt.becomes_start (request : Request) :
    session.Becomes view (start request session).session := by
  unfold start
  split
  · rename_i disconnected
    have idle := disconnected_iff.mp disconnected
    split
    · exact .refuses _ idle
    · exact .admits idle
  · exact .stays

private theorem Attempt.becomes_settle {request : Request} {epoch : Nat}
    {answer : Except Fault Unit}
    (fits : (Task.attempt request (.settling epoch answer)).Fits number session) :
    session.Becomes view (settle request epoch answer view session).session := by
  unfold settle
  split
  · rename_i current
    have connecting := fits.phase_eq (congrArg some current.symm) rfl
    cases answer with
    | ok done => exact .accepts connecting
    | error fault => exact .fails fault connecting
  · exact .stays

private theorem Attempt.becomes_complete {request : Request} {epoch : Nat}
    (fits : (Task.attempt request (.enabling epoch [])).Fits number session) :
    session.Becomes view (complete number request epoch view session).session := by
  unfold complete
  split
  · rename_i current
    exact .completes number (fits.phase_eq (congrArg some current.symm) rfl)
  · exact .stays

private theorem Toggle.becomes_settle {track : Media.Track} {epoch : Nat} {identity : String}
    {target : Bool}
    (fits : (Task.toggle track (.settling epoch identity target)).Fits number session) :
    session.Becomes view (settle track epoch identity target view session).session := by
  unfold settle
  split
  · rename_i current
    exact becomes_refreshMedia (fits.phase_eq (congrArg some current.symm) rfl) view identity
  · exact .stays

theorem Task.becomes_section {task : Task Remote} {part : Section Remote}
    (fits : task.Fits number session) (worked : task.section? number view session = some part) :
    session.Becomes view part.session := by
  cases task with
  | attempt request stage =>
      cases stage with
      | starting => cases worked; exact Attempt.becomes_start request
      | begun epoch => cases worked; exact .stays
      | queued epoch =>
          cases worked
          unfold Attempt.takeTurn
          split <;> exact .stays
      | handshake epoch => cases worked
      | settling epoch answer => cases worked; exact Attempt.becomes_settle fits
      | enabling epoch todo =>
          cases todo with
          | nil => cases worked; exact Attempt.becomes_complete fits
          | cons track todo => cases worked; exact .stays
      | switching epoch track todo => cases worked
      | releasing result => cases worked
  | hangUp stage =>
      cases stage with
      | starting =>
          cases worked
          unfold HangUp.start
          split <;> exact .hangsUp
      | releasing => cases worked
  | toggle track stage =>
      cases stage with
      | starting =>
          cases worked
          unfold Toggle.start
          split <;> exact .stays
      | switching epoch identity target => cases worked
      | settling epoch identity target => cases worked; exact Toggle.becomes_settle fits
  | listener epoch stage =>
      cases stage with
      | waiting => cases worked
      | holding event? =>
          cases worked
          unfold Listening.handle
          split
          · exact becomes_apply view session _
          · exact .stays
      | releasing => cases worked

end Sections

end Session

/-- Whatever action a room takes, its session becomes one of these. -/
theorem Room.Coherent.becomes_step {room next : Room Remote} (coherent : room.Coherent)
    {action : Room.Action Remote} (stepped : room.step? action = some next) :
    ∃ view, room.session.Becomes view next.session := by
  have alters := alters_of_step stepped
  generalize next.session = after at alters ⊢
  cases alters with
  | work id view found worked =>
      exact ⟨view, Session.Task.becomes_section (coherent.fits id _ found) worked⟩
  | event view event => exact ⟨view, Session.becomes_apply view room.session event⟩
  | voice text? => exact ⟨.empty, .voices text?⟩
  | _ => exact ⟨.empty, .stays⟩

/-- What holds of a new session and of whatever a session can become holds in every run. -/
theorem Room.session_run {invariant : Session Remote → Prop} (new : invariant .new)
    (becomes : ∀ view session after, invariant session → session.Becomes view after →
      invariant after)
    {limit : Duration} {actions : List (Room.Action Remote)} {room : Room Remote}
    (ran : (Room.new limit).run? actions = some room) : invariant room.session := by
  refine (@run_keeps _ _ Room.step? (fun reached => reached.Coherent ∧ invariant reached.session)
    ?_ _ _ actions ⟨.new limit, new⟩ ran).2
  intro reached action next holds stepped
  obtain ⟨view, changed⟩ := holds.1.becomes_step stepped
  exact ⟨holds.1.step stepped, becomes view _ _ holds.2 changed⟩

end MeetingRoom
