import MeetingRoom.Proofs.Sections

/-!
What one section of work can do to what a session shows: its identity, its call, its roster and its
listener. A section reads the view at most once, and what it makes of the roster is a resync, a
refresh of one participant or the effect of one event.
-/

namespace MeetingRoom.Session

variable {Remote : Type}

inductive Task.Touches (number : Nat) (view : Media.View Remote) (session : Session Remote)
    (task : Task Remote) (part : Section Remote) : Prop where
  | nothing (same : part.session = session) (stale : ∀ stage, task ≠ .listener session.epoch stage)
      (listener : part.listener = none) (dropped : part.dropped = none)
  | outside (idle : session.phase = .idle) (phase : part.session.phase ≠ .live)
      (identity : part.session.identity = session.identity)
      (listener : part.session.listener = session.listener)
  | accepts (request : Request) (settles : task = .attempt request (.settling session.epoch (.ok ())))
      (after : part.session = resync view { session with call := .connected })
      (listener : part.listener = none) (dropped : part.dropped = none)
  | fails (request : Request) (fault : Fault)
      (settles : task = .attempt request (.settling session.epoch (.error fault)))
      (phase : part.session.phase ≠ .live) (identity : part.session.identity = session.identity)
      (listener : part.session.listener = session.listener)
  | completes (request : Request) (enables : task = .attempt request (.enabling session.epoch []))
      (after : part.session = { resync view session with listener := some number })
      (started : part.listener = some (.listener session.epoch .waiting))
      (dropped : part.dropped = none)
  | hangsUp (phase : part.session.phase ≠ .live) (identity : part.session.identity = none)
      (listener : part.session.listener = none)
  | refreshes (track : Media.Track) (identity : String) (target : Bool)
      (settles : task = .toggle track (.settling session.epoch identity target))
      (after : part.session = (session.refreshMedia view identity).session)
      (listener : part.listener = none) (dropped : part.dropped = none)
  | handles (event? : Option (Media.Event Remote))
      (holds : task = .listener session.epoch (.holding event?))
      (after : part.session = (session.apply view (Listening.act event?)).session)
      (listener : part.listener = none) (dropped : part.dropped = none)

private theorem Attempt.start_touches (number : Nat) (view : Media.View Remote)
    (request : Request) (session : Session Remote) :
    Task.Touches number view session (.attempt request .starting) (start request session) := by
  unfold start
  split
  · rename_i disconnected
    have idle := disconnected_iff.mp disconnected
    split
    · refine .outside idle ?_ rfl rfl
      rw [show ({ session with fault := some _ } : Session Remote).phase = session.phase from rfl, idle]
      nofun
    · exact .outside idle nofun rfl rfl
  · exact .nothing rfl nofun rfl rfl

private theorem Attempt.settle_touches (number : Nat) (request : Request) (epoch : Nat)
    (answer : Except Fault Unit) (view : Media.View Remote) (session : Session Remote) :
    Task.Touches number view session (.attempt request (.settling epoch answer))
      (settle request epoch answer view session) := by
  unfold settle
  split
  · rename_i current
    subst current
    cases answer with
    | ok done => exact .accepts request rfl rfl rfl rfl
    | error fault => exact .fails request fault rfl nofun rfl rfl
  · exact .nothing rfl nofun rfl rfl

private theorem Attempt.complete_touches (number : Nat) (request : Request) (epoch : Nat)
    (view : Media.View Remote) (session : Session Remote) :
    Task.Touches number view session (.attempt request (.enabling epoch []))
      (complete number request epoch view session) := by
  unfold complete
  split
  · rename_i current
    subst current
    exact .completes request rfl rfl rfl rfl
  · exact .nothing rfl nofun rfl rfl

private theorem Listening.handle_touches (number epoch : Nat)
    (event? : Option (Media.Event Remote)) (view : Media.View Remote)
    (session : Session Remote) :
    Task.Touches number view session (.listener epoch (.holding event?))
      (handle epoch event? view session) := by
  by_cases current : epoch = session.epoch
  · subst current
    unfold handle
    rw [if_pos rfl]
    exact .handles event? rfl rfl rfl rfl
  · rw [handle_late current]
    refine .nothing rfl ?_ rfl rfl
    intro stage same
    exact current (Task.listener.inj same).1

theorem Task.section?_touches {number : Nat} {view : Media.View Remote}
    {session : Session Remote} {task : Task Remote} {part : Section Remote}
    (worked : task.section? number view session = some part) :
    Task.Touches number view session task part := by
  cases task with
  | attempt request stage =>
      cases stage with
      | starting => cases worked; exact Attempt.start_touches number view request session
      | begun epoch => cases worked; exact .nothing rfl nofun rfl rfl
      | queued epoch =>
          cases worked
          unfold Attempt.takeTurn
          split <;> exact .nothing rfl nofun rfl rfl
      | handshake epoch => cases worked
      | settling epoch answer =>
          cases worked
          exact Attempt.settle_touches number request epoch answer view session
      | enabling epoch todo =>
          cases todo with
          | nil => cases worked; exact Attempt.complete_touches number request epoch view session
          | cons track todo => cases worked; exact .nothing rfl nofun rfl rfl
      | switching epoch track todo => cases worked
      | releasing result => cases worked
  | hangUp stage =>
      cases stage with
      | starting =>
          cases worked
          unfold HangUp.start
          split <;> exact .hangsUp nofun rfl rfl
      | releasing => cases worked
  | toggle track stage =>
      cases stage with
      | starting =>
          cases worked
          unfold Toggle.start
          split <;> exact .nothing rfl nofun rfl rfl
      | switching epoch identity target => cases worked
      | settling epoch identity target =>
          cases worked
          unfold Toggle.settle
          split
          · rename_i current
            subst current
            exact .refreshes track identity target rfl rfl rfl rfl
          · exact .nothing rfl nofun rfl rfl
  | listener epoch stage =>
      cases stage with
      | waiting => cases worked
      | holding event? =>
          cases worked
          exact Listening.handle_touches number epoch event? view session
      | releasing => cases worked

end MeetingRoom.Session
