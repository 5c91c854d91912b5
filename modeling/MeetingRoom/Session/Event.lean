import MeetingRoom.Session.Basic

/-!
Events from the transport. Without a call an event does nothing. Flags, names and pictures are read
anew from the view whenever an event names a participant, so it does not matter how often or in
which order such events come.
-/

namespace MeetingRoom.Session

/-- What an event came to. -/
inductive Effect where
  | applied
  | ignored
  | ended
  deriving DecidableEq

variable {Remote : Type}

def inCall (session : Session Remote) : Bool :=
  session.call = .connected || session.call = .reconnecting

def ignore (session : Session Remote) : After Remote Effect := { session := session, result := .ignored }

def join (session : Session Remote) (snapshot : Media.Snapshot Remote) : After Remote Effect :=
  match session.roster.add? (Participant.ofSnapshot .remote snapshot) with
  | some roster =>
      { session := { session with roster := roster }
        result := .applied
        journal := [Journal.info ("Participant connected: " ++ snapshot.identity)] }
  | none => session.ignore

/-- The own participant does not leave its own session. -/
def leave (session : Session Remote) (identity : String) : After Remote Effect :=
  if session.identity = some identity then
    { session := session
      result := .ignored
      journal := [Journal.warn "Ignoring disconnect event for the local participant"] }
  else if session.roster.contains identity then
    { session := { session with roster := session.roster.remove identity }
      result := .applied
      journal := [Journal.info ("Participant disconnected: " ++ identity)] }
  else session.ignore

def refreshMedia (view : Media.View Remote) (session : Session Remote) (identity : String) :
    After Remote Effect :=
  match session.roster.contains identity, session.truth? view identity with
  | true, some snapshot =>
      { session := { session with roster := session.roster.refreshMedia identity snapshot }
        result := .applied }
  | _, _ => session.ignore

def refreshMetadata (view : Media.View Remote) (session : Session Remote) (identity : String) :
    After Remote Effect :=
  match session.roster.contains identity, session.truth? view identity with
  | true, some snapshot =>
      { session := { session with roster := session.roster.refreshMetadata identity snapshot }
        result := .applied }
  | _, _ => session.ignore

/-- The roster is kept while the transport reconnects, since it may come back as it was. -/
def suspend (session : Session Remote) : After Remote Effect :=
  { session := { session with call := .reconnecting }
    result := .applied
    journal := [Journal.info "Reconnecting; keeping last known roster"] }

def resume (view : Media.View Remote) (session : Session Remote) : After Remote Effect :=
  { session := resync view { session with call := .connected }
    result := .applied
    journal :=
      Journal.info "Reconnected; resyncing roster from transport" :: resyncJournal view session }

def lose (session : Session Remote) (reason : String) : After Remote Effect :=
  { session := { session.close with fault := some (.lost reason) }
    result := .ended
    journal := [Journal.warn ("Media session disconnected: " ++ reason)] }

def apply (view : Media.View Remote) (session : Session Remote) (event : Media.Event Remote) :
    After Remote Effect :=
  if session.inCall then
    match event with
    | .joined snapshot => session.join snapshot
    | .left identity => session.leave identity
    | .track _ identity _ => session.refreshMedia view identity
    | .metadata identity => session.refreshMetadata view identity
    | .reconnecting => session.suspend
    | .reconnected => session.resume view
    | .disconnected reason => session.lose reason
  else session.ignore

end MeetingRoom.Session
