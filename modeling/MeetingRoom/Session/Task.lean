import MeetingRoom.Session.Event

/-!
Tasks: the work that is under way on a session. A task alternates between sections of work on the
session, which are done at once, and waits, for its turn, for an answer of the transport or for an
event. While it waits the session is free for the others, so every section that follows a wait
compares epochs before it touches anything.
-/

namespace MeetingRoom.Session

/-- A request of a task to the transport. -/
inductive Ask where
  | connect (url token : String)
  | enable (track : Media.Track) (enabled : Bool)
  | disconnect
  deriving DecidableEq

/-- How the transport answers. Only an attempt gives up waiting. -/
inductive Answer where
  | done
  | failed (fault : Media.Fault)
  | timedOut
  deriving DecidableEq

/-- What an attempt to join came to. -/
inductive Outcome where
  | connected
  | alreadyActive
  | superseded
  deriving DecidableEq

/-- Where an attempt to join is. -/
inductive Attempt where
  | starting
  | begun (epoch : Nat)
  | queued (epoch : Nat)
  | handshake (epoch : Nat)
  | settling (epoch : Nat) (answer : Except Fault Unit)
  | enabling (epoch : Nat) (todo : List Media.Track)
  | switching (epoch : Nat) (track : Media.Track) (todo : List Media.Track)
  | releasing (result : Except Fault Outcome)

inductive HangUp where
  | starting
  | releasing

/-- Where a toggle is. It remembers whose device it switches, and to what. -/
inductive Toggle where
  | starting
  | switching (epoch : Nat) (identity : String) (target : Bool)
  | settling (epoch : Nat) (identity : String) (target : Bool)

/-- Where a listener is. It may hold an event, or the end of the events. -/
inductive Listening (Remote : Type) where
  | waiting
  | holding (event? : Option (Media.Event Remote))
  | releasing

inductive Task (Remote : Type) where
  | attempt (request : Request) (stage : Attempt)
  | hangUp (stage : HangUp)
  | toggle (track : Media.Track) (stage : Toggle)
  | listener (epoch : Nat) (stage : Listening Remote)

inductive Result where
  | attempt (result : Except Fault Outcome)
  | hangUp
  | toggle (result : Except Media.DeviceFault Bool)
  | listener

/-- How a task goes on. -/
inductive Next (Remote : Type) where
  | waits (task : Task Remote)
  | ends (result : Result)

/-- A section of work of a task. It may start the listener of its own attempt and drop another's. -/
structure Section (Remote : Type) where
  session : Session Remote
  next : Next Remote
  journal : List Journal.Entry := []
  listener : Option (Task Remote) := none
  dropped : Option Nat := none

variable {Remote : Type}

namespace Attempt

/-- An attempt that is let in gets an epoch of its own. -/
def start (request : Request) (session : Session Remote) : Section Remote :=
  if session.call = .disconnected then
    match request.complaint? with
    | some fault =>
        { session := { session with fault := some fault }
          next := .ends (.attempt (.error fault))
          journal := [Journal.error ("Refusing to connect: " ++ fault.message)] }
    | none =>
        { session :=
            { session with call := .connecting, epoch := session.epoch + 1, fault := none }
          next := .waits (.attempt request (.begun (session.epoch + 1))) }
  else
    { session := session
      next := .ends (.attempt (.ok .alreadyActive))
      journal := [Journal.info ("connect() ignored, session is " ++ session.call.word)] }

/-- With its turn, an attempt goes on only if nobody has hung up meanwhile. -/
def takeTurn (request : Request) (epoch : Nat) (session : Session Remote) : Section Remote :=
  if session.epoch = epoch then
    { session := session
      next := .waits (.attempt request (.handshake epoch))
      journal := [Journal.info ("Connecting to media session at " ++ request.url)] }
  else
    { session := session
      next := .ends (.attempt (.ok .superseded))
      journal := [Journal.info "Connect attempt cancelled before the handshake started"] }

/-- What came too late is released again, if there is anything to release. -/
def settle (request : Request) (epoch : Nat) (answer : Except Fault Unit)
    (view : Media.View Remote) (session : Session Remote) : Section Remote :=
  if session.epoch = epoch then
    match answer with
    | .ok _ =>
        { session := resync view { session with call := .connected }
          next := .waits (.attempt request (.enabling epoch request.wanted))
          journal := resyncJournal view session }
    | .error fault =>
        { session := { session with call := .disconnected, fault := some fault }
          next := .waits (.attempt request (.releasing (.error fault)))
          journal := [Journal.error ("Failed to connect to media session: " ++ fault.message)] }
  else
    { session := session
      next :=
        match answer with
        | .ok _ => .waits (.attempt request (.releasing (.ok .superseded)))
        | .error _ => .ends (.attempt (.ok .superseded))
      journal := [Journal.info "Connect attempt finished after disconnect; discarding it"] }

/-- The devices that are left are not brought up for a session that is over. -/
def enable (request : Request) (epoch : Nat) (track : Media.Track) (todo : List Media.Track)
    (session : Session Remote) : Section Remote :=
  { session := session
    next :=
      if session.epoch = epoch then .waits (.attempt request (.switching epoch track todo))
      else .waits (.attempt request (.enabling epoch [])) }

/-- The devices are as they are by now, so the roster is built anew before the listener starts. -/
def complete (number : Nat) (request : Request) (epoch : Nat) (view : Media.View Remote)
    (session : Session Remote) : Section Remote :=
  if session.epoch = epoch then
    let synced := resync view session
    { session := { synced with listener := some number }
      next := .ends (.attempt (.ok .connected))
      journal :=
        resyncJournal view session ++
          [Journal.info ("Connected to media session with " ++
            Text.decimal synced.roster.size ++ " participant(s)")]
      listener := some (.listener epoch .waiting) }
  else
    { session := session
      next := .waits (.attempt request (.releasing (.ok .superseded)))
      journal :=
        [Journal.info "Session ended while enabling local devices; releasing them"] }

end Attempt

/-- Hanging up ends whatever there is; the transport is released if there was something. -/
def HangUp.start (session : Session Remote) : Section Remote :=
  let closed := { session.close with fault := none }
  if session.call = .disconnected then
    { session := closed, next := .ends .hangUp, dropped := session.listener }
  else
    { session := closed
      next := .waits (.hangUp .releasing)
      journal := [Journal.info "Disconnecting from media session"]
      dropped := session.listener }

namespace Toggle

/-- The present state of a device, by the transport, else by the roster. -/
def current (track : Media.Track) (identity : String) (view : Media.View Remote)
    (session : Session Remote) : Bool :=
  ((view.own.map (·.enabled track)).or
    ((session.roster.get? identity).map (·.enabled track))).getD false

def start (track : Media.Track) (view : Media.View Remote) (session : Session Remote) :
    Section Remote :=
  match session.call, session.identity with
  | .connected, some identity =>
      { session := session
        next :=
          .waits (.toggle track
            (.switching session.epoch identity (!current track identity view session))) }
  | _, _ => { session := session, next := .ends (.toggle (.error .notConnected)) }

/-- The result is what the roster shows then, if the session is still the same. -/
def settle (track : Media.Track) (epoch : Nat) (identity : String) (target : Bool)
    (view : Media.View Remote) (session : Session Remote) : Section Remote :=
  if session.epoch = epoch then
    let refreshed := (session.refreshMedia view identity).session
    { session := refreshed
      next :=
        .ends (.toggle (.ok
          (((refreshed.roster.get? identity).map (·.enabled track)).getD target))) }
  else { session := session, next := .ends (.toggle (.ok target)) }

end Toggle

/-- The end of the events counts as a disconnect, and the listener itself releases the transport. -/
def Listening.handle (epoch : Nat) (event? : Option (Media.Event Remote))
    (view : Media.View Remote) (session : Session Remote) : Section Remote :=
  if session.epoch = epoch then
    let after :=
      session.apply view (event?.getD (.disconnected "transport event stream closed"))
    { session := after.session
      next :=
        if after.result = .ended ∨ event?.isNone then .waits (.listener epoch .releasing)
        else .waits (.listener epoch .waiting)
      journal := after.journal }
  else { session := session, next := .ends .listener }

namespace Task

/-- The next section of a task, if it is not waiting for an answer or an event. The number is that
of the call that the task belongs to. -/
def section? (number : Nat) (view : Media.View Remote) (session : Session Remote) :
    Task Remote → Option (Section Remote)
  | attempt request .starting => some (Attempt.start request session)
  | attempt request (.begun epoch) =>
      some { session := session, next := .waits (.attempt request (.queued epoch)) }
  | attempt request (.queued epoch) => some (Attempt.takeTurn request epoch session)
  | attempt request (.settling epoch answer) =>
      some (Attempt.settle request epoch answer view session)
  | attempt request (.enabling epoch (track :: todo)) =>
      some (Attempt.enable request epoch track todo session)
  | attempt request (.enabling epoch []) =>
      some (Attempt.complete number request epoch view session)
  | hangUp .starting => some (HangUp.start session)
  | toggle track .starting => some (Toggle.start track view session)
  | toggle track (.settling epoch identity target) =>
      some (Toggle.settle track epoch identity target view session)
  | listener epoch (.holding event?) => some (Listening.handle epoch event? view session)
  | _ => none

/-- What a task has to ask of the transport before it goes on. -/
def ask? : Task Remote → Option Ask
  | attempt request (.handshake _) => some (.connect request.url request.token)
  | attempt _ (.switching _ track _) => some (.enable track true)
  | attempt _ (.releasing _) => some .disconnect
  | hangUp .releasing => some .disconnect
  | toggle track (.switching _ _ target) => some (.enable track target)
  | listener _ .releasing => some .disconnect
  | _ => none

def isQueued : Task Remote → Bool
  | attempt _ (.queued _) => true
  | _ => false

/-- A device that cannot be brought up does not keep an attempt from going on. -/
def answered? (limit : Duration) :
    Task Remote → Answer → Option (Next Remote × List Journal.Entry)
  | attempt request (.handshake epoch), answer =>
      let verdict : Except Fault Unit :=
        match answer with
        | .done => .ok ()
        | .failed fault => .error (.rejected fault.message)
        | .timedOut => .error (.timeout limit)
      some (.waits (.attempt request (.settling epoch verdict)), [])
  | attempt request (.switching epoch _ todo), .done =>
      some (.waits (.attempt request (.enabling epoch todo)), [])
  | attempt request (.switching epoch track todo), .failed fault =>
      some (.waits (.attempt request (.enabling epoch todo)),
        [Journal.warn ("Could not enable local " ++ track.name ++ " on join: " ++ fault.message)])
  | attempt _ (.releasing result), .done => some (.ends (.attempt result), [])
  | hangUp .releasing, .done => some (.ends .hangUp, [])
  | toggle track (.switching epoch identity target), .done =>
      some (.waits (.toggle track (.settling epoch identity target)), [])
  | toggle track (.switching _ _ target), .failed fault =>
      some (.ends (.toggle (.error (.failed track fault.message))),
        [Journal.warn ("Failed to switch local " ++ track.name ++ " to " ++
          (if target then "true" else "false") ++ ": " ++ fault.message)])
  | listener _ .releasing, .done => some (.ends .listener, [])
  | _, _ => none

/-- A listener that waits takes the next event, or the end of the events. -/
def hearing? : Task Remote → Option (Media.Event Remote) → Option (Task Remote)
  | listener epoch .waiting, event? => some (.listener epoch (.holding event?))
  | _, _ => none

end Task

end MeetingRoom.Session
