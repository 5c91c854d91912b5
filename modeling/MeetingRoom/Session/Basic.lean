import MeetingRoom.Journal
import MeetingRoom.Media.Device
import MeetingRoom.Media.Event
import MeetingRoom.Session.Request
import MeetingRoom.Stage

/-!
The session: whether there is a call, who is in it, and which of several attempts at it is the
present one. Every session that begins and every one that ends gets a new epoch, so that work that
finishes late can tell that its session is over. All of this is what happens between two waits:
nothing here waits for the transport, which is seen only through a view.
-/

namespace MeetingRoom

inductive Session.Call where
  | disconnected
  | connecting
  | connected
  | reconnecting
  deriving DecidableEq

structure Session (Remote : Type) where
  call : Session.Call
  roster : Roster Remote
  /-- The own identity, once known, stays until the session ends. -/
  identity : Option String
  epoch : Nat
  voice : Option Voice
  fault : Option Session.Fault
  /-- The attempt whose listener takes the events of this session. -/
  listener : Option Nat
  deriving DecidableEq

namespace Session

/-- What is shown of the connection. A fault stays visible until the next attempt or hang-up. -/
inductive Status where
  | idle
  | connecting
  | connected
  | reconnecting
  | failed (fault : Fault)
  deriving DecidableEq

def Call.word : Call → String
  | disconnected => "Disconnected"
  | connecting => "Connecting"
  | connected => "Connected"
  | reconnecting => "Reconnecting"

variable {Remote : Type}

/-- A section of work on the session: the session it leaves, its result and what it reports. -/
structure After (Remote Result : Type) where
  session : Session Remote
  result : Result
  journal : List Journal.Entry := []

def new : Session Remote :=
  { call := .disconnected
    roster := Roster.empty
    identity := none
    epoch := 0
    voice := none
    fault := none
    listener := none }

def status (session : Session Remote) : Status :=
  match session.call with
  | .connecting => .connecting
  | .connected => .connected
  | .reconnecting => .reconnecting
  | .disconnected =>
      match session.fault with
      | some fault => .failed fault
      | none => .idle

def participants (session : Session Remote) : List (Participant Remote) := session.roster.toList

/-- The participants with the host behind them, as they are listed. -/
def shown (session : Session Remote) : List (Participant Remote) :=
  Voice.overlay session.roster session.voice

def stage (session : Session Remote) (screen : Screen) (capacity : Nat) : Stage Remote :=
  Stage.compose session.participants session.voice screen capacity

/-- No text and a blank one both take the host away. -/
def setVoice (session : Session Remote) (text? : Option String) : Session Remote :=
  { session with voice := text?.bind Voice.ofText? }

/-- Ends what there is of a session. The voice belongs to the meeting and stays. -/
def close (session : Session Remote) : Session Remote :=
  { session with
    call := .disconnected
    roster := Roster.empty
    identity := none
    epoch := session.epoch + 1
    listener := none }

/-- The own participant goes by the identity that the session started with. -/
def ownSnapshot (session : Session Remote) (own : Media.Snapshot Remote) :
    Media.Snapshot Remote :=
  { own with identity := session.identity.getD own.identity }

/-- Builds the roster anew from what the transport knows, the own participant first. -/
def resync (view : Media.View Remote) (session : Session Remote) : Session Remote :=
  let own := (view.own.map session.ownSnapshot).toList.map (Participant.ofSnapshot .own)
  let remotes := view.remotes.map (Participant.ofSnapshot .remote)
  { session with
    roster := Roster.ofList (own ++ remotes)
    identity := session.identity.or (view.own.map (·.identity)) }

/-- What a resync reports: an own participant that is missing or goes by another identity. -/
def resyncJournal (view : Media.View Remote) (session : Session Remote) : List Journal.Entry :=
  match view.own, session.identity with
  | none, _ => [Journal.warn "Transport has no local participant to sync"]
  | some own, some identity =>
      if identity = own.identity then []
      else
        [Journal.warn ("Transport reports local identity " ++ own.identity ++
          " but session started as " ++ identity)]
  | some _, none => []

/-- What the transport knows of an identity. The own one is looked up as the own participant. -/
def truth? (view : Media.View Remote) (session : Session Remote) (identity : String) :
    Option (Media.Snapshot Remote) :=
  if session.identity = some identity then view.own else view.find? identity

end Session

end MeetingRoom
