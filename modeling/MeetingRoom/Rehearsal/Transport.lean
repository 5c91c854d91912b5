import MeetingRoom.Room

/-!
A transport that follows a script instead of a network. The script says who is there, which requests
fail, and where a request has to wait at a gate until somebody opens it. Requests take effect when
they are answered, not when they are made: that is what makes late answers possible.
-/

namespace MeetingRoom.Rehearsal

inductive GateKind where
  | connect
  | device
  | disconnect
  deriving DecidableEq

/-- A gate is taken by the request that waits at it. It may be opened before. -/
structure Gate where
  kind : GateKind
  taken : Bool
  opened : Bool
  deriving DecidableEq

/-- The events of one handshake, named by the call that made it. -/
structure Stream (Remote : Type) where
  call : Nat
  events : List (Media.Event Remote)
  closed : Bool

/-- A request under way. A fault that was scripted beforehand comes back without any wait. -/
structure Pending where
  task : Room.TaskId
  ask : Session.Ask
  fault : Option Media.Fault
  gate : Option Nat
  hangs : Bool
  deadline : Option Nat

def Pending.isOverdue (pending : Pending) (now : Nat) : Bool :=
  match pending.deadline with
  | some deadline => deadline ≤ now
  | none => false

structure Transport (Remote : Type) where
  connected : Bool
  own : Option (Media.Snapshot Remote)
  remotes : List (Media.Snapshot Remote)
  /-- The stream that new events go to. -/
  channel : Option Nat
  streams : List (Stream Remote)
  connectFaults : List Media.Fault
  audioFault : Option Media.Fault
  videoFault : Option Media.Fault
  hangs : Bool
  stuck : Bool
  gates : List Gate
  pending : List Pending

namespace Transport

variable {Remote : Type}

def new (own : Option (Media.Snapshot Remote)) (remotes : List (Media.Snapshot Remote)) :
    Transport Remote :=
  { connected := false
    own := own
    remotes := remotes
    channel := none
    streams := []
    connectFaults := []
    audioFault := none
    videoFault := none
    hangs := false
    stuck := false
    gates := []
    pending := [] }

/-- Nobody is to be seen without a connection. -/
def view (transport : Transport Remote) : Media.View Remote :=
  if transport.connected then { own := transport.own, remotes := transport.remotes }
  else Media.View.empty

def deviceFault (transport : Transport Remote) : Media.Track → Option Media.Fault
  | .audio => transport.audioFault
  | .video => transport.videoFault

def setDeviceFault (transport : Transport Remote) (track : Media.Track)
    (fault? : Option Media.Fault) : Transport Remote :=
  match track with
  | .audio => { transport with audioFault := fault? }
  | .video => { transport with videoFault := fault? }

def arm (transport : Transport Remote) (kind : GateKind) : Transport Remote :=
  { transport with gates := transport.gates ++ [{ kind := kind, taken := false, opened := false }] }

/-- Opens the oldest gate of its kind that is still closed, taken or not. -/
def openGate? (transport : Transport Remote) (kind : GateKind) : Option (Transport Remote) :=
  (transport.gates.findIdx? fun gate => gate.kind = kind && !gate.opened).map fun index =>
    { transport with
      gates := transport.gates.modify index fun gate => { gate with opened := true } }

/-- The oldest gate of its kind that is not taken yet, open or not. -/
def freeGate? (transport : Transport Remote) (kind : GateKind) : Option Nat :=
  transport.gates.findIdx? fun gate => gate.kind = kind && !gate.taken

def takeGate (transport : Transport Remote) (gate? : Option Nat) : Transport Remote :=
  match gate? with
  | some index =>
      { transport with
        gates := transport.gates.modify index fun gate => { gate with taken := true } }
  | none => transport

def isOpen (transport : Transport Remote) : Option Nat → Bool
  | some index => (transport.gates[index]?.map (·.opened)).getD true
  | none => true

/-- Takes a request in. A fault of a device, or a missing connection, leaves the gates alone. -/
def receive (transport : Transport Remote) (task : Room.TaskId) (ask : Session.Ask)
    (deadline : Nat) : Transport Remote :=
  let wait (kind : GateKind) (hangs : Bool) (deadline? : Option Nat) :=
    let gate? := transport.freeGate? kind
    let taken := transport.takeGate gate?
    { taken with
      pending := taken.pending ++
        [{ task := task, ask := ask, fault := none, gate := gate?, hangs := hangs,
           deadline := deadline? }] }
  let refuse (fault : Media.Fault) :=
    { transport with
      pending := transport.pending ++
        [{ task := task, ask := ask, fault := some fault, gate := none, hangs := false,
           deadline := none }] }
  match ask with
  | .connect _ _ => wait .connect transport.hangs (some deadline)
  | .enable track _ =>
      match transport.deviceFault track with
      | some fault => refuse fault
      | none => if transport.connected then wait .device false none else refuse .notConnected
  | .disconnect => wait .disconnect false none

def closeStream (transport : Transport Remote) (call : Nat) : Transport Remote :=
  { transport with
    streams := transport.streams.map fun stream =>
      if stream.call = call then { stream with closed := true } else stream }

/-- Closes the stream that new events go to, if there is one. -/
def closeChannel (transport : Transport Remote) : Transport Remote :=
  match transport.channel with
  | some call => { transport.closeStream call with channel := none }
  | none => transport

/-- A handshake that is not made to fail opens a new stream in place of the old one. -/
def shake (transport : Transport Remote) (call : Nat) : Session.Answer × Transport Remote :=
  match transport.connectFaults with
  | fault :: rest => (.failed fault, { transport with connectFaults := rest })
  | [] =>
      let closed := transport.closeChannel
      (.done,
        { closed with
          connected := true
          channel := some call
          streams := closed.streams ++ [{ call := call, events := [], closed := false }] })

def enable (transport : Transport Remote) (track : Media.Track) (enabled : Bool) :
    Transport Remote :=
  if transport.stuck then transport
  else { transport with own := transport.own.map (·.setEnabled track enabled) }

def disconnect (transport : Transport Remote) : Transport Remote :=
  let closed := transport.closeChannel
  { closed with
    connected := false
    own := closed.own.map fun own => { own with audio := false, video := false } }

def carryOut (transport : Transport Remote) (pending : Pending) :
    Session.Answer × Transport Remote :=
  match pending.ask with
  | .connect _ _ => transport.shake pending.task.number
  | .enable track enabled => (.done, transport.enable track enabled)
  | .disconnect => (.done, transport.disconnect)

/-- The answer to a request, if it is due. Whoever is let through wins over the deadline. -/
def answer? (transport : Transport Remote) (now : Nat) (task : Room.TaskId) :
    Option (Session.Answer × Transport Remote) := do
  let pending ← transport.pending.find? (·.task = task)
  let rest := { transport with pending := transport.pending.filter (·.task ≠ task) }
  match pending.fault with
  | some fault => return (.failed fault, rest)
  | none =>
      if transport.isOpen pending.gate && !pending.hangs then return rest.carryOut pending
      else if pending.isOverdue now then return (.timedOut, rest)
      else none

/-- What a listener hears next: an event, or that the stream has come to its end. -/
def hear? (transport : Transport Remote) (call : Nat) :
    Option (Option (Media.Event Remote) × Transport Remote) := do
  let stream ← transport.streams.find? (·.call = call)
  match stream.events with
  | event :: rest =>
      return (some event,
        { transport with
          streams := transport.streams.map fun other =>
            if other.call = call then { other with events := rest } else other })
  | [] => if stream.closed then return (none, transport) else none

/-- What became of an event that was sent. -/
inductive Receipt where
  | sent
  | closed
  | noChannel
  deriving DecidableEq

/-- An event can be sent only while somebody holds the stream to hear it. -/
def send (transport : Transport Remote) (isHeld : Nat → Bool) (event : Media.Event Remote) :
    Receipt × Transport Remote :=
  match transport.channel with
  | none => (.noChannel, transport)
  | some call =>
      if isHeld call then
        (.sent,
          { transport with
            streams := transport.streams.map fun stream =>
              if stream.call = call then { stream with events := stream.events ++ [event] }
              else stream })
      else (.closed, transport)

end Transport

end MeetingRoom.Rehearsal
