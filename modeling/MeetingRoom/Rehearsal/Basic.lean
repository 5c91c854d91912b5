import MeetingRoom.Rehearsal.Transport

/-!
Rehearsals: a room over a scripted transport, with a clock that moves only when it is told to. After
every cue the tasks run, one after the other and each as far as it gets, until none of them can go
on; whoever becomes able to go on lines up behind the others. A rehearsal only chooses among the
actions of its room: it cannot do anything that the room could not do by itself.
-/

namespace MeetingRoom

structure Rehearsal (Remote : Type) where
  room : Room Remote
  transport : Rehearsal.Transport Remote
  /-- The time in nanoseconds. -/
  now : Nat
  /-- Tasks that are able to go on, the next one first. -/
  queue : List Room.TaskId
  /-- The requests to the transport, oldest first. -/
  asks : List Session.Ask

namespace Rehearsal

variable {Remote : Type}

def start (limit : Duration) (own : Option (Media.Snapshot Remote))
    (remotes : List (Media.Snapshot Remote)) : Rehearsal Remote :=
  { room := Room.new limit
    transport := Transport.new own remotes
    now := 0
    queue := []
    asks := [] }

def session (rehearsal : Rehearsal Remote) : Session Remote := rehearsal.room.session

def act? (rehearsal : Rehearsal Remote) (action : Room.Action Remote) :
    Option (Rehearsal Remote) :=
  (rehearsal.room.step? action).map fun room => { rehearsal with room := room }

/-- Works on the session if the task has something to do there. -/
def work? (rehearsal : Rehearsal Remote) (id : Room.TaskId) : Option (Rehearsal Remote) :=
  rehearsal.act? (.work id rehearsal.transport.view)

/-- Makes the request of a task. -/
def ask? (rehearsal : Rehearsal Remote) (id : Room.TaskId) : Option (Rehearsal Remote) := do
  let task ← rehearsal.room.task? id
  let ask ← task.ask?
  let asked ← rehearsal.act? (.ask id)
  return { asked with
    transport := asked.transport.receive id ask (asked.now + asked.room.limit.nanos)
    asks := asked.asks ++ [ask] }

def answer? (rehearsal : Rehearsal Remote) (id : Room.TaskId) : Option (Rehearsal Remote) := do
  let (answer, transport) ← rehearsal.transport.answer? rehearsal.now id
  let answered ← rehearsal.act? (.answer id answer)
  return { answered with transport := transport }

def hear? (rehearsal : Rehearsal Remote) : Room.TaskId → Option (Rehearsal Remote)
  | .call _ => none
  | .listener number => do
      let (event?, transport) ← rehearsal.transport.hear? number
      let heard ← rehearsal.act? (.hear number event?)
      return { heard with transport := transport }

/-- One move of a task, if it is able to go on. -/
def move? (rehearsal : Rehearsal Remote) (id : Room.TaskId) : Option (Rehearsal Remote) :=
  (rehearsal.work? id).or ((rehearsal.ask? id).or ((rehearsal.answer? id).or (rehearsal.hear? id)))

def isListener : Room.TaskId → Bool
  | .listener _ => true
  | .call _ => false

/-- Tasks that have become able to go on line up, listeners first. -/
def wake (rehearsal : Rehearsal Remote) : Rehearsal Remote :=
  let able := (rehearsal.room.tasks.map (·.1)).filter fun id =>
    !rehearsal.queue.contains id && (rehearsal.move? id).isSome
  { rehearsal with
    queue := rehearsal.queue ++ (able.filter isListener ++ able.filter (!isListener ·)) }

def runQueue : Nat → Rehearsal Remote → Rehearsal Remote
  | 0, rehearsal => rehearsal
  | fuel + 1, rehearsal =>
      match rehearsal.queue with
      | [] => rehearsal
      | id :: rest =>
          match rehearsal.move? id with
          | some moved => runQueue fuel moved.wake
          | none => runQueue fuel { rehearsal with queue := rest }

/-- No call makes more than twenty moves, and neither does a listener apart from its events, of which
each takes two. A task leaves the queue only between moves. -/
def fuel (rehearsal : Rehearsal Remote) : Nat :=
  80 * (rehearsal.room.tasks.length + 1) +
    4 * (rehearsal.transport.streams.flatMap (·.events)).length

def settle (rehearsal : Rehearsal Remote) : Rehearsal Remote :=
  let woken := rehearsal.wake
  runQueue woken.fuel woken

/-- A stream is held by the call that opened it, and then by the listener of that call. -/
def isHeld (rehearsal : Rehearsal Remote) (call : Nat) : Bool :=
  rehearsal.room.tasks.any fun (id, _) => id.number == call

def send (rehearsal : Rehearsal Remote) (event : Media.Event Remote) :
    Transport.Receipt × Rehearsal Remote :=
  let (receipt, transport) := rehearsal.transport.send rehearsal.isHeld event
  (receipt, { rehearsal with transport := transport })

def sendAll (rehearsal : Rehearsal Remote) :
    List (Media.Event Remote) → List Transport.Receipt × Rehearsal Remote
  | [] => ([], rehearsal)
  | event :: rest =>
      let (receipt, sent) := rehearsal.send event
      let (receipts, done) := sent.sendAll rest
      (receipt :: receipts, done)

/-- Calls that have not ended, in order. -/
def openCalls (rehearsal : Rehearsal Remote) : List Nat :=
  rehearsal.room.tasks.filterMap fun (id, _) =>
    match id with
    | .call number => some number
    | .listener _ => none

/-- Everything noted so far is read, and only what comes later will be noted. -/
def turnPage (rehearsal : Rehearsal Remote) : Rehearsal Remote :=
  { rehearsal with
    room := { rehearsal.room with results := [], journal := [] }
    asks := [] }

end Rehearsal

end MeetingRoom
