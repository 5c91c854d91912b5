import MeetingRoom.Session.Task

/-!
The room: a session together with all tasks under way on it. Attempts take turns in the order in
which they lined up, and one turn lasts until its attempt has ended; everything else may happen in
any order. An action that is not possible gives no room, so the interleavings of a room are the
lists of actions that can be run one after the other.
-/

namespace MeetingRoom

/-- A task is a call, or the listener that the attempt of a call has started. -/
inductive Room.TaskId where
  | call (number : Nat)
  | listener (number : Nat)
  deriving DecidableEq

/-- What a caller can ask for. -/
inductive Room.Operation where
  | join (request : Session.Request)
  | hangUp
  | toggle (track : Media.Track)

inductive Room.Action (Remote : Type) where
  /-- A caller starts an operation. -/
  | call (operation : Room.Operation)
  /-- A task works on the session, with the transport as it is then. -/
  | work (task : Room.TaskId) (view : Media.View Remote)
  /-- A task makes its request to the transport. -/
  | ask (task : Room.TaskId)
  /-- The transport answers a request. -/
  | answer (task : Room.TaskId) (answer : Session.Answer)
  /-- A listener takes the next event, or learns that there are no more. -/
  | hear (number : Nat) (event? : Option (Media.Event Remote))
  /-- An event is applied without a listener. -/
  | event (view : Media.View Remote) (event : Media.Event Remote)
  | voice (text? : Option String)

structure Room (Remote : Type) where
  limit : Duration
  session : Session Remote
  /-- The number of calls so far, which is the number of the next call. -/
  calls : Nat
  tasks : List (Room.TaskId × Session.Task Remote)
  /-- Tasks whose request is with the transport. -/
  asked : List Room.TaskId
  /-- Attempts in line for their turn; the first one has it. -/
  line : List Nat
  results : List (Nat × Session.Result)
  journal : List Journal.Entry

namespace Room

variable {Remote : Type}

def new (limit : Duration) : Room Remote :=
  { limit := limit
    session := Session.new
    calls := 0
    tasks := []
    asked := []
    line := []
    results := []
    journal := [] }

def TaskId.number : TaskId → Nat
  | call number => number
  | listener number => number

def Operation.task : Operation → Session.Task Remote
  | join request => .attempt request .starting
  | hangUp => .hangUp .starting
  | toggle track => .toggle track .starting

def task? (room : Room Remote) (id : TaskId) : Option (Session.Task Remote) :=
  (room.tasks.find? (·.1 = id)).map (·.2)

def drop (room : Room Remote) (id : TaskId) : Room Remote :=
  { room with
    tasks := room.tasks.filter (·.1 ≠ id)
    asked := room.asked.filter (· ≠ id) }

def replace (room : Room Remote) (id : TaskId) (task : Session.Task Remote) : Room Remote :=
  { room with
    tasks := room.tasks.map fun (other, old) => (other, if other = id then task else old)
    asked := room.asked.filter (· ≠ id) }

def lineUp (room : Room Remote) (id : TaskId) (task : Session.Task Remote) : Room Remote :=
  if task.isQueued then { room with line := room.line ++ [id.number] } else room

/-- A call that has ended leaves the line and has its result noted. -/
def finish (room : Room Remote) (id : TaskId) (result : Session.Result) : Room Remote :=
  match id with
  | .call number =>
      { room.drop id with
        line := room.line.filter (· ≠ number)
        results := room.results ++ [(number, result)] }
  | .listener _ => room.drop id

def proceed (room : Room Remote) (id : TaskId) : Session.Next Remote → Room Remote
  | .waits task => (room.replace id task).lineUp id task
  | .ends result => room.finish id result

/-- Whether a task may work on the session now, as far as turns go. -/
def mayWork (room : Room Remote) (id : TaskId) (task : Session.Task Remote) : Bool :=
  !task.isQueued || room.line.head? = some id.number

def start (room : Room Remote) (operation : Operation) : Room Remote :=
  { room with
    calls := room.calls + 1
    tasks := room.tasks ++ [(.call room.calls, operation.task)] }

/-- Puts a section into effect: what it made of the session, how its task goes on, and then the
listener that it drops or starts. -/
def enact (room : Room Remote) (id : TaskId) (part : Session.Section Remote) : Room Remote :=
  let moved :=
    { room with session := part.session, journal := room.journal ++ part.journal }.proceed id
      part.next
  let dropped := (part.dropped.map fun number => moved.drop (.listener number)).getD moved
  { dropped with
    tasks := dropped.tasks ++ part.listener.toList.map (.listener id.number, ·) }

def work? (room : Room Remote) (id : TaskId) (view : Media.View Remote) : Option (Room Remote) := do
  let task ← room.task? id
  if room.mayWork id task then
    let part ← task.section? id.number view room.session
    return room.enact id part
  else none

def ask? (room : Room Remote) (id : TaskId) : Option (Room Remote) := do
  let task ← room.task? id
  if task.ask?.isSome && !room.asked.contains id then
    return { room with asked := room.asked ++ [id] }
  else none

def answer? (room : Room Remote) (id : TaskId) (answer : Session.Answer) :
    Option (Room Remote) := do
  let task ← room.task? id
  if room.asked.contains id then
    let (next, journal) ← task.answered? room.limit answer
    return { room with journal := room.journal ++ journal }.proceed id next
  else none

def hear? (room : Room Remote) (number : Nat) (event? : Option (Media.Event Remote)) :
    Option (Room Remote) := do
  let task ← room.task? (.listener number)
  let holding ← task.hearing? event?
  return room.replace (.listener number) holding

def event (room : Room Remote) (view : Media.View Remote) (event : Media.Event Remote) :
    Room Remote :=
  let after := room.session.apply view event
  { room with session := after.session, journal := room.journal ++ after.journal }

def step? (room : Room Remote) : Action Remote → Option (Room Remote)
  | .call operation => some (room.start operation)
  | .work id view => room.work? id view
  | .ask id => room.ask? id
  | .answer id answer => room.answer? id answer
  | .hear number event? => room.hear? number event?
  | .event view event => some (room.event view event)
  | .voice text? => some { room with session := room.session.setVoice text? }

/-- The room after a list of actions, if each of them was possible in its turn. -/
def run? (room : Room Remote) (actions : List (Action Remote)) : Option (Room Remote) :=
  actions.foldlM step? room

end Room

end MeetingRoom
