import MeetingRoom.Proofs.Supersession

/-!
A room with the transport behind it. A request takes effect at some moment between being made and
being answered, and meanwhile anything else may happen; a request that fails has no effect. Apart
from the link and the devices it is noted who brought a device up and when, what each task came to
the session for, and which sessions were ended by an event that no listener brought.
-/

namespace MeetingRoom

/-- A device that was brought up: the task as it stood, and the epoch of the session just then. -/
structure Exchange.Switch (Remote : Type) where
  task : Session.Task Remote
  epoch : Nat

inductive Exchange.Action (Remote : Type) where
  | room (action : Room.Action Remote)
  /-- The request of a task takes effect. -/
  | effect (id : Room.TaskId)

structure Exchange (Remote : Type) where
  room : Room Remote
  /-- Tasks whose request has taken effect and waits to be answered. -/
  carried : List Room.TaskId
  /-- Whether the transport holds a media session. -/
  connected : Bool
  /-- For each device that is up, the switch that brought it up last. -/
  holder : Media.Track → Option (Exchange.Switch Remote)
  /-- Tasks as they were when they began to belong to an epoch. -/
  begun : List (Session.Task Remote)
  /-- Epochs whose session was ended by an event without a listener. -/
  abandoned : List Nat

namespace Exchange

variable {Remote : Type}

def new (limit : Duration) : Exchange Remote :=
  { room := Room.new limit
    carried := []
    connected := false
    holder := fun _ => none
    begun := []
    abandoned := [] }

def permits (exchange : Exchange Remote) : Room.Action Remote → Bool
  | .answer id answer => decide (answer = .done) == exchange.carried.contains id
  | _ => true

/-- The task that began to belong to an epoch between two rooms, if one did. -/
def begins? (before after : Room Remote) (id : Room.TaskId) : Option (Session.Task Remote) :=
  if ((before.task? id).bind (·.epoch?)).isNone then
    (after.task? id).filter (·.epoch?.isSome)
  else none

/-- Whether an event ends the session without a listener that would release the transport. -/
def abandons (room : Room Remote) : Room.Action Remote → Bool
  | .event _ event => room.session.inCall && event.endsSession
  | _ => false

def act? (exchange : Exchange Remote) (action : Room.Action Remote) : Option (Exchange Remote) :=
  if exchange.permits action then
    (exchange.room.step? action).map fun room =>
      { exchange with
        room := room
        carried := exchange.carried.filter room.asked.contains
        begun := exchange.begun ++ (action.task?.bind (begins? exchange.room room)).toList
        abandoned :=
          exchange.abandoned ++
            (if abandons exchange.room action then [exchange.room.session.epoch] else []) }
  else none

/-- What a request does to the link and the devices. A teardown brings all of it down. -/
def carryOut (exchange : Exchange Remote) (task : Session.Task Remote) :
    Session.Ask → Exchange Remote
  | .connect _ _ => { exchange with connected := true }
  | .enable track enabled =>
      { exchange with
        holder := fun other =>
          if other = track then
            if enabled then some { task := task, epoch := exchange.room.session.epoch } else none
          else exchange.holder other }
  | .disconnect => { exchange with connected := false, holder := fun _ => none }

def effect? (exchange : Exchange Remote) (id : Room.TaskId) : Option (Exchange Remote) := do
  let task ← exchange.room.task? id
  let ask ← task.ask?
  if exchange.room.asked.contains id && !exchange.carried.contains id then
    return { exchange.carryOut task ask with carried := exchange.carried ++ [id] }
  else none

def step? (exchange : Exchange Remote) : Action Remote → Option (Exchange Remote)
  | .room action => exchange.act? action
  | .effect id => exchange.effect? id

def run? (exchange : Exchange Remote) (actions : List (Action Remote)) :
    Option (Exchange Remote) :=
  actions.foldlM step? exchange

def isOn (exchange : Exchange Remote) (track : Media.Track) : Bool :=
  (exchange.holder track).isSome

/-! ### Steps -/

theorem act?_eq_some_iff {exchange next : Exchange Remote} {action : Room.Action Remote} :
    exchange.act? action = some next ↔
      exchange.permits action = true ∧ ∃ room, exchange.room.step? action = some room ∧
        { exchange with
          room := room
          carried := exchange.carried.filter room.asked.contains
          begun := exchange.begun ++ (action.task?.bind (begins? exchange.room room)).toList
          abandoned :=
            exchange.abandoned ++
              (if abandons exchange.room action then [exchange.room.session.epoch] else []) } =
          next := by
  unfold act?
  cases permitted : exchange.permits action with
  | false => simp
  | true => simp

/-- What the transport notices of a step of the room. -/
structure Acts (exchange : Exchange Remote) (action : Room.Action Remote)
    (next : Exchange Remote) : Prop where
  permitted : exchange.permits action = true
  stepped : exchange.room.step? action = some next.room
  carried : next.carried = exchange.carried.filter next.room.asked.contains
  connected : next.connected = exchange.connected
  holder : next.holder = exchange.holder
  begun : next.begun =
    exchange.begun ++ (action.task?.bind (begins? exchange.room next.room)).toList
  abandoned : next.abandoned =
    exchange.abandoned ++
      (if abandons exchange.room action then [exchange.room.session.epoch] else [])

theorem acts_of_act? {exchange next : Exchange Remote} {action : Room.Action Remote}
    (acted : exchange.act? action = some next) : exchange.Acts action next := by
  obtain ⟨permitted, room, stepped, rfl⟩ := act?_eq_some_iff.mp acted
  exact ⟨permitted, stepped, rfl, rfl, rfl, rfl, rfl⟩

theorem Acts.asked {exchange next : Exchange Remote} {action : Room.Action Remote}
    (acts : exchange.Acts action next) {id : Room.TaskId} (carried : id ∈ next.carried) :
    id ∈ exchange.carried ∧ id ∈ next.room.asked := by
  rw [acts.carried] at carried
  obtain ⟨before, asked⟩ := List.mem_filter.mp carried
  exact ⟨before, List.contains_iff_mem.mp asked⟩

theorem effect?_eq_some_iff {exchange next : Exchange Remote} {id : Room.TaskId} :
    exchange.effect? id = some next ↔
      ∃ task ask, exchange.room.task? id = some task ∧ task.ask? = some ask ∧
        id ∈ exchange.room.asked ∧ id ∉ exchange.carried ∧
        { exchange.carryOut task ask with carried := exchange.carried ++ [id] } = next := by
  unfold effect?
  cases found : exchange.room.task? id with
  | none => simp
  | some task =>
      cases asks : task.ask? with
      | none => simp [asks]
      | some ask => simp [asks, and_assoc]

@[simp] theorem room_carryOut (exchange : Exchange Remote) (task : Session.Task Remote)
    (ask : Session.Ask) : (exchange.carryOut task ask).room = exchange.room := by
  cases ask <;> rfl

structure Sound (exchange : Exchange Remote) : Prop where
  coherent : exchange.room.Coherent
  asked : ∀ id, id ∈ exchange.carried → id ∈ exchange.room.asked

theorem Sound.new (limit : Duration) : (new limit : Exchange Remote).Sound := by
  refine ⟨Room.Coherent.new limit, ?_⟩
  intro id carried
  cases carried

theorem Sound.step {exchange next : Exchange Remote} {action : Action Remote}
    (sound : exchange.Sound) (stepped : exchange.step? action = some next) : next.Sound := by
  cases action with
  | room action =>
      have acts := acts_of_act? stepped
      refine ⟨sound.coherent.step acts.stepped, ?_⟩
      intro id carried
      exact (acts.asked carried).2
  | effect id =>
      obtain ⟨task, ask, found, _asks, asked, _new, rfl⟩ := effect?_eq_some_iff.mp stepped
      constructor
      · rw [room_carryOut]
        exact sound.coherent
      · intro other carried
        rw [room_carryOut]
        rcases List.mem_append.mp carried with old | new
        · exact sound.asked other old
        · rw [List.mem_singleton.mp new]
          exact asked

theorem Sound.run {limit : Duration} {actions : List (Action Remote)}
    {exchange : Exchange Remote} (ran : (Exchange.new limit).run? actions = some exchange) :
    exchange.Sound := by
  refine run_keeps ?_ (Sound.new limit) ran
  intro exchange action next sound stepped
  exact sound.step stepped

end Exchange

end MeetingRoom
