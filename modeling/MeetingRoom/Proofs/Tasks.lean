import MeetingRoom.Room

/-!
What one action does to the tasks of a room. Every action but a direct event or a new voice moves
one task and leaves the others where they are; a section may also drop the listener that the session
holds, or start one. Later modules read rooms through `task?`, `asked` and `line` only, and split an
action by the lemmas at the end.
-/

namespace MeetingRoom

variable {Remote : Type}

def Session.Next.task? : Session.Next Remote → Option (Session.Task Remote)
  | .waits task => some task
  | .ends _ => none

namespace Room

def Action.task? : Action Remote → Option TaskId
  | .work id _ => some id
  | .ask id => some id
  | .answer id _ => some id
  | .hear number _ => some (.listener number)
  | _ => none

/-! ### Looking up a task -/

private theorem find?_filter_key {Key Value : Type} [DecidableEq Key]
    (entries : List (Key × Value)) (gone key : Key) :
    (entries.filter (·.1 ≠ gone)).find? (·.1 = key) =
      if key = gone then none else entries.find? (·.1 = key) := by
  induction entries with
  | nil => split <;> rfl
  | cons entry rest ih =>
      by_cases dropped : entry.1 = gone
      · rw [List.filter_cons_of_neg (by simpa using dropped), ih]
        by_cases same : key = gone
        · rw [if_pos same, if_pos same]
        · rw [if_neg same, if_neg same, List.find?_cons_of_neg]
          intro hit
          exact same ((of_decide_eq_true hit).symm.trans dropped)
      · rw [List.filter_cons_of_pos (by simpa using dropped)]
        by_cases hit : entry.1 = key
        · have other : key ≠ gone := fun same => dropped (hit.trans same)
          rw [List.find?_cons_of_pos (by simpa using hit), if_neg other,
            List.find?_cons_of_pos (by simpa using hit)]
        · rw [List.find?_cons_of_neg (by simpa using hit), ih,
            List.find?_cons_of_neg (by simpa using hit)]

private theorem find?_map_key {Key Value : Type} [DecidableEq Key]
    (entries : List (Key × Value)) (changed key : Key) (value : Value) :
    ((entries.map fun (other, old) => (other, if other = changed then value else old)).find?
        (·.1 = key)).map (·.2) =
      if key = changed then ((entries.find? (·.1 = key)).map (·.2)).map fun _ => value
      else (entries.find? (·.1 = key)).map (·.2) := by
  induction entries with
  | nil => split <;> rfl
  | cons entry rest ih =>
      by_cases hit : entry.1 = key
      · rw [List.map_cons, List.find?_cons_of_pos (by simpa using hit),
          List.find?_cons_of_pos (by simpa using hit)]
        subst hit
        simp only [Option.map_some]
        split <;> rfl
      · rw [List.map_cons, List.find?_cons_of_neg (by simpa using hit), ih,
          List.find?_cons_of_neg (by simpa using hit)]

private theorem find?_single_key {Key Value : Type} [DecidableEq Key] (key other : Key)
    (value : Value) :
    ([(key, value)].find? (·.1 = other)).map (·.2) = if other = key then some value else none := by
  by_cases same : other = key
  · simp [same]
  · have different : ¬key = other := fun equal => same equal.symm
    simp [same, different]

@[simp] theorem task?_drop (room : Room Remote) (id other : TaskId) :
    (room.drop id).task? other = if other = id then none else room.task? other := by
  rw [task?, drop, find?_filter_key]
  split <;> rfl

@[simp] theorem task?_replace (room : Room Remote) (id other : TaskId)
    (task : Session.Task Remote) :
    (room.replace id task).task? other =
      if other = id then (room.task? other).map fun _ => task else room.task? other := by
  rw [task?, replace, find?_map_key]
  rfl

@[simp] theorem task?_lineUp (room : Room Remote) (id other : TaskId)
    (task : Session.Task Remote) : (room.lineUp id task).task? other = room.task? other := by
  unfold lineUp
  split <;> rfl

@[simp] theorem task?_finish (room : Room Remote) (id other : TaskId)
    (result : Session.Result) :
    (room.finish id result).task? other = if other = id then none else room.task? other := by
  cases id with
  | call number => exact task?_drop room (.call number) other
  | listener number => exact task?_drop room (.listener number) other

theorem task?_append (room : Room Remote) (added : List (TaskId × Session.Task Remote))
    (id : TaskId) :
    task? { room with tasks := room.tasks ++ added } id =
      (room.task? id).or ((added.find? (·.1 = id)).map (·.2)) := by
  rw [task?, List.find?_append]
  cases found : room.tasks.find? (·.1 = id) <;> simp [task?, found]

theorem task?_proceed {room : Room Remote} {id : TaskId} {task : Session.Task Remote}
    (found : room.task? id = some task) (next : Session.Next Remote) (other : TaskId) :
    (room.proceed id next).task? other = if other = id then next.task? else room.task? other := by
  cases next with
  | waits later =>
      rw [proceed, task?_lineUp, task?_replace]
      split
      · rename_i same
        rw [same, found]
        rfl
      · rfl
  | ends result => rw [proceed, task?_finish]; rfl

theorem task?_start (room : Room Remote) (operation : Operation) (id : TaskId) :
    (room.start operation).task? id =
      (room.task? id).or (if id = .call room.calls then some operation.task else none) := by
  have appended := task?_append room [(.call room.calls, operation.task)] id
  rw [find?_single_key] at appended
  exact appended

/-- A task after a new call is an old one, or that of the call. -/
theorem origin_start {room : Room Remote} {operation : Operation} {id : TaskId}
    {task : Session.Task Remote} (found : (room.start operation).task? id = some task) :
    room.task? id = some task ∨ id = .call room.calls ∧ task = operation.task := by
  rw [task?_start] at found
  rcases Option.or_eq_some_iff.mp found with old | ⟨_gone, new⟩
  · exact Or.inl old
  · split at new
    · rename_i same
      exact Or.inr ⟨same, (Option.some.inj new).symm⟩
    · cases new

theorem task?_start_of_some {room : Room Remote} {id : TaskId} {task : Session.Task Remote}
    (found : room.task? id = some task) (operation : Operation) :
    (room.start operation).task? id = some task := by
  rw [task?_start, found]
  rfl

/-- Where the tasks are after a section: its own goes on, one listener may be gone, and one may
be new unless its place is taken. -/
theorem task?_enact {room : Room Remote} {id : TaskId} {task : Session.Task Remote}
    (found : room.task? id = some task) (part : Session.Section Remote) (other : TaskId) :
    (room.enact id part).task? other =
      (if part.dropped.map TaskId.listener = some other then none
        else if other = id then part.next.task? else room.task? other).or
      (if other = .listener id.number then part.listener else none) := by
  have moved : ∀ journal, (({ room with session := part.session, journal := journal } :
      Room Remote).proceed id part.next).task? other =
        if other = id then part.next.task? else room.task? other := fun journal =>
    @task?_proceed Remote { room with session := part.session, journal := journal } id task found
      part.next other
  have added : (((part.listener.toList.map (TaskId.listener id.number, ·)).find?
      (·.1 = other)).map (·.2)) =
        if other = .listener id.number then part.listener else none := by
    cases part.listener with
    | none => simp
    | some started => exact find?_single_key (TaskId.listener id.number) other started
  rw [enact, task?_append, added]
  congr 1
  cases part.dropped with
  | none => simp [moved]
  | some number =>
      rw [Option.map_some, Option.getD_some, task?_drop, moved, Option.map_some]
      simp only [Option.some.injEq, eq_comm]

/-! ### The session, the requests and the line -/

@[simp] theorem session_proceed (room : Room Remote) (id : TaskId) (next : Session.Next Remote) :
    (room.proceed id next).session = room.session := by
  cases next with
  | waits task => rw [proceed, lineUp]; split <;> rfl
  | ends result => cases id <;> rfl

@[simp] theorem session_enact (room : Room Remote) (id : TaskId)
    (part : Session.Section Remote) : (room.enact id part).session = part.session := by
  unfold enact
  cases part.dropped <;> simp [drop]

@[simp] theorem calls_proceed (room : Room Remote) (id : TaskId) (next : Session.Next Remote) :
    (room.proceed id next).calls = room.calls := by
  cases next with
  | waits task => rw [proceed, lineUp]; split <;> rfl
  | ends result => cases id <;> rfl

@[simp] theorem calls_enact (room : Room Remote) (id : TaskId)
    (part : Session.Section Remote) : (room.enact id part).calls = room.calls := by
  unfold enact
  cases part.dropped <;> simp [drop]

@[simp] theorem limit_proceed (room : Room Remote) (id : TaskId) (next : Session.Next Remote) :
    (room.proceed id next).limit = room.limit := by
  cases next with
  | waits task => rw [proceed, lineUp]; split <;> rfl
  | ends result => cases id <;> rfl

@[simp] theorem limit_enact (room : Room Remote) (id : TaskId)
    (part : Session.Section Remote) : (room.enact id part).limit = room.limit := by
  unfold enact
  cases part.dropped <;> simp [drop]

theorem asked_proceed (room : Room Remote) (id : TaskId) (next : Session.Next Remote) :
    (room.proceed id next).asked = room.asked.filter (· ≠ id) := by
  cases next with
  | waits task => rw [proceed, lineUp]; split <;> rfl
  | ends result => cases id <;> rfl

theorem mem_asked_enact (room : Room Remote) (id : TaskId) (part : Session.Section Remote)
    (other : TaskId) :
    other ∈ (room.enact id part).asked ↔
      other ∈ room.asked ∧ other ≠ id ∧ part.dropped.map TaskId.listener ≠ some other := by
  unfold enact
  cases part.dropped with
  | none => simp [asked_proceed]
  | some number =>
      simp only [Option.map_some, Option.getD_some, drop, asked_proceed, List.mem_filter,
        decide_eq_true_eq, ne_eq, Option.some.injEq, and_assoc]
      rw [@eq_comm _ (TaskId.listener number)]

/-- Lining up happens at the end, and only a call that has ended leaves the line. -/
theorem line_proceed (room : Room Remote) (id : TaskId) (next : Session.Next Remote) :
    (room.proceed id next).line =
      match next, id with
      | .waits task, _ => if task.isQueued then room.line ++ [id.number] else room.line
      | .ends _, .call number => room.line.filter (· ≠ number)
      | .ends _, .listener _ => room.line := by
  cases next with
  | waits task =>
      change ((room.replace id task).lineUp id task).line =
        if task.isQueued then room.line ++ [id.number] else room.line
      rw [lineUp]
      split <;> rfl
  | ends result => cases id <;> rfl

theorem line_enact (room : Room Remote) (id : TaskId) (part : Session.Section Remote) :
    (room.enact id part).line = (room.proceed id part.next).line := by
  unfold enact
  cases part.dropped <;> simp [drop, line_proceed]

/-- Only a call that has ended has a result noted. -/
theorem results_proceed (room : Room Remote) (id : TaskId) (next : Session.Next Remote) :
    (room.proceed id next).results =
      match next, id with
      | .ends result, .call number => room.results ++ [(number, result)]
      | _, _ => room.results := by
  cases next with
  | waits task =>
      change ((room.replace id task).lineUp id task).results = room.results
      rw [lineUp]
      split <;> rfl
  | ends result => cases id <;> rfl

theorem results_enact (room : Room Remote) (id : TaskId) (part : Session.Section Remote) :
    (room.enact id part).results = (room.proceed id part.next).results := by
  unfold enact
  cases part.dropped <;> simp [drop, results_proceed]

/-- What becomes of a call that does a section: its place, its request and its result. -/
theorem call_enact {room : Room Remote} {number : Nat} {task : Session.Task Remote}
    (found : room.task? (.call number) = some task) (part : Session.Section Remote) :
    (room.enact (.call number) part).task? (.call number) = part.next.task? ∧
      .call number ∉ (room.enact (.call number) part).asked ∧
      ∀ result, (number, result) ∈ (room.enact (.call number) part).results ↔
        (number, result) ∈ room.results ∨ part.next = .ends result := by
  have kept : part.dropped.map TaskId.listener ≠ some (.call number) := by
    intro dropped
    obtain ⟨listener, _held, same⟩ := Option.map_eq_some_iff.mp dropped
    cases same
  refine ⟨?_, ?_, ?_⟩
  · rw [task?_enact found, if_neg kept, if_pos rfl, if_neg nofun, Option.or_none]
  · intro asked
    exact ((mem_asked_enact _ _ _ _).mp asked).2.1 rfl
  · intro result
    rw [results_enact, results_proceed]
    cases part.next with
    | waits later => simp
    | ends own => simp [eq_comm]

/-- A section without a listener, old or new, moves its own task only. -/
theorem enact_of_none (room : Room Remote) (id : TaskId) {part : Session.Section Remote}
    (listener : part.listener = none) (dropped : part.dropped = none) :
    room.enact id part =
      { room with session := part.session, journal := room.journal ++ part.journal }.proceed id
        part.next := by
  rw [enact, listener, dropped]
  simp only [Option.map_none, Option.getD_none, Option.toList_none, List.map_nil, List.append_nil]

/-- A listener that takes an event moves, and nothing else does. -/
theorem enact_hearing (room : Room Remote) (number epoch : Nat)
    (event? : Option (Media.Event Remote)) :
    room.enact (.listener number)
        { session := room.session, next := .waits (.listener epoch (.holding event?)) } =
      room.replace (.listener number) (.listener epoch (.holding event?)) := by
  rw [enact_of_none room _ rfl rfl]
  simp [proceed, lineUp, replace, Session.Task.isQueued]

/-! ### What each action asks for -/

theorem work?_eq_some_iff {room next : Room Remote} {id : TaskId} {view : Media.View Remote} :
    room.work? id view = some next ↔
      ∃ task part, room.task? id = some task ∧ room.mayWork id task = true ∧
        task.section? id.number view room.session = some part ∧ room.enact id part = next := by
  unfold work?
  cases found : room.task? id with
  | none => simp
  | some task =>
      cases may : room.mayWork id task with
      | false => simp [may]
      | true => simp [may, Option.bind_eq_some_iff]

theorem ask?_eq_some_iff {room next : Room Remote} {id : TaskId} :
    room.ask? id = some next ↔
      ∃ task, room.task? id = some task ∧ task.ask?.isSome = true ∧ id ∉ room.asked ∧
        { room with asked := room.asked ++ [id] } = next := by
  unfold ask?
  cases found : room.task? id with
  | none => simp
  | some task => simp [and_assoc]

theorem answer?_eq_some_iff {room next : Room Remote} {id : TaskId}
    {answer : Session.Answer} :
    room.answer? id answer = some next ↔
      ∃ task later journal, room.task? id = some task ∧ id ∈ room.asked ∧
        task.answered? room.limit answer = some (later, journal) ∧
        { room with journal := room.journal ++ journal }.proceed id later = next := by
  unfold answer?
  cases found : room.task? id with
  | none => simp
  | some task =>
      by_cases asked : id ∈ room.asked
      · simp [asked, Option.bind_eq_some_iff]
      · simp [asked]

theorem hear?_eq_some_iff {room next : Room Remote} {number : Nat}
    {event? : Option (Media.Event Remote)} :
    room.hear? number event? = some next ↔
      ∃ epoch, room.task? (.listener number) = some (.listener epoch .waiting) ∧
        room.replace (.listener number) (.listener epoch (.holding event?)) = next := by
  unfold hear?
  cases found : room.task? (.listener number) with
  | none => simp
  | some task =>
      cases task with
      | listener epoch stage => cases stage <;> simp [Session.Task.hearing?]
      | attempt request stage => simp [Session.Task.hearing?]
      | hangUp stage => simp [Session.Task.hearing?]
      | toggle track stage => simp [Session.Task.hearing?]

/-- What an action makes of the session: only a section of work, an event or a new voice changes it. -/
inductive Alters (room : Room Remote) : Action Remote → Session Remote → Prop where
  | call (operation : Operation) : Alters room (.call operation) room.session
  | work (id : TaskId) (view : Media.View Remote) {task : Session.Task Remote}
      {part : Session.Section Remote} (found : room.task? id = some task)
      (worked : task.section? id.number view room.session = some part) :
      Alters room (.work id view) part.session
  | ask (id : TaskId) : Alters room (.ask id) room.session
  | answer (id : TaskId) (answer : Session.Answer) : Alters room (.answer id answer) room.session
  | hear (number : Nat) (event? : Option (Media.Event Remote)) :
      Alters room (.hear number event?) room.session
  | event (view : Media.View Remote) (event : Media.Event Remote) :
      Alters room (.event view event) (room.session.apply view event).session
  | voice (text? : Option String) : Alters room (.voice text?) (room.session.setVoice text?)

theorem alters_of_step {room next : Room Remote} {action : Action Remote}
    (stepped : room.step? action = some next) : room.Alters action next.session := by
  cases action with
  | call operation => cases stepped; exact .call operation
  | work id view =>
      obtain ⟨task, part, found, _may, worked, rfl⟩ := work?_eq_some_iff.mp stepped
      rw [session_enact]
      exact .work id view found worked
  | ask id =>
      obtain ⟨task, _found, _asks, _new, rfl⟩ := ask?_eq_some_iff.mp stepped
      exact .ask id
  | answer id answer =>
      obtain ⟨task, later, journal, _found, _asked, _answered, rfl⟩ :=
        answer?_eq_some_iff.mp stepped
      rw [session_proceed]
      exact .answer id answer
  | hear number event? =>
      obtain ⟨epoch, _found, rfl⟩ := hear?_eq_some_iff.mp stepped
      exact .hear number event?
  | event view event => cases stepped; exact .event view event
  | voice text? => cases stepped; exact .voice text?

theorem limit_step {room next : Room Remote} {action : Action Remote}
    (stepped : room.step? action = some next) : next.limit = room.limit := by
  cases action with
  | work id view =>
      obtain ⟨_task, part, _found, _may, _worked, rfl⟩ := work?_eq_some_iff.mp stepped
      exact limit_enact room id part
  | ask id =>
      obtain ⟨_task, _found, _asks, _new, rfl⟩ := ask?_eq_some_iff.mp stepped
      rfl
  | answer id answer =>
      obtain ⟨_task, later, journal, _found, _asked, _answered, rfl⟩ :=
        answer?_eq_some_iff.mp stepped
      exact limit_proceed { room with journal := room.journal ++ journal } id later
  | hear number event? =>
      obtain ⟨_epoch, _found, rfl⟩ := hear?_eq_some_iff.mp stepped
      rfl
  | _ => cases stepped; rfl

end Room

end MeetingRoom
