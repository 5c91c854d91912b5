import MeetingRoom.Proofs.Admission

/-!
Calls that are left alone. As long as nothing else changes the session, the way of a call is told by
the session, by where its task is and by what it sees and hears; the rest of the room has no part in
it. So a run in which such a call returns contains a passage, which is its way without the others,
and every passage can be made in a room where nobody is ahead in line. What a call does can then be
read off its sections and answers, one after the other.
-/

namespace MeetingRoom

variable {Remote : Type}

namespace Room

/-! ### Runs that leave the session to a call -/

def stepsOf (number : Nat) (actions : List (Action Remote)) : List (Action Remote) :=
  actions.filter (·.task? = some (.call number))

def request? (number : Nat) (room : Room Remote) : Action Remote → Option Session.Ask
  | .ask id => if id = .call number then (room.task? id).bind (·.ask?) else none
  | _ => none

def asksOf (number : Nat) (room : Room Remote) (actions : List (Action Remote)) :
    List Session.Ask :=
  noted step? (request? number) room actions

def LeftTo (number : Nat) : Room Remote → List (Action Remote) → Prop
  | _, [] => True
  | room, action :: rest =>
      ∀ next, room.step? action = some next →
        (action.task? = some (.call number) ∨ next.session = room.session) ∧
          LeftTo number next rest

/-- A call is made, the session is left to it, and it has returned. -/
structure Alone (room : Room Remote) (operation : Operation) (actions : List (Action Remote))
    (last : Room Remote) : Prop where
  ran : room.run? (.call operation :: actions) = some last
  leftTo : LeftTo room.calls (room.start operation) actions
  returned : last.task? (.call room.calls) = none

/-- The way of a call to its result: its steps, what it asks, and the session that it leaves. -/
structure Passage (Remote : Type) where
  steps : List (Action Remote)
  asks : List Session.Ask
  session : Session Remote
  result : Session.Result

namespace Passage

def ended (session : Session Remote) (result : Session.Result) : Passage Remote :=
  { steps := [], asks := [], session := session, result := result }

def behind (action : Action Remote) (ask? : Option Session.Ask) (passage : Passage Remote) :
    Passage Remote :=
  { passage with
    steps := action :: passage.steps
    asks := ask?.toList ++ passage.asks }

end Passage

inductive Passes (limit : Duration) (number : Nat) :
    Session Remote → Session.Next Remote → Bool → Passage Remote → Prop where
  | returns (session : Session Remote) (result : Session.Result) :
      Passes limit number session (.ends result) false (.ended session result)
  | works {session : Session Remote} {task : Session.Task Remote} {asked : Bool}
      {part : Session.Section Remote} {passage : Passage Remote} (view : Media.View Remote)
      (worked : task.section? number view session = some part)
      (rest : Passes limit number part.session part.next false passage) :
      Passes limit number session (.waits task) asked
        (passage.behind (.work (.call number) view) none)
  | asks {session : Session Remote} {task : Session.Task Remote} {ask : Session.Ask}
      {passage : Passage Remote} (speaks : task.ask? = some ask)
      (rest : Passes limit number session (.waits task) true passage) :
      Passes limit number session (.waits task) false
        (passage.behind (.ask (.call number)) (some ask))
  | hears {session : Session Remote} {task : Session.Task Remote} {next : Session.Next Remote}
      {journal : List Journal.Entry} {passage : Passage Remote} (answer : Session.Answer)
      (answered : task.answered? limit answer = some (next, journal))
      (rest : Passes limit number session next false passage) :
      Passes limit number session (.waits task) true
        (passage.behind (.answer (.call number) answer) none)

/-! ### The next step of a passage -/

section Stages

variable {limit : Duration} {number : Nat} {session : Session Remote}
  {task : Session.Task Remote} {passage : Passage Remote}

theorem passes_ends_iff {result : Session.Result} :
    Passes limit number session (.ends result) false passage ↔
      passage = .ended session result := by
  constructor
  · intro passes
    cases passes
    rfl
  · rintro rfl
    exact .returns session result

/-- A task with a section to do does it with whatever is shown then. -/
theorem passes_works_iff {part : Media.View Remote → Session.Section Remote}
    (worked : ∀ view, task.section? number view session = some (part view)) :
    Passes limit number session (.waits task) false passage ↔
      ∃ view rest, Passes limit number (part view).session (part view).next false rest ∧
        passage = rest.behind (.work (.call number) view) none := by
  constructor
  · intro passes
    cases passes with
    | works view own rest =>
        rw [worked view] at own
        cases own
        exact ⟨view, _, rest, rfl⟩
    | asks speaks rest =>
        rw [Session.Task.ask?_of_section? (worked .empty)] at speaks
        cases speaks
  · rintro ⟨view, rest, passes, rfl⟩
    exact .works view (worked view) passes

/-- A task that has something to ask does so, and goes on with the answer. -/
theorem passes_asks_iff {ask : Session.Ask} (speaks : task.ask? = some ask) :
    Passes limit number session (.waits task) false passage ↔
      ∃ answer next journal rest, task.answered? limit answer = some (next, journal) ∧
        Passes limit number session next false rest ∧
        passage = (rest.behind (.answer (.call number) answer) none).behind (.ask (.call number))
          (some ask) := by
  have idle : ∀ view part, task.section? number view session ≠ some part := by
    intro view part worked
    rw [Session.Task.ask?_of_section? worked] at speaks
    cases speaks
  constructor
  · intro passes
    cases passes with
    | works view worked rest => exact absurd worked (idle view _)
    | asks own waiting =>
        rw [speaks] at own
        cases own
        cases waiting with
        | works view worked rest => exact absurd worked (idle view _)
        | hears answer answered rest => exact ⟨answer, _, _, _, answered, rest, rfl⟩
  · rintro ⟨answer, next, journal, rest, answered, passes, rfl⟩
    exact .asks speaks (.hears answer answered passes)

end Stages

/-! ### Where a call stands in a room -/

structure Stands (room : Room Remote) (number : Nat) (next : Session.Next Remote)
    (asked : Bool) : Prop where
  task : room.task? (.call number) = next.task?
  asked : .call number ∈ room.asked ↔ asked = true
  results : ∀ result, (number, result) ∈ room.results ↔ next = .ends result

namespace Stands

variable {room next : Room Remote} {number : Nat} {task : Session.Task Remote} {asked : Bool}
  {action : Action Remote}

theorem enact (stands : room.Stands number (.waits task) asked) (part : Session.Section Remote) :
    (room.enact (.call number) part).Stands number part.next false := by
  obtain ⟨goesOn, unasked, results⟩ := call_enact stands.task part
  refine ⟨goesOn, iff_of_false unasked Bool.false_ne_true, ?_⟩
  intro result
  rw [results, stands.results]
  exact or_iff_right nofun

/-- A call whose task is gone has ended, and has one result. -/
theorem returned {standing : Session.Next Remote} (stands : room.Stands number standing asked)
    (coherent : room.Coherent) (returned : room.task? (.call number) = none) :
    ∃ result, standing = .ends result ∧ asked = false ∧
      ∀ other, (number, other) ∈ room.results ↔ other = result := by
  cases standing with
  | waits task =>
      rw [stands.task] at returned
      cases returned
  | ends result =>
      refine ⟨result, rfl, ?_, ?_⟩
      · apply Bool.eq_false_iff.mpr
        intro waits
        obtain ⟨task, found, _speaks⟩ := coherent.asked _ (stands.asked.mpr waits)
        rw [returned] at found
        cases found
      · intro other
        rw [stands.results, Session.Next.ends.injEq]
        exact eq_comm

/-- What others do makes no difference to where a call stands. -/
theorem others {standing : Session.Next Remote} (stands : room.Stands number standing asked)
    (coherent : room.Coherent) (issued : number < room.calls)
    (stepped : room.step? action = some next) (others : action.task? ≠ some (.call number)) :
    next.Stands number standing asked := by
  obtain ⟨still, requests, results⟩ := coherent.others stepped others
  refine ⟨(still issued).trans stands.task, requests.trans stands.asked, ?_⟩
  intro result
  exact (results result).trans (stands.results result)

/-- Having made its request, a call waits for the answer. -/
theorem ask (stands : room.Stands number (.waits task) false) :
    ({ room with asked := room.asked ++ [.call number] } : Room Remote).Stands number
      (.waits task) true := by
  refine ⟨stands.task, iff_of_true ?_ rfl, stands.results⟩
  exact List.mem_append_right _ (List.mem_singleton_self _)

/-- With a step of its own a call stands somewhere else, and whatever passage it makes from there,
it makes with this step before it. -/
theorem own (stands : room.Stands number (.waits task) asked)
    (stepped : room.step? action = some next) (own : action.task? = some (.call number)) :
    ∃ later waiting, next.Stands number later waiting ∧
      ∀ passage, Passes next.limit number next.session later waiting passage →
        Passes room.limit number room.session (.waits task) asked
          (passage.behind action (request? number room action)) := by
  have found : room.task? (.call number) = some task := stands.task
  have limit := limit_step stepped
  cases action with
  | work id view =>
      cases own
      obtain ⟨moving, part, present, _may, worked, rfl⟩ := work?_eq_some_iff.mp stepped
      rw [found] at present
      cases present
      refine ⟨part.next, false, stands.enact part, ?_⟩
      intro passage passes
      rw [limit, session_enact] at passes
      exact .works view worked passes
  | ask id =>
      cases own
      obtain ⟨moving, present, asks, new, rfl⟩ := ask?_eq_some_iff.mp stepped
      rw [found] at present
      cases present
      have unasked : asked = false :=
        Bool.eq_false_iff.mpr fun already => new (stands.asked.mpr already)
      subst unasked
      obtain ⟨ask, speaks⟩ := Option.isSome_iff_exists.mp asks
      have request : request? number room (.ask (.call number)) = some ask := by
        rw [request?, if_pos rfl, found]
        exact speaks
      refine ⟨.waits task, true, stands.ask, ?_⟩
      intro passage passes
      rw [request]
      exact .asks speaks passes
  | answer id answer =>
      cases own
      obtain ⟨moving, later, journal, present, waiting, answered, proceeded⟩ :=
        answer?_eq_some_iff.mp stepped
      rw [found] at present
      cases present
      have waited := stands.asked.mp waiting
      subst waited
      have enacted : room.enact (.call number)
          { session := room.session, next := later, journal := journal } = next := by
        rw [enact_of_none room _ rfl rfl]
        exact proceeded
      rw [← enacted] at limit ⊢
      refine ⟨later, false, stands.enact _, ?_⟩
      intro passage passes
      rw [limit, session_enact] at passes
      exact .hears answer answered passes
  | _ => cases own

end Stands

/-! ### From runs to passages -/

structure Makes (room : Room Remote) (number : Nat) (actions : List (Action Remote))
    (last : Room Remote) (passage : Passage Remote) : Prop where
  steps : stepsOf number actions = passage.steps
  asks : asksOf number room actions = passage.asks
  session : last.session = passage.session
  results : ∀ result, (number, result) ∈ last.results ↔ result = passage.result

section Runs

variable {room next last : Room Remote} {number : Nat} {action : Action Remote}
  {actions : List (Action Remote)}

theorem run?_cons (stepped : room.step? action = some next)
    (rested : next.run? actions = some last) : room.run? (action :: actions) = some last := by
  rw [run?, List.foldlM_cons, stepped]
  exact rested

theorem asksOf_cons (stepped : room.step? action = some next) :
    asksOf number room (action :: actions) =
      (request? number room action).toList ++ asksOf number next actions := by
  rw [asksOf, noted, stepped]
  rfl

theorem request?_of_other (others : action.task? ≠ some (.call number)) :
    request? number room action = none := by
  cases action with
  | ask id => exact if_neg fun same => others (congrArg some same)
  | _ => rfl

/-- While the session is left to a call, all that happens up to its return is a passage of it. -/
theorem Coherent.exists_passage (coherent : room.Coherent) (issued : number < room.calls)
    {standing : Session.Next Remote} {asked : Bool}
    (stands : room.Stands number standing asked) (leftTo : LeftTo number room actions)
    (ran : room.run? actions = some last) (returned : last.task? (.call number) = none) :
    ∃ passage, Passes room.limit number room.session standing asked passage ∧
      room.Makes number actions last passage := by
  induction actions generalizing room standing asked with
  | nil =>
      cases ran
      obtain ⟨result, rfl, rfl, results⟩ := stands.returned coherent returned
      exact ⟨_, .returns last.session result, rfl, rfl, rfl, results⟩
  | cons action rest ih =>
      rw [run?, List.foldlM_cons] at ran
      obtain ⟨next, stepped, rested⟩ := Option.bind_eq_some_iff.mp ran
      obtain ⟨moved, leftTo⟩ := leftTo next stepped
      have later := coherent.step stepped
      have still : number < next.calls := by
        rcases coherent.calls_step stepped with same | ⟨_operation, _call, more⟩ <;> omega
      -- A step of the call itself goes before the passage; what others do leaves alone all that the
      -- passage depends on.
      by_cases own : action.task? = some (.call number)
      · cases standing with
        | ends result =>
            obtain ⟨task, found⟩ := coherent.found_of_moved stepped own
            rw [stands.task] at found
            cases found
        | waits task =>
            obtain ⟨standing, asked, stands, extended⟩ := stands.own stepped own
            obtain ⟨passage, passes, makes⟩ := ih later still stands leftTo rested
            refine ⟨_, extended passage passes, ?_, ?_, makes.session, makes.results⟩
            · rw [stepsOf, List.filter_cons_of_pos (by simpa using own)]
              exact congrArg (action :: ·) makes.steps
            · rw [asksOf_cons stepped, makes.asks]
              rfl
      · obtain ⟨passage, passes, makes⟩ :=
          ih later still (stands.others coherent issued stepped own) leftTo rested
        rw [limit_step stepped, moved.resolve_left own] at passes
        refine ⟨passage, passes, ?_, ?_, makes.session, makes.results⟩
        · rw [stepsOf, List.filter_cons_of_neg (by simpa using own)]
          exact makes.steps
        · rw [asksOf_cons stepped, request?_of_other own]
          exact makes.asks

end Runs

/-! ### From passages to runs -/

theorem Passes.own {limit : Duration} {number : Nat} {session : Session Remote}
    {standing : Session.Next Remote} {asked : Bool} {passage : Passage Remote}
    (passes : Passes limit number session standing asked passage) :
    ∀ action ∈ passage.steps, action.task? = some (.call number) := by
  induction passes with
  | returns session result =>
      intro action member
      cases member
  | works view worked rest ih => exact List.forall_mem_cons.mpr ⟨rfl, ih⟩
  | asks speaks rest ih => exact List.forall_mem_cons.mpr ⟨rfl, ih⟩
  | hears answer answered rest ih => exact List.forall_mem_cons.mpr ⟨rfl, ih⟩

theorem leftTo_of_own {number : Nat} {actions : List (Action Remote)}
    (own : ∀ action ∈ actions, action.task? = some (.call number)) (room : Room Remote) :
    LeftTo number room actions := by
  induction actions generalizing room with
  | nil => trivial
  | cons action rest ih =>
      obtain ⟨first, others⟩ := List.forall_mem_cons.mp own
      exact fun next _stepped => ⟨Or.inl first, ih others next⟩

/-- Nobody is ahead of an attempt in line, and it is there if it waits for its turn. -/
def Unhindered (room : Room Remote) (number : Nat) (standing : Session.Next Remote) : Prop :=
  ∀ request stage, standing = .waits (.attempt request stage) →
    (∀ other ∈ room.line, other = number) ∧
      ((Session.Task.attempt request stage : Session.Task Remote).isQueued = true →
        room.line ≠ [])

section Unhindered

variable {room : Room Remote} {number : Nat} {task : Session.Task Remote}
  (unhindered : room.Unhindered number (.waits task))

include unhindered

theorem Unhindered.mayWork : room.mayWork (.call number) task = true := by
  rw [Room.mayWork]
  cases queued : task.isQueued with
  | false => rfl
  | true =>
      cases task with
      | attempt request stage =>
          obtain ⟨own, present⟩ := unhindered request stage rfl
          cases line : room.line with
          | nil => exact absurd line (present queued)
          | cons first rest =>
              rw [own first (line ▸ List.mem_cons_self)]
              simp [TaskId.number]
      | _ => cases queued

theorem Unhindered.enact {part : Session.Section Remote}
    (follows : ∀ later, part.next = .waits later →
      Session.Task.Follows room.session task later) :
    (room.enact (.call number) part).Unhindered number part.next := by
  intro request stage next
  obtain ⟨before, rfl⟩ := (follows _ next).of_attempt
  obtain ⟨own, _present⟩ := unhindered request before rfl
  rw [line_enact, line_proceed, next]
  dsimp only
  split
  · refine ⟨?_, fun _queued => List.append_ne_nil_of_right_ne_nil _ (List.cons_ne_nil _ _)⟩
    intro other member
    rcases List.mem_append.mp member with old | new
    · exact own other old
    · exact List.mem_singleton.mp new
  · rename_i unqueued
    exact ⟨own, fun queued => absurd queued unqueued⟩

end Unhindered

/-- Whatever passage a call has, it can make it in a room where nobody is ahead in line. -/
theorem Passes.run {limit : Duration} {number : Nat} {session : Session Remote}
    {standing : Session.Next Remote} {asked : Bool} {passage : Passage Remote}
    (passes : Passes limit number session standing asked passage) {room : Room Remote}
    (coherent : room.Coherent) (limited : room.limit = limit) (there : room.session = session)
    (stands : room.Stands number standing asked) (unhindered : room.Unhindered number standing) :
    ∃ last, room.run? passage.steps = some last ∧ last.task? (.call number) = none := by
  induction passes generalizing room with
  | returns session result => exact ⟨room, rfl, stands.task⟩
  | works view worked rest ih =>
      rw [← there] at worked
      have moves := coherent.moves_of_work stands.task unhindered.mayWork worked
      obtain ⟨last, rested, returned⟩ := ih (moves.coherent_enact coherent)
        ((limit_enact _ _ _).trans limited) (session_enact _ _ _) (stands.enact _)
        (unhindered.enact moves.follows)
      refine ⟨last, run?_cons ?_ rested, returned⟩
      exact work?_eq_some_iff.mpr ⟨_, _, stands.task, unhindered.mayWork, worked, rfl⟩
  | asks speaks rest ih =>
      have unasked : TaskId.call number ∉ room.asked := fun already =>
        Bool.false_ne_true (stands.asked.mp already)
      have stepped : room.step? (.ask (.call number)) =
          some { room with asked := room.asked ++ [.call number] } :=
        ask?_eq_some_iff.mpr
          ⟨_, stands.task, Option.isSome_iff_exists.mpr ⟨_, speaks⟩, unasked, rfl⟩
      obtain ⟨last, rested, returned⟩ :=
        ih (coherent.step stepped) limited there stands.ask unhindered
      exact ⟨last, run?_cons stepped rested, returned⟩
  | hears answer answered rest ih =>
      rw [← limited] at answered
      have moves := coherent.moves_of_answer stands.task answered
      obtain ⟨last, rested, returned⟩ := ih (moves.coherent_enact coherent)
        ((limit_enact _ _ _).trans limited) ((session_enact _ _ _).trans there) (stands.enact _)
        (unhindered.enact moves.follows)
      refine ⟨last, run?_cons ?_ rested, returned⟩
      refine answer?_eq_some_iff.mpr
        ⟨_, _, _, stands.task, stands.asked.mpr rfl, answered, ?_⟩
      rw [enact_of_none room _ rfl rfl]

/-! ### Calls in rooms that can be reached -/

section Reached

variable {limit : Duration} {before actions : List (Action Remote)} {room last : Room Remote}
  {operation : Operation} {passage : Passage Remote}
  (ran : (Room.new limit).run? before = some room)

include ran

theorem limit_run : room.limit = limit := by
  refine @run_keeps _ _ step? (fun reached : Room Remote => reached.limit = limit) ?_ _ _ before
    rfl ran
  intro reached action next same stepped
  exact (limit_step stepped).trans same

theorem coherent_start (operation : Operation) : (room.start operation).Coherent :=
  @Coherent.step Remote room _ (Serves.run ran).coherent (.call operation) rfl

/-- A call that is made now has asked nothing yet, and there is no result of it. -/
theorem stands_start (operation : Operation) :
    (room.start operation).Stands room.calls (.waits operation.task) false := by
  have serves := Serves.run ran
  have fresh := serves.coherent.fresh
  refine ⟨?_, ?_, ?_⟩
  · rw [task?_start, fresh, if_pos rfl]
    rfl
  · refine iff_of_false ?_ Bool.false_ne_true
    intro already
    obtain ⟨task, found, _speaks⟩ := serves.coherent.asked _ already
    rw [fresh] at found
    cases found
  · intro result
    refine iff_of_false ?_ nofun
    intro noted
    obtain ⟨served, known, _serves⟩ := serves.results room.calls result noted
    rw [serves.counted] at known
    exact absurd (List.getElem?_eq_some_iff.mp known).1 (Nat.lt_irrefl _)

theorem Alone.exists_passage (alone : room.Alone operation actions last) :
    ∃ passage, Passes limit room.calls room.session (.waits operation.task) false passage ∧
      (room.start operation).Makes room.calls actions last passage := by
  have found := (coherent_start ran operation).exists_passage (Nat.lt_succ_self room.calls)
    (stands_start ran operation)
    alone.leftTo alone.ran alone.returned
  rw [← limit_run ran]
  exact found

/-- The room in which such a call has returned can be reached, too. -/
theorem Alone.reached (alone : room.Alone operation actions last) :
    (Room.new limit).run? (before ++ .call operation :: actions) = some last := by
  rw [run?, List.foldlM_append]
  exact Option.bind_eq_some_iff.mpr ⟨room, ran, alone.ran⟩

theorem Alone.of_passes
    (passes : Passes limit room.calls room.session (.waits operation.task) false passage)
    (free : ∀ request, operation = .join request → room.line = []) :
    ∃ last, room.Alone operation passage.steps last := by
  have unhindered : (room.start operation).Unhindered room.calls (.waits operation.task) := by
    intro request stage first
    cases operation with
    | join request =>
        cases first
        change (∀ other ∈ room.line, other = room.calls) ∧ _
        rw [free request rfl]
        exact ⟨nofun, nofun⟩
    | _ => cases first
  have limited := limit_run ran
  obtain ⟨last, rested, returned⟩ := passes.run (coherent_start ran operation) limited rfl
    (stands_start ran operation) unhindered
  exact ⟨last, rested, leftTo_of_own passes.own _, returned⟩

end Reached

end Room

end MeetingRoom
