import MeetingRoom.Proofs.Presentation
import MeetingRoom.Proofs.Turns

/-!
Which requests get through to the transport. A request is judged once, before anything is done for
it, and by what is left of its address when it is trimmed; the transport is given the address as it
is. So everything that an attempt asks of the transport is asked for a request that was found in
order, and one that was not comes to nothing but the fault that is shown. Calls are numbered in the
order of a run, and each of them serves the operation with its number.
-/

namespace MeetingRoom

variable {Remote : Type}

/-- A run keeps what each of its steps keeps of the state and of the actions so far. -/
theorem run_keeps_past {State Action : Type} {step? : State → Action → Option State}
    {invariant : List Action → State → Prop}
    (keeps : ∀ past state action next, invariant past state → step? state action = some next →
      invariant (past ++ [action]) next)
    {first last : State} {past actions : List Action} (holds : invariant past first)
    (ran : actions.foldlM step? first = some last) : invariant (past ++ actions) last := by
  induction actions generalizing past first with
  | nil =>
      cases ran
      rw [List.append_nil]
      exact holds
  | cons action rest ih =>
      rw [List.foldlM_cons] at ran
      obtain ⟨next, stepped, rested⟩ := Option.bind_eq_some_iff.mp ran
      have whole := ih (keeps past first action next holds stepped) rested
      rw [List.append_assoc] at whole
      exact whole

private theorem getElem?_append_of_some {Item : Type} {items : List Item} {number : Nat}
    {item : Item} (known : items[number]? = some item) (more : List Item) :
    (items ++ more)[number]? = some item :=
  (List.getElem?_append_left (List.getElem?_eq_some_iff.mp known).1).trans known

namespace Session

/-! ### Requests -/

namespace Request

/-- A scheme does not begin with a blank. -/
theorem hasScheme_front {url : String} (schemed : hasScheme url = true) :
    url.toList.head?.any Text.isBlank = false := by
  obtain ⟨scheme, known, starts⟩ := List.any_eq_true.mp schemed
  obtain ⟨rest, whole⟩ := List.isPrefixOf_iff_prefix.mp starts
  rw [← whole]
  simp only [schemes, List.mem_cons, List.not_mem_nil, or_false] at known
  rcases known with rfl | rfl | rfl | rfl <;> rfl

/-- An address with a scheme behind blanks has none itself; blanks at its end do not matter. -/
theorem hasScheme_iff_front {url : String} (schemed : hasScheme (Text.trim url) = true) :
    hasScheme url = true ↔ url.toList.head?.any Text.isBlank = false := by
  refine ⟨hasScheme_front, ?_⟩
  intro front
  have trimmed : (Text.trim url).toList <+: url.toList := by
    rw [Text.toList_trim, Text.dropWhile_of_front front]
    exact List.rdropWhile_prefix Text.isBlank url.toList
  obtain ⟨scheme, known, starts⟩ := List.any_eq_true.mp schemed
  refine List.any_eq_true.mpr ⟨scheme, known, ?_⟩
  exact List.isPrefixOf_iff_prefix.mpr ((List.isPrefixOf_iff_prefix.mp starts).trans trimmed)

theorem complaint?_eq_none_iff {request : Request} :
    request.complaint? = none ↔
      Text.allBlank request.token = false ∧ hasScheme (Text.trim request.url) = true := by
  unfold complaint?
  cases tokenless : Text.allBlank request.token with
  | true => simp
  | false =>
      cases nowhere : Text.allBlank request.url with
      | true =>
          rw [Text.trim_eq_empty_iff.mpr nowhere]
          simp [hasScheme, schemes]
      | false =>
          cases schemed : hasScheme (Text.trim request.url) <;> simp

/-- What an attempt for a request may come to: it is refused for what is wrong with the request, and
goes beyond the first look at it only if nothing is. -/
def Yields (request : Request) : Except Fault Outcome → Prop
  | .ok .alreadyActive => True
  | .ok _ => request.complaint? = none
  | .error (.invalidCredentials complaint) =>
      request.complaint? = some (.invalidCredentials complaint)
  | .error _ => request.complaint? = none

theorem yields_of_complaint? {request : Request} {fault : Fault}
    (refused : request.complaint? = some fault) : request.Yields (.error fault) := by
  have judged := refused
  unfold complaint? at judged
  split at judged
  · cases judged
    exact refused
  · split at judged
    · cases judged
      exact refused
    · split at judged
      · cases judged
      · cases judged
        exact refused

end Request

/-! ### What a task serves -/

def Attempt.Admitted (request : Request) : Attempt → Prop
  | .starting => True
  | .settling _ (.error fault) => request.complaint? = none ∧ request.Yields (.error fault)
  | .releasing result => request.complaint? = none ∧ request.Yields result
  | _ => request.complaint? = none

theorem Attempt.Admitted.valid {request : Request} {stage : Attempt}
    (admitted : stage.Admitted request) (started : stage ≠ .starting) :
    request.complaint? = none := by
  cases stage with
  | starting => exact absurd rfl started
  | settling epoch answer =>
      cases answer with
      | ok done => exact admitted
      | error fault => exact admitted.1
  | releasing result => exact admitted.1
  | _ => exact admitted

def Task.Serves (operation : Room.Operation) : Task Remote → Prop
  | .attempt request stage => operation = .join request ∧ stage.Admitted request
  | _ => True

def Result.Serves (operation : Room.Operation) : Result → Prop
  | .attempt result => ∃ request, operation = .join request ∧ request.Yields result
  | _ => True

def Next.Serves (operation : Room.Operation) : Next Remote → Prop
  | .waits task => task.Serves operation
  | .ends result => result.Serves operation

variable {operation : Room.Operation} {task : Task Remote}

private theorem Attempt.start_serves (request : Request) (session : Session Remote) :
    (start request session).next.Serves (.join request) := by
  unfold start
  split
  · split
    · rename_i fault refused
      exact ⟨request, rfl, Request.yields_of_complaint? refused⟩
    · rename_i valid
      exact ⟨rfl, valid⟩
  · exact ⟨request, rfl, trivial⟩

private theorem Attempt.settle_serves {request : Request} {epoch : Nat}
    {answer : Except Fault Unit} (admitted : (settling epoch answer).Admitted request)
    (view : Media.View Remote) (session : Session Remote) :
    (settle request epoch answer view session).next.Serves (.join request) := by
  have valid := admitted.valid nofun
  unfold settle
  cases answer with
  | ok done =>
      split
      · exact ⟨rfl, valid⟩
      · exact ⟨rfl, valid, valid⟩
  | error fault =>
      split
      · exact ⟨rfl, admitted⟩
      · exact ⟨request, rfl, valid⟩

theorem Task.serves_of_section {number : Nat} {view : Media.View Remote}
    {session : Session Remote} {part : Section Remote} (serves : task.Serves operation)
    (worked : task.section? number view session = some part) : part.next.Serves operation := by
  cases Task.works_of_section worked with
  | starts request =>
      rw [serves.1]
      exact Attempt.start_serves request session
  | linesUp request epoch => exact serves
  | takesTurn request epoch =>
      unfold Attempt.takeTurn
      split
      · exact serves
      · exact ⟨request, serves⟩
  | settles request epoch answer =>
      rw [serves.1]
      exact Attempt.settle_serves serves.2 view session
  | enables request epoch track todo =>
      unfold Attempt.enable
      dsimp only
      split <;> exact serves
  | completes request epoch =>
      unfold Attempt.complete
      split
      · exact ⟨request, serves⟩
      · exact ⟨serves.1, serves.2, serves.2⟩
  | hangsUp =>
      unfold HangUp.start
      split <;> exact trivial
  | startsToggle track =>
      unfold Toggle.start
      split <;> exact trivial
  | settlesToggle track epoch identity target =>
      unfold Toggle.settle
      split <;> exact trivial
  | handles epoch event? =>
      unfold Listening.handle
      split
      · dsimp only
        split <;> exact trivial
      · exact trivial

/-- What the transport answers is no fault of the request. -/
theorem Task.serves_of_answer {limit : Duration} {answer : Answer} {next : Next Remote}
    {journal : List Journal.Entry} (serves : task.Serves operation)
    (answered : task.answered? limit answer = some (next, journal)) : next.Serves operation := by
  cases task with
  | attempt request stage =>
      cases stage with
      | handshake epoch =>
          cases answered
          cases answer with
          | done => exact serves
          | failed fault => exact ⟨serves.1, serves.2, serves.2⟩
          | timedOut => exact ⟨serves.1, serves.2, serves.2⟩
      | switching epoch track todo =>
          cases answer with
          | done => cases answered; exact serves
          | failed fault => cases answered; exact serves
          | timedOut => cases answered
      | releasing result =>
          cases answer with
          | done => cases answered; exact ⟨request, serves.1, serves.2.2⟩
          | failed fault => cases answered
          | timedOut => cases answered
      | _ => cases answered
  | hangUp stage =>
      cases stage <;> cases answer <;> cases answered
      exact trivial
  | toggle track stage => cases stage <;> cases answer <;> cases answered <;> exact trivial
  | listener epoch stage =>
      cases stage <;> cases answer <;> cases answered
      exact trivial

/-- Whoever asks for something has a request in order, and asks for a handshake in its words. -/
theorem Task.Serves.of_speaks? {ask : Ask} (serves : task.Serves operation)
    (speaks : task.speaks? = some ask) :
    ∃ request, operation = .join request ∧ request.complaint? = none ∧
      ∀ url token, ask = .connect url token → url = request.url ∧ token = request.token := by
  cases task with
  | attempt request stage =>
      refine ⟨request, serves.1, serves.2.valid ?_, ?_⟩
      · rintro rfl
        cases speaks
      · rintro url token rfl
        cases stage <;> cases speaks
        exact ⟨rfl, rfl⟩
  | hangUp stage => cases speaks
  | toggle track stage => cases speaks
  | listener epoch stage => cases speaks

end Session

/-! ### Operations by their numbers -/

namespace Room

def Action.operation? : Action Remote → Option Operation
  | .call operation => some operation
  | _ => none

def operations (actions : List (Action Remote)) : List Operation :=
  actions.filterMap Action.operation?

theorem operations_append (past : List (Action Remote)) (action : Action Remote) :
    operations (past ++ [action]) = operations past ++ action.operation?.toList := by
  rw [operations, List.filterMap_append]
  congr 1

structure Serves (operations : List Operation) (room : Room Remote) : Prop where
  coherent : room.Coherent
  counted : room.calls = operations.length
  tasks : ∀ number task, room.task? (.call number) = some task →
    ∃ operation, operations[number]? = some operation ∧ task.Serves operation
  results : ∀ number result, (number, result) ∈ room.results →
    ∃ operation, operations[number]? = some operation ∧ result.Serves operation

theorem Serves.new (limit : Duration) : (new limit : Room Remote).Serves [] := by
  refine ⟨.new limit, rfl, ?_, ?_⟩
  · intro number task found
    cases found
  · intro number result noted
    cases noted

namespace Serves

variable {operations : List Operation} {room next : Room Remote} {action : Action Remote}
  {number : Nat} (serves : room.Serves operations) (stepped : room.step? action = some next)

include serves stepped

/-- A call that acts makes its request, or goes on as what it serves lets it. -/
private theorem next_of_moved (moved : action.task? = some (.call number)) :
    (next.task? (.call number) = room.task? (.call number) ∧ next.results = room.results) ∨
      ∃ operation task part, operations[number]? = some operation ∧
        room.Moves (.call number) task part ∧ room.enact (.call number) part = next ∧
          part.next.Serves operation := by
  have coherent := serves.coherent
  cases action with
  | ask id =>
      cases moved
      obtain ⟨_task, _found, _asks, _unasked, rfl⟩ := ask?_eq_some_iff.mp stepped
      exact Or.inl ⟨rfl, rfl⟩
  | work id view =>
      cases moved
      obtain ⟨task, part, found, may, worked, enacted⟩ := work?_eq_some_iff.mp stepped
      obtain ⟨operation, known, served⟩ := serves.tasks number task found
      exact Or.inr ⟨operation, task, part, known, coherent.moves_of_work found may worked, enacted,
        Session.Task.serves_of_section served worked⟩
  | answer id answer =>
      cases moved
      obtain ⟨task, later, journal, found, asked, answered, proceeded⟩ :=
        answer?_eq_some_iff.mp stepped
      obtain ⟨operation, known, served⟩ := serves.tasks number task found
      refine Or.inr ⟨operation, task, _, known, coherent.moves_of_answer found answered, ?_,
        Session.Task.serves_of_answer served answered⟩
      rw [enact_of_none room _ rfl rfl]
      exact proceeded
  | hear listener event? => cases moved
  | call operation => cases moved
  | event view event => cases moved
  | voice text? => cases moved

private theorem tasks_step {task : Session.Task Remote}
    (found : next.task? (.call number) = some task) :
    ∃ operation, (operations ++ action.operation?.toList)[number]? = some operation ∧
      task.Serves operation := by
  by_cases moved : action.task? = some (.call number)
  · rcases serves.next_of_moved stepped moved with ⟨same, _results⟩ |
        ⟨operation, moving, part, known, moves, rfl, served⟩
    · obtain ⟨operation, known, served⟩ := serves.tasks number task (same ▸ found)
      exact ⟨operation, getElem?_append_of_some known _, served⟩
    · rw [moves.call_enact.1] at found
      refine ⟨operation, getElem?_append_of_some known _, ?_⟩
      cases goesOn : part.next with
      | waits later =>
          rw [goesOn] at found served
          cases found
          exact served
      | ends result =>
          rw [goesOn] at found
          cases found
  · by_cases issued : number < room.calls
    · rw [(serves.coherent.others stepped moved).1 issued] at found
      obtain ⟨operation, known, served⟩ := serves.tasks number task found
      exact ⟨operation, getElem?_append_of_some known _, served⟩
    · rcases serves.coherent.calls_step stepped with same | ⟨operation, rfl, _more⟩
      · exact absurd (same ▸ ((serves.coherent.step stepped).calls number task found).1) issued
      · rw [← Option.some.inj stepped] at found
        rcases origin_start found with old | ⟨last, rfl⟩
        · exact absurd (serves.coherent.calls number task old).1 issued
        · cases last
          refine ⟨operation, ?_, ?_⟩
          · rw [serves.counted, List.getElem?_append_right (Nat.le_refl _), Nat.sub_self]
            rfl
          · cases operation with
            | join request => exact ⟨rfl, trivial⟩
            | hangUp => exact trivial
            | toggle track => exact trivial

private theorem results_step {result : Session.Result} (noted : (number, result) ∈ next.results) :
    ∃ operation, (operations ++ action.operation?.toList)[number]? = some operation ∧
      result.Serves operation := by
  have known : ∃ operation, operations[number]? = some operation ∧ result.Serves operation := by
    by_cases moved : action.task? = some (.call number)
    · rcases serves.next_of_moved stepped moved with ⟨_same, results⟩ |
          ⟨operation, moving, part, known, moves, rfl, served⟩
      · exact serves.results number result (results ▸ noted)
      · rcases moves.call_enact.2.2 result noted with old | ends
        · exact serves.results number result old
        · rw [ends] at served
          exact ⟨operation, known, served⟩
    · exact serves.results number result
        (((serves.coherent.others stepped moved).2.2 result).mp noted)
  obtain ⟨operation, known, served⟩ := known
  exact ⟨operation, getElem?_append_of_some known _, served⟩

theorem step : next.Serves (operations ++ action.operation?.toList) := by
  refine ⟨serves.coherent.step stepped, ?_, ?_, ?_⟩
  · rcases serves.coherent.calls_step stepped with same | ⟨operation, rfl, more⟩
    · cases called : action with
      | call operation =>
          subst called
          rw [← Option.some.inj stepped] at same
          exact absurd same (Nat.succ_ne_self _)
      | _ => rw [same, serves.counted]; simp [Action.operation?]
    · rw [more, serves.counted, List.length_append]
      rfl
  · intro number task found
    exact serves.tasks_step stepped found
  · intro number result noted
    exact serves.results_step stepped noted

end Serves

theorem Serves.run {limit : Duration} {actions : List (Action Remote)} {room : Room Remote}
    (ran : (Room.new limit).run? actions = some room) : room.Serves (operations actions) := by
  refine @run_keeps_past _ _ step? (fun past reached => reached.Serves (operations past)) ?_
    _ _ [] actions (.new limit) ran
  intro past reached action next serves stepped
  rw [operations_append]
  exact serves.step stepped

end Room

namespace Chronicle

variable {chronicle next : Chronicle Remote} {action : Room.Action Remote}

structure Serves (operations : List Room.Operation) (chronicle : Chronicle Remote) : Prop where
  truthful : chronicle.Truthful
  room : chronicle.room.Serves operations
  log : ∀ number signal, (number, signal) ∈ chronicle.log →
    ∃ request, operations[number]? = some (.join request) ∧ request.complaint? = none ∧
      ∀ url token, signal = .asks (.connect url token) → url = request.url ∧ token = request.token

theorem Serves.step {operations : List Room.Operation} (serves : chronicle.Serves operations)
    (stepped : chronicle.step? action = some next) :
    next.Serves (operations ++ action.operation?.toList) := by
  obtain ⟨acted, logged⟩ := step?_eq_some_iff.mp stepped
  refine ⟨serves.truthful.step stepped, serves.room.step acted, ?_⟩
  intro number signal said
  have known : ∃ request, operations[number]? = some (.join request) ∧
      request.complaint? = none ∧ ∀ url token, signal = .asks (.connect url token) →
        url = request.url ∧ token = request.token := by
    rw [logged] at said
    rcases List.mem_append.mp said with old | new
    · exact serves.log number signal old
    · obtain ⟨task, ask, found, speaks, kind⟩ := signal?_cases (Option.mem_toList.mp new)
      obtain ⟨operation, known, served⟩ := serves.room.tasks number task found
      obtain ⟨request, rfl, valid, words⟩ := served.of_speaks? speaks
      refine ⟨request, known, valid, ?_⟩
      rcases kind with ⟨_asks, rfl⟩ | ⟨answer, _answers, rfl⟩
      · rintro url token ⟨⟩
        exact words url token rfl
      · rintro url token ⟨⟩
  obtain ⟨request, known, valid⟩ := known
  exact ⟨request, getElem?_append_of_some known _, valid⟩

theorem Serves.run {limit : Duration} {actions : List (Room.Action Remote)}
    (ran : (Chronicle.new limit).run? actions = some chronicle) :
    chronicle.Serves (Room.operations actions) := by
  refine @run_keeps_past _ _ step? (fun past reached => reached.Serves (Room.operations past)) ?_
    _ _ [] actions ⟨.new limit, .new limit, nofun⟩ ran
  intro past reached action later serves stepped
  rw [Room.operations_append]
  exact serves.step stepped

/-! ### What the transport and the session get to see -/

theorem Serves.dealings_of_complaint {operations : List Room.Operation}
    (serves : chronicle.Serves operations) {number : Nat} {request : Session.Request}
    (known : operations[number]? = some (.join request)) (refused : request.complaint? ≠ none) :
    chronicle.dealings number = [] := by
  by_cases spoken : chronicle.dealings number = []
  · exact spoken
  · obtain ⟨signal, said⟩ := dealings_ne_nil_iff.mp spoken
    obtain ⟨asked, same, valid, _words⟩ := serves.log number signal said
    rw [known] at same
    cases same
    exact absurd valid refused

/-- The first section of an attempt, and what it makes of the session and of the results. -/
private theorem start_of_work {number : Nat} {request : Session.Request}
    {view : Media.View Remote}
    (found : chronicle.room.task? (.call number) = some (.attempt request .starting))
    (stepped : chronicle.step? (.work (.call number) view) = some next) :
    next.room.session = (Session.Attempt.start request chronicle.room.session).session ∧
      ∀ result, (Session.Attempt.start request chronicle.room.session).next = .ends result →
        (number, result) ∈ next.room.results := by
  obtain ⟨task, part, same, _may, worked, enacted⟩ :=
    Room.work?_eq_some_iff.mp (step?_eq_some_iff.mp stepped).1
  rw [found] at same
  cases same
  cases worked
  rw [← enacted, Room.session_enact]
  refine ⟨rfl, ?_⟩
  intro result ends
  rw [Room.results_enact, ends, Room.results_proceed]
  exact List.mem_append_right _ (List.mem_singleton_self _)

/-- Whatever is asked of the transport in a handshake has a token that is not blank and an address
that has one of the four schemes when it is trimmed, and so has the scheme itself exactly if it does
not begin with a blank. A request that is not in order is never heard of at the transport, and neither
is one that was refused or came while there was a session; it shows its fault in a session that is
idle and leaves any other as it is. -/
theorem requests_judged_before_transport {limit : Duration} {actions : List (Room.Action Remote)}
    (ran : (Chronicle.new limit).run? actions = some chronicle) :
    (∀ number url token, (number, .asks (.connect url token)) ∈ chronicle.log →
      Text.allBlank token = false ∧ Session.Request.hasScheme (Text.trim url) = true ∧
        (Session.Request.hasScheme url = true ↔ url.toList.head?.any Text.isBlank = false)) ∧
    (∀ number request, (Room.operations actions)[number]? = some (.join request) →
      request.complaint? ≠ none → chronicle.dealings number = []) ∧
    (∀ number complaint,
      (number, .attempt (.error (.invalidCredentials complaint))) ∈ chronicle.room.results →
        chronicle.dealings number = []) ∧
    (∀ number, (number, .attempt (.ok .alreadyActive)) ∈ chronicle.room.results →
      chronicle.dealings number = []) ∧
    ∀ number request view next,
      chronicle.room.task? (.call number) = some (.attempt request .starting) →
        chronicle.step? (.work (.call number) view) = some next →
          (chronicle.room.session.call ≠ .disconnected →
            next.room.session = chronicle.room.session ∧
              (number, .attempt (.ok .alreadyActive)) ∈ next.room.results) ∧
          ∀ fault, chronicle.room.session.call = .disconnected → request.complaint? = some fault →
            next.room.session = { chronicle.room.session with fault := some fault } ∧
              (number, .attempt (.error fault)) ∈ next.room.results := by
  have serves := Serves.run ran
  refine ⟨?_, ?_, ?_, ?_, ?_⟩
  · intro number url token said
    obtain ⟨request, _known, valid, words⟩ := serves.log number _ said
    obtain ⟨rfl, rfl⟩ := words url token rfl
    obtain ⟨filled, schemed⟩ := Session.Request.complaint?_eq_none_iff.mp valid
    exact ⟨filled, schemed, Session.Request.hasScheme_iff_front schemed⟩
  · intro number request known refused
    exact serves.dealings_of_complaint known refused
  · intro number complaint noted
    obtain ⟨operation, known, request, rfl, refused⟩ := serves.room.results number _ noted
    refine serves.dealings_of_complaint known ?_
    rw [show request.complaint? = some (.invalidCredentials complaint) from refused]
    nofun
  · intro number noted
    exact (serves.truthful.concluded number _ noted).2.2
  · intro number request view next found stepped
    obtain ⟨session, results⟩ := start_of_work found stepped
    rw [session]
    constructor
    · intro active
      have started : Session.Attempt.start request chronicle.room.session = _ := if_neg active
      rw [started] at results ⊢
      exact ⟨rfl, results _ rfl⟩
    · intro fault idle refused
      have started : Session.Attempt.start request chronicle.room.session = _ := if_pos idle
      rw [started, refused] at results ⊢
      exact ⟨rfl, results _ rfl⟩

def asking (url token : String) : Session.Request :=
  { url := url, token := token, audio := false, video := false }

/-- An attempt with a blank for a token, one with a blank behind its address, which comes to its
handshake, and a third one meanwhile. -/
def threeRequests : List (Room.Action Unit) :=
  [.call (.join (asking "wss://media" "\u3000")), .work (.call 0) .empty,
    .call (.join (asking "wss://media\u00A0" "token")), .work (.call 1) .empty,
    .work (.call 1) .empty, .work (.call 1) .empty, .ask (.call 1),
    .call (.join (asking "wss://media" "\u3000"))]

theorem blank_token_goes_unheard :
    ∃ chronicle next, (Chronicle.new (.ofSeconds 15 0)).run? threeRequests = some chronicle ∧
      chronicle.log = [(1, .asks (.connect "wss://media\u00A0" "token"))] ∧
      Session.Request.hasScheme "wss://media\u00A0" = true ∧ chronicle.dealings 0 = [] ∧
      chronicle.step? (.work (.call 2) .empty) = some next ∧
      next.room.session = chronicle.room.session := by
  obtain ⟨asked, refused, _results, _active, starts⟩ :=
    @requests_judged_before_transport Unit _ (.ofSeconds 15 0) threeRequests rfl
  refine ⟨_, _, rfl, rfl, ?_, ?_, rfl, ?_⟩
  · exact (asked 1 _ _ List.mem_cons_self).2.2.mpr (by decide)
  · exact refused 0 _ rfl (by decide)
  · exact ((starts 2 _ .empty _ rfl rfl).1 nofun).1

/-- An address is given to the transport as it is, with the blank in front of it. -/
theorem padded_address_reaches_transport :
    ∃ chronicle, (Chronicle.new (.ofSeconds 15 0) : Chronicle Unit).run?
        [.call (.join (asking " wss://media" "token")), .work (.call 0) .empty,
          .work (.call 0) .empty, .work (.call 0) .empty, .ask (.call 0)] = some chronicle ∧
      (0, .asks (.connect " wss://media" "token")) ∈ chronicle.log ∧
      Session.Request.hasScheme " wss://media" = false := by
  exact ⟨_, rfl, List.mem_cons_self, by decide⟩

end Chronicle

end MeetingRoom
