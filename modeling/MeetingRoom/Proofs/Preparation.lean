import Mathlib.Data.List.Perm.Subperm
import MeetingRoom.Proofs.Endpoints

/-!
How a client gets ready to join a meeting. It takes one step after the other, each of them a request
that could be made on its own, and the first step that fails is the last: the whole then fails as this
step does. The meeting is fetched first, then started if it is up to the user, and then joined.
-/

namespace MeetingRoom.Meeting

variable {Value Other : Type}

/-! ### Calls -/

def Served.fault? (served : Served Value) : Option Fault :=
  match served.result with
  | .ok _ => none
  | .error fault => some fault

theorem Served.fault?_eq_none_iff {served : Served Value} :
    served.fault? = none ↔ ∃ value, served.result = .ok value := by
  unfold Served.fault?
  cases served.result <;> simp

theorem Served.fault?_eq_some_iff {served : Served Value} {fault : Fault} :
    served.fault? = some fault ↔ served.result = .error fault := by
  unfold Served.fault?
  cases served.result <;> simp

namespace Call

variable {first : Call Value} {next : Value → Call Other} {service : Service}

theorem result_andThen_of_ok {value : Value} (succeeds : (first service).result = .ok value) :
    (first.andThen next service).result = (next value (first service).service).result := by
  simp only [andThen, succeeds]

theorem service_andThen_of_ok {value : Value} (succeeds : (first service).result = .ok value) :
    (first.andThen next service).service = (next value (first service).service).service := by
  simp only [andThen, succeeds]

theorem result_andThen_of_error {fault : Fault} (fails : (first service).result = .error fault) :
    (first.andThen next service).result = .error fault := by
  simp only [andThen, fails]

theorem service_andThen_of_error {fault : Fault} (fails : (first service).result = .error fault) :
    (first.andThen next service).service = (first service).service := by
  simp only [andThen, fails]

end Call

/-! ### Answers -/

def Response.Holds (response : Response) (read : Document → Option Value) (value : Value) : Prop :=
  response.isSuccess = true ∧ ∃ text document, response.text? = some text ∧
    Document.read text = some document ∧ read document = some value

theorem Response.decode_eq_ok_iff {response : Response} {read : Document → Option Value}
    {value : Value} : response.decode read = .ok value ↔ response.Holds read value := by
  have opened : ((response.text?.bind Document.read).bind read) = some value ↔
      ∃ text document, response.text? = some text ∧
        Document.read text = some document ∧ read document = some value := by
    simp only [Option.bind_eq_some_iff]
    constructor
    · rintro ⟨document, ⟨text, sent, held⟩, taken⟩
      exact ⟨text, document, sent, held, taken⟩
    · rintro ⟨text, document, sent, held, taken⟩
      exact ⟨document, ⟨text, sent, held⟩, taken⟩
  unfold decode Holds
  rw [← opened]
  cases response.isSuccess with
  | false => simp
  | true => cases (response.text?.bind Document.read).bind read <;> simp

theorem Response.accept_eq_ok_iff {response : Response} :
    response.accept = .ok () ↔ response.isSuccess = true := by
  unfold accept
  cases response.isSuccess <;> simp

namespace Service

def Accepts (service : Service) : Prop :=
  ∃ response, service.next = .answered response ∧ response.isSuccess = true

def Gives (service : Service) (read : Document → Option Value) (value : Value) : Prop :=
  ∃ response, service.next = .answered response ∧ response.Holds read value

def sent (service : Service) (messages : List Message) : Service :=
  messages.foldl (fun service message => (send message service).service) service

theorem standing_send (message : Message) (service : Service) :
    (send message service).service.standing = service.standing := by
  unfold send
  dsimp only
  split <;> rfl

theorem script_send (message : Message) (service : Service) :
    (send message service).service.script = service.script.tail := by
  unfold send
  dsimp only
  split <;> rfl

theorem received_sent {service : Service}
    (reachable : ∀ delivery ∈ service.standing :: service.script, delivery ≠ .unreachable)
    (messages : List Message) :
    (service.sent messages).received = service.received ++ messages := by
  induction messages generalizing service with
  | nil => exact (List.append_nil service.received).symm
  | cons message rest ih =>
      have reached : service.next ≠ .unreachable := by
        unfold next
        cases scripted : service.script with
        | nil => exact reachable _ List.mem_cons_self
        | cons first others =>
            rw [scripted] at reachable
            exact reachable first (List.mem_cons_of_mem _ List.mem_cons_self)
      have later : ∀ delivery ∈ (send message service).service.standing ::
          (send message service).service.script, delivery ≠ .unreachable := by
        rw [standing_send, script_send]
        exact fun delivery member => reachable delivery
          ((List.cons_sublist_cons.mpr (List.tail_sublist service.script)).subset member)
      have received := received_send message service
      rw [if_neg reached] at received
      change ((send message service).service.sent rest).received = _
      rw [ih later, received, List.append_assoc, List.singleton_append]

theorem result_send_eq_ok_iff {service : Service} {message : Message} {response : Response} :
    (send message service).result = .ok response ↔ service.next = .answered response := by
  unfold send next
  dsimp only
  split <;> simp_all

theorem result_reading_eq_ok_iff {read : Response → Except Fault Value} {message : Message}
    {service : Service} {value : Value} :
    (Client.reading read (send message) service).result = .ok value ↔
      ∃ response, service.next = .answered response ∧ read response = .ok value := by
  simp only [← @result_send_eq_ok_iff service message]
  rw [Client.reading]
  cases ended : (send message service).result with
  | error fault =>
      rw [Call.result_andThen_of_error ended]
      simp
  | ok response =>
      rw [Call.result_andThen_of_ok ended]
      cases taken : read response with
      | error fault => simp [taken, Call.fail]
      | ok value => simp [taken, Call.give]

end Service

/-! ### Steps -/

/-- The requests of a client about a meeting can be built, and these are they. -/
def Client.Builds (client : Client) (meeting : String) (request : Endpoint → Message) : Prop :=
  ∀ endpoint : Endpoint,
    client.message? endpoint.method (endpoint.path meeting) = some (request endpoint)

namespace Endpoint

def fault? (endpoint : Endpoint) (client : Client) (meeting : String) (service : Service) :
    Option Fault :=
  match endpoint with
  | fetch => (client.fetch meeting service).fault?
  | start => (client.start meeting service).fault?
  | join => (client.join meeting service).fault?

def after (endpoint : Endpoint) (client : Client) (meeting : String) (service : Service) :
    Service :=
  match endpoint with
  | fetch => (client.fetch meeting service).service
  | start => (client.start meeting service).service
  | join => (client.join meeting service).service

end Endpoint

namespace Client.Builds

variable {client : Client} {meeting : String} {request : Endpoint → Message}

theorem send_eq (builds : client.Builds meeting request) (endpoint : Endpoint) :
    client.send endpoint.method (endpoint.path meeting) = Service.send (request endpoint) := by
  rw [Client.send, builds endpoint]

/-- Every request has the method of its endpoint and the token of the client, if it has one. -/
theorem signed (builds : client.Builds meeting request) (endpoint : Endpoint) :
    (request endpoint).method = endpoint.method ∧
      (request endpoint).authorization = client.token.map ("Bearer " ++ ·) := by
  have built := builds endpoint
  unfold Client.message? at built
  obtain ⟨target, _addressed, rest⟩ := Option.bind_eq_some_iff.mp built
  split at rest
  · rw [← Option.some.inj rest]
    exact ⟨rfl, rfl⟩
  · cases rest

variable (builds : client.Builds meeting request) {service : Service}
include builds

theorem decode_eq_ok_iff (endpoint : Endpoint) {read : Document → Option Value} {value : Value} :
    (Client.reading (Response.decode read) (client.send endpoint.method (endpoint.path meeting))
      service).result = .ok value ↔ service.Gives read value := by
  rw [builds.send_eq endpoint, Service.result_reading_eq_ok_iff]
  simp only [Response.decode_eq_ok_iff]
  rfl

theorem fetch_eq_ok_iff {detail : Detail} :
    (client.fetch meeting service).result = .ok detail ↔
      service.Gives Detail.ofEnvelope? detail :=
  builds.decode_eq_ok_iff .fetch

theorem join_eq_ok_iff {pass : Pass} :
    (client.join meeting service).result = .ok pass ↔ service.Gives Pass.ofDocument? pass :=
  builds.decode_eq_ok_iff .join

theorem start_eq_ok_iff : (client.start meeting service).result = .ok () ↔ service.Accepts := by
  have sends : client.send .post ("/meetings/" ++ meeting ++ "/start") =
      Service.send (request .start) :=
    builds.send_eq .start
  rw [Client.start, sends, Service.result_reading_eq_ok_iff]
  simp only [Response.accept_eq_ok_iff]
  rfl

theorem after_eq (endpoint : Endpoint) :
    endpoint.after client meeting service = service.sent [request endpoint] := by
  have made : (client.send endpoint.method (endpoint.path meeting) service).service =
      service.sent [request endpoint] := by
    rw [builds.send_eq endpoint]
    rfl
  rw [← made]
  cases endpoint <;> exact Endpoint.service_reading _ _ service

end Client.Builds

/-! ### Courses -/

/-- Steps that are taken one after the other, each as it would be on its own, until one fails. -/
inductive Course (client : Client) (meeting : String) (request : Endpoint → Message) :
    Service → List Endpoint → Option Fault → Prop where
  | done (service : Service) : Course client meeting request service [] none
  | goesOn {service : Service} {step : Endpoint} {rest : List Endpoint} {fault? : Option Fault}
      (succeeds : step.fault? client meeting service = none)
      (later : Course client meeting request (service.sent [request step]) rest fault?) :
      Course client meeting request service (step :: rest) fault?
  | stops {service : Service} {step : Endpoint} {fault : Fault}
      (fails : step.fault? client meeting service = some fault) :
      Course client meeting request service [step] (some fault)

namespace Course

variable {client : Client} {meeting user : String} {request : Endpoint → Message}
  {service : Service} {steps : List Endpoint} {fault? : Option Fault}

theorem single (service : Service) (step : Endpoint) :
    Course client meeting request service [step] (step.fault? client meeting service) := by
  cases ended : step.fault? client meeting service with
  | none => exact .goesOn ended (.done _)
  | some fault => exact .stops ended

/-- The whole succeeds exactly if every step does. -/
theorem eq_none_iff (course : Course client meeting request service steps fault?) :
    fault? = none ↔ ∀ front step back, steps = front ++ step :: back →
      step.fault? client meeting (service.sent (front.map request)) = none := by
  induction course with
  | done service =>
      refine iff_of_true rfl ?_
      intro front step back whole
      cases front <;> cases whole
  | @goesOn service first rest fault? succeeds later ih =>
      rw [ih]
      constructor
      · intro all front step back whole
        cases front with
        | nil =>
            obtain ⟨rfl, _same⟩ := List.cons.inj whole
            exact succeeds
        | cons head others =>
            obtain ⟨rfl, same⟩ := List.cons.inj whole
            exact all others step back same
      · intro all front step back whole
        exact all (first :: front) step back (congrArg (first :: ·) whole)
  | @stops service step fault fails =>
      refine iff_of_false nofun ?_
      intro all
      have succeeds := all [] step [] rfl
      change step.fault? client meeting service = none at succeeds
      rw [fails] at succeeds
      cases succeeds

/-- A step that fails is the last, and the whole fails as it does. -/
theorem of_failed (course : Course client meeting request service steps fault?)
    {front back : List Endpoint} {step : Endpoint} {fault : Fault}
    (whole : steps = front ++ step :: back)
    (failed : step.fault? client meeting (service.sent (front.map request)) = some fault) :
    back = [] ∧ fault? = some fault := by
  induction course generalizing front with
  | done service => cases front <;> cases whole
  | @goesOn service first rest fault? succeeds later ih =>
      cases front with
      | nil =>
          obtain ⟨rfl, _same⟩ := List.cons.inj whole
          rw [List.map_nil] at failed
          exact absurd (succeeds.symm.trans failed) nofun
      | cons head others =>
          obtain ⟨rfl, same⟩ := List.cons.inj whole
          exact ih same failed
  | @stops service last fault fails =>
      cases front with
      | nil =>
          obtain ⟨rfl, rfl⟩ := List.cons.inj whole
          exact ⟨rfl, fails.symm.trans failed⟩
      | cons head others =>
          obtain ⟨_same, nothing⟩ := List.cons.inj whole
          cases others <;> cases nothing

end Course

/-! ### Getting ready -/

structure Readies (client : Client) (meeting user : String) (request : Endpoint → Message)
    (service : Service) (steps : List Endpoint) : Prop where
  course : Course client meeting request service steps (client.prepare meeting user service).fault?
  sent : (client.prepare meeting user service).service = service.sent (steps.map request)
  first : [.fetch] <+: steps
  ordered : steps.Sublist [.fetch, .start, .join]
  start_iff : .start ∈ steps ↔
    ∃ detail, (client.fetch meeting service).result = .ok detail ∧ detail.needsStart user = true
  join_iff : .join ∈ steps ↔
    (∃ detail, (client.fetch meeting service).result = .ok detail) ∧
      (.start ∈ steps → (client.start meeting (service.sent [request .fetch])).result = .ok ())
  value_iff : ∀ detail pass, (client.prepare meeting user service).result = .ok (detail, pass) ↔
    (client.fetch meeting service).result = .ok detail ∧
      ∃ front, steps = front ++ [.join] ∧
        (client.join meeting (service.sent (front.map request))).result = .ok pass

namespace Readies

variable {client : Client} {meeting user : String} {request : Endpoint → Message}
  {service : Service} {detail : Detail}

theorem result_join (service : Service) :
    (((client.join meeting).andThen fun pass => Call.give (detail, pass)) service).result =
      (client.join meeting service).result.map (detail, ·) := by
  cases ended : (client.join meeting service).result with
  | error fault =>
      rw [Call.result_andThen_of_error ended]
      rfl
  | ok pass =>
      rw [Call.result_andThen_of_ok ended]
      rfl

theorem service_join (service : Service) :
    (((client.join meeting).andThen fun pass => Call.give (detail, pass)) service).service =
      (client.join meeting service).service := by
  cases ended : (client.join meeting service).result with
  | error fault => rw [Call.service_andThen_of_error ended]
  | ok pass =>
      rw [Call.service_andThen_of_ok ended]
      rfl

theorem startIfHost_of_needed (needed : detail.needsStart user = true) (service : Service) :
    (client.startIfHost meeting user detail service).result =
        (client.start meeting service).result ∧
      (client.startIfHost meeting user detail service).service =
        (client.start meeting service).service := by
  rw [Client.startIfHost, if_pos needed]
  cases ended : (client.start meeting service).result with
  | error fault =>
      exact ⟨(Call.result_andThen_of_ok rfl).trans ended, Call.service_andThen_of_ok rfl⟩
  | ok value =>
      exact ⟨(Call.result_andThen_of_ok rfl).trans ended, Call.service_andThen_of_ok rfl⟩

theorem startIfHost_of_unneeded (unneeded : detail.needsStart user = false) (service : Service) :
    client.startIfHost meeting user detail service = Call.give () service := by
  rw [Client.startIfHost, unneeded]
  rfl

section Joined

variable {later : Service}
  (joined : (client.prepare meeting user service).result =
    (client.join meeting later).result.map (detail, ·))
include joined

theorem fault?_of_joined :
    (client.prepare meeting user service).fault? = Endpoint.join.fault? client meeting later := by
  change _ = (client.join meeting later).fault?
  rw [Served.fault?, joined, Served.fault?]
  cases (client.join meeting later).result <;> rfl

theorem result_eq_ok_iff_of_joined {other : Detail} {pass : Pass} :
    (client.prepare meeting user service).result = .ok (other, pass) ↔
      detail = other ∧ (client.join meeting later).result = .ok pass := by
  rw [joined]
  cases (client.join meeting later).result with
  | error fault => simp [Except.map]
  | ok given => simp [Except.map]

end Joined

section Fetched

variable (fetched : (client.fetch meeting service).result = .ok detail)
include fetched

theorem course_of_fetched {rest : List Endpoint} {fault? : Option Fault}
    (later : Course client meeting request (service.sent [request .fetch]) rest fault?) :
    Course client meeting request service (.fetch :: rest) fault? :=
  .goesOn (Served.fault?_eq_none_iff.mpr ⟨detail, fetched⟩) later

theorem fetched_iff {test : Detail → Prop} :
    (∃ other, (client.fetch meeting service).result = .ok other ∧ test other) ↔ test detail := by
  constructor
  · rintro ⟨other, same, holds⟩
    rw [fetched] at same
    cases same
    exact holds
  · exact fun holds => ⟨detail, fetched, holds⟩

theorem value_iff_of_joined {front : List Endpoint}
    (joined : (client.prepare meeting user service).result =
      (client.join meeting (service.sent (front.map request))).result.map (detail, ·))
    (other : Detail) (pass : Pass) :
    (client.prepare meeting user service).result = .ok (other, pass) ↔
      (client.fetch meeting service).result = .ok other ∧
        ∃ before, front ++ [.join] = before ++ [.join] ∧
          (client.join meeting (service.sent (before.map request))).result = .ok pass := by
  rw [result_eq_ok_iff_of_joined joined, fetched, Except.ok.injEq]
  constructor
  · rintro ⟨same, given⟩
    exact ⟨same, front, rfl, given⟩
  · rintro ⟨same, before, whole, given⟩
    rw [List.append_cancel_right whole]
    exact ⟨same, given⟩

end Fetched

variable (builds : client.Builds meeting request)
include builds

theorem prepare_of_stopped {fault : Fault}
    (fetched : (client.fetch meeting service).result = .ok detail)
    (stopped : (client.startIfHost meeting user detail (service.sent [request .fetch])).result =
      .error fault) :
    (client.prepare meeting user service).result = .error fault ∧
      (client.prepare meeting user service).service =
        (client.startIfHost meeting user detail (service.sent [request .fetch])).service := by
  have served : (client.fetch meeting service).service = service.sent [request .fetch] :=
    builds.after_eq .fetch
  constructor
  · rw [Client.prepare, Call.result_andThen_of_ok fetched, served,
      Call.result_andThen_of_error stopped]
  · rw [Client.prepare, Call.service_andThen_of_ok fetched, served,
      Call.service_andThen_of_error stopped]

theorem prepare_of_passed (fetched : (client.fetch meeting service).result = .ok detail)
    {later : Service}
    (passed : (client.startIfHost meeting user detail (service.sent [request .fetch])).result =
      .ok ())
    (left : (client.startIfHost meeting user detail (service.sent [request .fetch])).service =
      later) :
    (client.prepare meeting user service).result =
        (client.join meeting later).result.map (detail, ·) ∧
      (client.prepare meeting user service).service = later.sent [request .join] := by
  have served : (client.fetch meeting service).service = service.sent [request .fetch] :=
    builds.after_eq .fetch
  constructor
  · rw [Client.prepare, Call.result_andThen_of_ok fetched, served,
      Call.result_andThen_of_ok passed, left, result_join]
  · rw [Client.prepare, Call.service_andThen_of_ok fetched, served,
      Call.service_andThen_of_ok passed, left, service_join]
    exact builds.after_eq .join

/-- Nothing more is done about a meeting that cannot be fetched. -/
theorem unfetched {fault : Fault} (failed : (client.fetch meeting service).result = .error fault) :
    Readies client meeting user request service [.fetch] := by
  have result : (client.prepare meeting user service).result = .error fault :=
    Call.result_andThen_of_error failed
  have unfetched : ∀ detail, (client.fetch meeting service).result ≠ .ok detail := by
    intro detail fetched
    rw [failed] at fetched
    cases fetched
  refine ⟨?_, ?_, List.prefix_rfl, by decide, ?_, ?_, ?_⟩
  · rw [Served.fault?_eq_some_iff.mpr result]
    exact .stops (Served.fault?_eq_some_iff.mpr failed)
  · exact (Call.service_andThen_of_error failed).trans (builds.after_eq .fetch)
  · refine iff_of_false (by decide) ?_
    rintro ⟨detail, fetched, _needed⟩
    exact unfetched detail fetched
  · refine iff_of_false (by decide) ?_
    rintro ⟨⟨detail, fetched⟩, _started⟩
    exact unfetched detail fetched
  · intro detail pass
    rw [result, failed]
    exact iff_of_false nofun fun both => nomatch both.1

section Fetched

variable (fetched : (client.fetch meeting service).result = .ok detail)
include fetched

/-- A meeting that is fetched and cannot be started is not joined. -/
theorem unstarted (needed : detail.needsStart user = true) {fault : Fault}
    (failed : (client.start meeting (service.sent [request .fetch])).result = .error fault) :
    Readies client meeting user request service [.fetch, .start] := by
  obtain ⟨ends, leaves⟩ :=
    @startIfHost_of_needed client meeting user detail needed (service.sent [request .fetch])
  obtain ⟨result, left⟩ := prepare_of_stopped builds fetched (ends.trans failed)
  refine ⟨?_, ?_, ⟨[.start], rfl⟩, by decide, ?_, ?_, ?_⟩
  · rw [Served.fault?_eq_some_iff.mpr result]
    exact course_of_fetched fetched (.stops (Served.fault?_eq_some_iff.mpr failed))
  · exact (left.trans leaves).trans (builds.after_eq .start)
  · exact iff_of_true (by decide) ((fetched_iff fetched).mpr needed)
  · refine iff_of_false (by decide) ?_
    rintro ⟨_fetched, starts⟩
    rw [starts (by decide)] at failed
    cases failed
  · intro other pass
    rw [result]
    refine iff_of_false nofun ?_
    rintro ⟨_fetched, front, whole, _given⟩
    have joins : Endpoint.join ∈ front ++ [.join] := List.mem_append_right _ List.mem_cons_self
    rw [← whole] at joins
    exact absurd joins (by decide)

theorem started (needed : detail.needsStart user = true)
    (succeeds : (client.start meeting (service.sent [request .fetch])).result = .ok ()) :
    Readies client meeting user request service [.fetch, .start, .join] := by
  obtain ⟨ends, leaves⟩ :=
    @startIfHost_of_needed client meeting user detail needed (service.sent [request .fetch])
  obtain ⟨result, left⟩ := prepare_of_passed builds fetched (ends.trans succeeds)
    (leaves.trans (builds.after_eq .start))
  refine ⟨?_, left, ⟨[.start, .join], rfl⟩, by decide, ?_, ?_, ?_⟩
  · rw [fault?_of_joined result]
    exact course_of_fetched fetched
      (.goesOn (Served.fault?_eq_none_iff.mpr ⟨(), succeeds⟩) (.single _ _))
  · exact iff_of_true (by decide) ((fetched_iff fetched).mpr needed)
  · exact iff_of_true (by decide) ⟨⟨detail, fetched⟩, fun _member => succeeds⟩
  · exact @value_iff_of_joined client meeting user request service detail fetched
      [.fetch, .start] result

theorem unneeded (unneeded : detail.needsStart user = false) :
    Readies client meeting user request service [.fetch, .join] := by
  have idle :=
    @startIfHost_of_unneeded client meeting user detail unneeded (service.sent [request .fetch])
  obtain ⟨result, left⟩ := prepare_of_passed builds fetched (congrArg Served.result idle)
    (congrArg Served.service idle)
  refine ⟨?_, left, ⟨[.join], rfl⟩, by decide, ?_, ?_, ?_⟩
  · rw [fault?_of_joined result]
    exact course_of_fetched fetched (.single _ _)
  · refine iff_of_false (by decide) ?_
    rw [fetched_iff fetched, unneeded]
    decide
  · refine iff_of_true (by decide) ⟨⟨detail, fetched⟩, ?_⟩
    intro member
    exact absurd member (by decide)
  · exact @value_iff_of_joined client meeting user request service detail fetched [.fetch] result

end Fetched

theorem exists_steps (user : String) (service : Service) :
    ∃ steps, Readies client meeting user request service steps := by
  cases fetched : (client.fetch meeting service).result with
  | error fault => exact ⟨_, unfetched builds fetched⟩
  | ok detail =>
      cases needed : detail.needsStart user with
      | false => exact ⟨_, unneeded builds fetched needed⟩
      | true =>
          cases ended : (client.start meeting (service.sent [request .fetch])).result with
          | error fault => exact ⟨_, unstarted builds fetched needed ended⟩
          | ok value => exact ⟨_, started builds fetched needed ended⟩

end Readies

/-- If the requests of a client can be built, they have the methods of their endpoints and all the
same token, or none, and it gets ready in steps. The service is left as after the requests of these
steps, which it has received in this order if it can be reached. The meeting is fetched first,
started exactly if it could be read from a success and is a scheduled one of this host, and joined
exactly if it could be read and the start, if there was one, was answered with a success. The whole
succeeds exactly if each step does, and it gives a meeting and a pass exactly if this meeting can be
read from the first answer and this pass from the answer to the join, which is then the last. A step
that fails is the last, and the whole fails as it does on its own. -/
theorem preparation_stops_at_first_failure {client : Client} {meeting : String}
    {request : Endpoint → Message} (builds : client.Builds meeting request) (user : String)
    (service : Service) :
    (∀ endpoint, (request endpoint).method = endpoint.method ∧
      (request endpoint).authorization = client.token.map ("Bearer " ++ ·)) ∧
    ∃ steps : List Endpoint,
      (client.prepare meeting user service).service = service.sent (steps.map request) ∧
      ((∀ delivery ∈ service.standing :: service.script, delivery ≠ .unreachable) →
        (client.prepare meeting user service).service.received =
          service.received ++ steps.map request) ∧
      [.fetch] <+: steps ∧ steps.Sublist [.fetch, .start, .join] ∧
      (.start ∈ steps ↔ ∃ detail, service.Gives Detail.ofEnvelope? detail ∧
        detail.summary.status = "scheduled" ∧ detail.summary.hostId = some user) ∧
      (.join ∈ steps ↔ (∃ detail, service.Gives Detail.ofEnvelope? detail) ∧
        (.start ∈ steps → (service.sent [request .fetch]).Accepts)) ∧
      ((∃ value, (client.prepare meeting user service).result = .ok value) ↔
        ∀ front step back, steps = front ++ step :: back →
          step.fault? client meeting (service.sent (front.map request)) = none) ∧
      (∀ detail pass, (client.prepare meeting user service).result = .ok (detail, pass) ↔
        service.Gives Detail.ofEnvelope? detail ∧
          ∃ front, steps = front ++ [.join] ∧
            (service.sent (front.map request)).Gives Pass.ofDocument? pass) ∧
      ∀ front step back fault, steps = front ++ step :: back →
        step.fault? client meeting (service.sent (front.map request)) = some fault →
          back = [] ∧ (client.prepare meeting user service).result = .error fault := by
  obtain ⟨steps, readies⟩ := Readies.exists_steps builds user service
  refine ⟨builds.signed, steps, readies.sent, ?_, readies.first, readies.ordered, ?_, ?_, ?_,
    ?_, ?_⟩
  · intro reachable
    rw [readies.sent]
    exact Service.received_sent reachable (steps.map request)
  · rw [readies.start_iff]
    simp only [builds.fetch_eq_ok_iff, Detail.needsStart, Bool.and_eq_true, decide_eq_true_eq]
  · rw [readies.join_iff]
    simp only [builds.fetch_eq_ok_iff, builds.start_eq_ok_iff]
  · rw [← Served.fault?_eq_none_iff]
    exact readies.course.eq_none_iff
  · intro detail pass
    rw [readies.value_iff]
    simp only [builds.fetch_eq_ok_iff, builds.join_eq_ok_iff]
  · intro front step back fault whole failed
    obtain ⟨last, fails⟩ := readies.course.of_failed whole failed
    exact ⟨last, Served.fault?_eq_some_iff.mp fails⟩

def scheduledText : String :=
  "\x7b\"meeting\":\x7b\"summary\":\x7b\"id\":\"m-1\",\"title\":\"\",\"startTime\":\"\"," ++
    "\"durationMinutes\":30,\"status\":\"scheduled\",\"hostUserId\":\"host-1\"\x7d\x7d\x7d"

def scheduledDetail : Detail :=
  { summary :=
      { id := "m-1", title := "", description := "", startTime := "", minutes := 30, voice := ""
        status := "scheduled", visibility := none, hostId := some "host-1" }
    agenda := []
    guests := []
    notes := "" }

def hostClient : Client := Client.ofUrl "http://localhost:8080" (some "t")

def hostRequest (endpoint : Endpoint) : Message :=
  { method := endpoint.method
    target :=
      { segments := ["api", "v1", "meetings", "m-1"].map String.toList ++ endpoint.ending
        query := none }
    authorization := some "Bearer t" }

def passText : String :=
  "\x7b\"meetingId\":\"m-1\",\"participantId\":\"p-1\",\"webRtcToken\":\"w\"," ++
    "\"aiRealtimeToken\":\"\",\"voiceSynthToken\":\"\",\"expiresAt\":\"\"," ++
    "\"turnCredentials\":\x7b\"url\":\"\",\"username\":\"\",\"password\":\"\"\x7d\x7d"

def hostPass : Pass :=
  { meetingId := "m-1", participantId := "p-1", webRtcToken := "w", aiToken := "", voiceToken := ""
    expiresAt := "", relay := { url := "", username := "", password := "" }, mediaToken := none
    mediaUrl := none }

/-- A service that starts the meeting and then gives a last answer. -/
def hostService (last : Response) : Service :=
  { script :=
      [.answered { status := 200, body := scheduledText, truncated := false },
        .answered { status := 204, body := "", truncated := false }]
    standing := .answered last
    received := [] }

def passResponse : Response := { status := 200, body := passText, truncated := false }

def overResponse : Response :=
  { status := 410, body := " The meeting has ENDED.", truncated := false }

theorem host_joins_unless_over :
    hostClient.Builds "m-1" hostRequest ∧
      (∀ last ∈ [passResponse, overResponse],
        (hostClient.prepare "m-1" "host-1" (hostService last)).service.received =
          [hostRequest .fetch, hostRequest .start, hostRequest .join]) ∧
      (hostClient.prepare "m-1" "host-1" (hostService passResponse)).result =
        .ok (scheduledDetail, hostPass) ∧
      (hostClient.prepare "m-1" "host-1" (hostService overResponse)).result = .error .ended := by
  have builds : hostClient.Builds "m-1" hostRequest := by
    intro endpoint
    cases endpoint <;> decide +kernel
  have gives : ∀ last, (hostService last).Gives Detail.ofEnvelope? scheduledDetail := by
    have held : (Document.read scheduledText).bind Detail.ofEnvelope? = some scheduledDetail := by
      decide +kernel
    obtain ⟨document, read, taken⟩ := Option.bind_eq_some_iff.mp held
    exact fun last => ⟨_, rfl, rfl, scheduledText, document, rfl, read, taken⟩
  have distinct : [Endpoint.fetch, .start, .join].Nodup := by decide
  -- Whatever the last answer is, all three steps are taken, and it decides.
  have decided : ∀ last,
      (hostClient.prepare "m-1" "host-1" (hostService last)).service.received =
          [hostRequest .fetch, hostRequest .start, hostRequest .join] ∧
        (∀ pass, last.Holds Pass.ofDocument? pass →
          (hostClient.prepare "m-1" "host-1" (hostService last)).result =
            .ok (scheduledDetail, pass)) ∧
        ∀ fault, Endpoint.join.fault? hostClient "m-1"
            ((hostService last).sent [hostRequest .fetch, hostRequest .start]) = some fault →
          (hostClient.prepare "m-1" "host-1" (hostService last)).result = .error fault := by
    intro last
    obtain ⟨_signed, steps, _left, received, first, ordered, start_iff, join_iff, _succeeds,
      value_iff, stops⟩ := preparation_stops_at_first_failure builds "host-1" (hostService last)
    have started : .start ∈ steps := start_iff.mpr ⟨scheduledDetail, gives last, rfl, rfl⟩
    have joined : .join ∈ steps :=
      join_iff.mpr ⟨⟨scheduledDetail, gives last⟩, fun _started => ⟨_, rfl, rfl⟩⟩
    have fetched : .fetch ∈ steps := first.subset List.mem_cons_self
    have every : [.fetch, .start, .join] ⊆ steps := by
      simpa using ⟨fetched, started, joined⟩
    have all : steps = [.fetch, .start, .join] :=
      ordered.eq_of_length_le (distinct.subperm every).length_le
    refine ⟨?_, ?_, fun fault failed => (stops [.fetch, .start] .join [] fault all failed).2⟩
    · have reachable : ∀ delivery ∈ (hostService last).standing :: (hostService last).script,
          delivery ≠ .unreachable := by
        simp [hostService]
      rw [received reachable, all]
      rfl
    · intro pass holds
      exact (value_iff scheduledDetail pass).mpr
        ⟨gives last, [.fetch, .start], all, ⟨last, rfl, holds⟩⟩
  have holds : passResponse.Holds Pass.ofDocument? hostPass := by
    have held : (Document.read passText).bind Pass.ofDocument? = some hostPass := by
      decide +kernel
    obtain ⟨document, read, taken⟩ := Option.bind_eq_some_iff.mp held
    exact ⟨rfl, passText, document, rfl, read, taken⟩
  refine ⟨builds, fun last _either => (decided last).1, ?_, ?_⟩
  · exact (decided passResponse).2.1 hostPass holds
  · exact (decided overResponse).2.2 .ended (by decide +kernel)

end MeetingRoom.Meeting
