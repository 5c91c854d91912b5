import MeetingRoom.Proofs.Orderly
import MeetingRoom.Proofs.Passages

/-!
An attempt that is left alone does what it was asked for, and nothing else. Its handshake comes
first; if it is refused, the transport is released and the fault is shown. Otherwise the devices that
are wanted are brought up one after the other, and whether one of them fails makes no difference: the
roster is taken from what the transport shows at last, while the own identity is the one that it
showed right after the handshake.
-/

namespace MeetingRoom

variable {Remote : Type}

def Session.Answer.ofFault? : Option Media.Fault → Session.Answer
  | none => .done
  | some fault => .failed fault

def Session.Answer.refusal : Option Media.Fault → Session.Answer
  | some fault => .failed fault
  | none => .timedOut

def Session.Fault.ofRefusal (limit : Duration) : Option Media.Fault → Session.Fault
  | some fault => .rejected fault.message
  | none => .timeout limit

def Session.admitted (session : Session Remote) : Session Remote :=
  { session with call := .connecting, epoch := session.epoch + 1, fault := none }

namespace Room

/-- What an attempt is shown until it knows how its handshake went. -/
structure Opening (Remote : Type) where
  begins : Media.View Remote
  linesUp : Media.View Remote
  turns : Media.View Remote
  settles : Media.View Remote

def Opening.steps (number : Nat) (opening : Opening Remote) (answer : Session.Answer) :
    List (Action Remote) :=
  [.work (.call number) opening.begins, .work (.call number) opening.linesUp,
    .work (.call number) opening.turns, .ask (.call number), .answer (.call number) answer,
    .work (.call number) opening.settles]

structure Switching (Remote : Type) where
  track : Media.Track
  shown : Media.View Remote
  fault? : Option Media.Fault

def Switching.steps (number : Nat) (switching : Switching Remote) : List (Action Remote) :=
  [.work (.call number) switching.shown, .ask (.call number),
    .answer (.call number) (.ofFault? switching.fault?)]

inductive Course (Remote : Type) (request : Session.Request) where
  | refused (opening : Opening Remote) (reason? : Option Media.Fault)
  | accepted (opening : Opening Remote) (devices : List (Switching Remote))
      (wanted : devices.map (·.track) = request.wanted) (after : Media.View Remote)

namespace Course

variable {request : Session.Request}

def steps (number : Nat) : Course Remote request → List (Action Remote)
  | refused opening reason? =>
      opening.steps number (.refusal reason?) ++
        [.ask (.call number), .answer (.call number) .done]
  | accepted opening devices _ after =>
      opening.steps number .done ++ devices.flatMap (·.steps number) ++
        [.work (.call number) after]

def asks : Course Remote request → List Session.Ask
  | refused _ _ => [.connect request.url request.token, .disconnect]
  | accepted _ _ _ _ =>
      .connect request.url request.token :: request.wanted.map fun track => .enable track true

def session (limit : Duration) (number : Nat) (session : Session Remote) :
    Course Remote request → Session Remote
  | refused _ reason? =>
      { session.admitted with
        call := .disconnected
        fault := some (.ofRefusal limit reason?) }
  | accepted opening _ _ after =>
      { Session.resync after
          (Session.resync opening.settles { session.admitted with call := .connected }) with
        listener := some number }

def result (limit : Duration) : Course Remote request → Session.Result
  | refused _ reason? => .attempt (.error (.ofRefusal limit reason?))
  | accepted _ _ _ _ => .attempt (.ok .connected)

def passage (limit : Duration) (number : Nat) (session : Session Remote)
    (course : Course Remote request) : Passage Remote :=
  { steps := course.steps number
    asks := course.asks
    session := course.session limit number session
    result := course.result limit }

end Course

/-! ### The stages of an attempt -/

section Stages

variable {limit : Duration} {number : Nat} {session : Session Remote} {request : Session.Request}
  {passage : Passage Remote}

theorem passes_releasing_iff {result : Except Session.Fault Session.Outcome} :
    Passes limit number session (.waits (.attempt request (.releasing result))) false passage ↔
      passage =
        { steps := [.ask (.call number), .answer (.call number) .done]
          asks := [.disconnect]
          session := session
          result := .attempt result } := by
  rw [passes_asks_iff rfl]
  constructor
  · rintro ⟨answer, next, journal, rest, answered, passes, rfl⟩
    cases answer with
    | done =>
        cases answered
        rw [passes_ends_iff.mp passes]
        rfl
    | failed fault => cases answered
    | timedOut => cases answered
  · rintro rfl
    exact ⟨.done, _, _, _, rfl, .returns session _, rfl⟩

theorem answered_switching_iff {epoch : Nat} {track : Media.Track} {todo : List Media.Track}
    {answer : Session.Answer} {next : Session.Next Remote} :
    (∃ journal, (Session.Task.attempt request (.switching epoch track todo)).answered? limit
        answer = some (next, journal)) ↔
      ∃ fault?, answer = .ofFault? fault? ∧
        next = .waits (.attempt request (.enabling epoch todo)) := by
  cases answer with
  | done =>
      constructor
      · rintro ⟨journal, answered⟩
        cases answered
        exact ⟨none, rfl, rfl⟩
      · rintro ⟨fault?, _same, rfl⟩
        exact ⟨_, rfl⟩
  | failed fault =>
      constructor
      · rintro ⟨journal, answered⟩
        cases answered
        exact ⟨some fault, rfl, rfl⟩
      · rintro ⟨fault?, _same, rfl⟩
        exact ⟨_, rfl⟩
  | timedOut =>
      refine iff_of_false nofun ?_
      rintro ⟨fault?, same, _next⟩
      cases fault? <;> cases same

/-- The devices come one after the other, and none of them keeps the attempt from going on. -/
theorem passes_enabling_iff {todo : List Media.Track} :
    Passes limit number session (.waits (.attempt request (.enabling session.epoch todo))) false
        passage ↔
      ∃ (devices : List (Switching Remote)) (after : Media.View Remote),
        devices.map (·.track) = todo ∧
        passage =
          { steps := devices.flatMap (·.steps number) ++ [.work (.call number) after]
            asks := todo.map fun track => .enable track true
            session := { Session.resync after session with listener := some number }
            result := .attempt (.ok .connected) } := by
  induction todo generalizing passage with
  | nil =>
      have completed : ∀ view,
          (Session.Attempt.complete number request session.epoch view session).session =
              { Session.resync view session with listener := some number } ∧
            (Session.Attempt.complete number request session.epoch view session).next =
              .ends (.attempt (.ok .connected)) := by
        intro view
        rw [Session.Attempt.complete, if_pos rfl]
        exact ⟨rfl, rfl⟩
      rw [passes_works_iff fun view => rfl]
      constructor
      · rintro ⟨view, rest, passes, rfl⟩
        rw [(completed view).1, (completed view).2, passes_ends_iff] at passes
        exact ⟨[], view, rfl, by rw [passes]; rfl⟩
      · rintro ⟨devices, after, none, rfl⟩
        cases List.map_eq_nil_iff.mp none
        refine ⟨after, .ended { Session.resync after session with listener := some number }
          (.attempt (.ok .connected)), ?_, rfl⟩
        rw [(completed after).1, (completed after).2]
        exact .returns _ _
  | cons track todo ih =>
      have enables : ∀ view, (Session.Task.attempt request
          (.enabling session.epoch (track :: todo))).section? number view session =
            some { session := session
                   next := .waits (.attempt request (.switching session.epoch track todo)) } := by
        intro view
        change some (Session.Attempt.enable request session.epoch track todo session) = _
        rw [Session.Attempt.enable, if_pos rfl]
      rw [passes_works_iff enables]
      constructor
      · rintro ⟨shown, first, passes, rfl⟩
        obtain ⟨answer, next, journal, rest, answered, passes, rfl⟩ :=
          (passes_asks_iff rfl).mp passes
        obtain ⟨fault?, rfl, rfl⟩ := (answered_switching_iff.mp ⟨journal, answered⟩)
        obtain ⟨devices, after, tracks, rfl⟩ := ih.mp passes
        refine ⟨{ track := track, shown := shown, fault? := fault? } :: devices, after, ?_, rfl⟩
        rw [List.map_cons, tracks]
      · rintro ⟨devices, after, tracks, rfl⟩
        cases devices with
        | nil => cases tracks
        | cons device devices =>
            obtain ⟨rfl, others⟩ := List.cons.inj tracks
            obtain ⟨journal, answered⟩ := answered_switching_iff.mpr ⟨device.fault?, rfl, rfl⟩
            refine ⟨device.shown, _, (passes_asks_iff rfl).mpr
              ⟨_, _, journal, _, answered, ih.mpr ⟨devices, after, others, rfl⟩, rfl⟩, rfl⟩

/-- An attempt that has the turn asks for its handshake, which comes through or is refused. -/
theorem passes_handshake_iff {epoch : Nat} :
    Passes limit number session (.waits (.attempt request (.handshake epoch))) false passage ↔
      (∃ rest, Passes limit number session
          (.waits (.attempt request (.settling epoch (.ok ())))) false rest ∧
        passage = (rest.behind (.answer (.call number) .done) none).behind (.ask (.call number))
          (some (.connect request.url request.token))) ∨
      ∃ reason? rest, Passes limit number session
          (.waits (.attempt request (.settling epoch (.error (.ofRefusal limit reason?))))) false
          rest ∧
        passage = (rest.behind (.answer (.call number) (.refusal reason?)) none).behind
          (.ask (.call number)) (some (.connect request.url request.token)) := by
  rw [passes_asks_iff rfl]
  constructor
  · rintro ⟨answer, next, journal, rest, answered, passes, rfl⟩
    cases answer with
    | done => cases answered; exact Or.inl ⟨rest, passes, rfl⟩
    | failed fault => cases answered; exact Or.inr ⟨some fault, rest, passes, rfl⟩
    | timedOut => cases answered; exact Or.inr ⟨none, rest, passes, rfl⟩
  · rintro (⟨rest, passes, rfl⟩ | ⟨reason?, rest, passes, rfl⟩)
    · exact ⟨.done, _, _, rest, rfl, passes, rfl⟩
    · cases reason? with
      | some fault => exact ⟨.failed fault, _, _, rest, rfl, passes, rfl⟩
      | none => exact ⟨.timedOut, _, _, rest, rfl, passes, rfl⟩

theorem passes_accepted_iff :
    Passes limit number session
        (.waits (.attempt request (.settling session.epoch (.ok ())))) false passage ↔
      ∃ settles rest, Passes limit number
          (Session.resync settles { session with call := .connected })
          (.waits (.attempt request (.enabling session.epoch request.wanted))) false rest ∧
        passage = rest.behind (.work (.call number) settles) none := by
  have accepts : ∀ view, (Session.Task.attempt request
      (.settling session.epoch (.ok ()))).section? number view session =
        some { session := Session.resync view { session with call := .connected }
               next := .waits (.attempt request (.enabling session.epoch request.wanted))
               journal := Session.resyncJournal view session } := by
    intro view
    change some (Session.Attempt.settle request session.epoch (.ok ()) view session) = _
    rw [Session.Attempt.settle, if_pos rfl]
  exact passes_works_iff accepts

theorem passes_refused_iff {fault : Session.Fault} :
    Passes limit number session
        (.waits (.attempt request (.settling session.epoch (.error fault)))) false passage ↔
      ∃ settles rest, Passes limit number
          { session with call := .disconnected, fault := some fault }
          (.waits (.attempt request (.releasing (.error fault)))) false rest ∧
        passage = rest.behind (.work (.call number) settles) none := by
  have refuses : ∀ view, (Session.Task.attempt request
      (.settling session.epoch (.error fault))).section? number view session =
        some { session := { session with call := .disconnected, fault := some fault }
               next := .waits (.attempt request (.releasing (.error fault)))
               journal := [Journal.error
                ("Failed to connect to media session: " ++ fault.message)] } := by
    intro view
    change some (Session.Attempt.settle request session.epoch (.error fault) view session) = _
    rw [Session.Attempt.settle, if_pos rfl]
  exact passes_works_iff refuses

/-- In an idle session a request in order comes to its handshake. -/
theorem passes_starting_iff (idle : session.call = .disconnected)
    (valid : request.complaint? = none) :
    Passes limit number session (.waits (.attempt request .starting)) false passage ↔
      ∃ begins linesUp turns rest, Passes limit number
          session.admitted
          (.waits (.attempt request (.handshake session.admitted.epoch))) false rest ∧
        passage = ((rest.behind (.work (.call number) turns) none).behind
          (.work (.call number) linesUp) none).behind (.work (.call number) begins) none := by
  have begins : ∀ view, (Session.Task.attempt request .starting).section? number view session =
      some { session := session.admitted
             next := .waits (.attempt request (.begun session.admitted.epoch)) } := by
    intro view
    change some (Session.Attempt.start request session) = _
    rw [Session.Attempt.start, if_pos idle, valid]
    rfl
  have turns : ∀ (busy : Session Remote) view, (Session.Task.attempt request
      (.queued busy.epoch)).section? number view busy =
        some { session := busy
               next := .waits (.attempt request (.handshake busy.epoch))
               journal := [Journal.info ("Connecting to media session at " ++ request.url)] } := by
    intro busy view
    change some (Session.Attempt.takeTurn request busy.epoch busy) = _
    rw [Session.Attempt.takeTurn, if_pos rfl]
  rw [passes_works_iff begins]
  constructor
  · rintro ⟨first, _, begun, rfl⟩
    obtain ⟨second, _, queued, rfl⟩ := (passes_works_iff fun view => rfl).mp begun
    obtain ⟨third, rest, turned, rfl⟩ := (passes_works_iff (turns _)).mp queued
    exact ⟨first, second, third, rest, turned, rfl⟩
  · rintro ⟨first, second, third, rest, passes, rfl⟩
    exact ⟨first, _, (passes_works_iff fun view => rfl).mpr ⟨second, _,
      (passes_works_iff (turns _)).mpr ⟨third, rest, passes, rfl⟩, rfl⟩, rfl⟩

/-- In an idle session a request in order takes one of the courses, and each of them can be taken. -/
theorem passes_join_iff (idle : session.call = .disconnected)
    (valid : request.complaint? = none) :
    Passes limit number session (.waits (.attempt request .starting)) false passage ↔
      ∃ course : Course Remote request, passage = course.passage limit number session := by
  rw [passes_starting_iff idle valid]
  constructor
  · rintro ⟨begins, linesUp, turns, _, shaking, rfl⟩
    rcases passes_handshake_iff.mp shaking with ⟨_, shaken, rfl⟩ | ⟨reason?, _, failed, rfl⟩
    · obtain ⟨settles, _, enabling, rfl⟩ := passes_accepted_iff.mp shaken
      obtain ⟨devices, after, wanted, rfl⟩ := passes_enabling_iff.mp enabling
      refine ⟨.accepted ⟨begins, linesUp, turns, settles⟩ devices wanted after, ?_⟩
      rfl
    · obtain ⟨settles, _, releasing, rfl⟩ := passes_refused_iff.mp failed
      rw [passes_releasing_iff.mp releasing]
      exact ⟨.refused ⟨begins, linesUp, turns, settles⟩ reason?, rfl⟩
  · rintro ⟨course, rfl⟩
    cases course with
    | accepted opening devices wanted after =>
        have enabled : Passes limit number
            (Session.resync opening.settles { session.admitted with call := .connected })
            (.waits (.attempt request (.enabling session.admitted.epoch request.wanted))) false
            _ := passes_enabling_iff.mpr ⟨devices, after, wanted, rfl⟩
        have accepted := passes_accepted_iff.mpr ⟨opening.settles, _, enabled, rfl⟩
        have shaken := passes_handshake_iff.mpr (Or.inl ⟨_, accepted, rfl⟩)
        exact ⟨opening.begins, opening.linesUp, opening.turns, _, shaken, rfl⟩
    | refused opening reason? =>
        have released : Passes limit number
            { session.admitted with
              call := .disconnected
              fault := some (.ofRefusal limit reason?) }
            (.waits (.attempt request (.releasing (.error (.ofRefusal limit reason?))))) false _ :=
          passes_releasing_iff.mpr rfl
        have refused := passes_refused_iff.mpr ⟨opening.settles, _, released, rfl⟩
        have shaken := passes_handshake_iff.mpr (Or.inr ⟨reason?, _, refused, rfl⟩)
        exact ⟨opening.begins, opening.linesUp, opening.turns, _, shaken, rfl⟩

end Stages

/-! ### Attempts that are left alone -/

private theorem asks_wanted (request : Session.Request) :
    (request.wanted.map fun track => Session.Ask.enable track true) =
      (if request.audio then [.enable .audio true] else []) ++
        (if request.video then [.enable .video true] else []) := by
  obtain ⟨_url, _token, audio, video⟩ := request
  cases audio <;> cases video <;> rfl

/-- A request in order is made in a room that can be reached and has no session, and the session is
left to it until it returns. If its handshake is refused, or not answered in time, it comes to that
fault, which is shown; nobody is listed; and besides the handshake nothing was asked of the transport
but the release. Otherwise it comes to a connection, whether the devices can be had or not; they were
asked for as wanted, and nothing was released; the roster is that of a resync with what the transport
shows last; and the own identity is the one that it showed after the handshake, or else now. With
nobody in line each of these courses can be taken. -/
theorem join_does_as_asked {limit : Duration} {before : List (Action Remote)}
    {room : Room Remote} (ran : (Room.new limit).run? before = some room)
    (idle : room.session.call = .disconnected) {request : Session.Request}
    (valid : request.complaint? = none) :
    (∀ actions last, room.Alone (.join request) actions last →
      ∃ course : Course Remote request,
        stepsOf room.calls actions = course.steps room.calls ∧
        match course with
        | .refused _opening reason? =>
            (∀ result, (room.calls, result) ∈ last.results ↔
              result = .attempt (.error (.ofRefusal limit reason?))) ∧
            last.session.call = .disconnected ∧
            last.session.status = .failed (.ofRefusal limit reason?) ∧
            last.session.participants = [] ∧
            asksOf room.calls (room.start (.join request)) actions =
              [.connect request.url request.token, .disconnect]
        | .accepted opening _devices _wanted after =>
            (∀ result, (room.calls, result) ∈ last.results ↔
              result = .attempt (.ok .connected)) ∧
            last.session.call = .connected ∧
            asksOf room.calls (room.start (.join request)) actions =
              .connect request.url request.token ::
                ((if request.audio then [.enable .audio true] else []) ++
                  (if request.video then [.enable .video true] else [])) ∧
            last.session.participants =
              Session.lineup after (opening.settles.own.map (·.identity)) ∧
            last.session.identity =
              (opening.settles.own.map (·.identity)).or (after.own.map (·.identity))) ∧
    (room.line = [] → ∀ course : Course Remote request,
      ∃ last, room.Alone (.join request) (course.steps room.calls) last) := by
  obtain ⟨_coherent, orderly⟩ := orderly_run ran
  obtain ⟨empty, unknown, _unheard⟩ := orderly.quiet (Or.inl idle)
  refine ⟨?_, ?_⟩
  · intro actions last alone
    obtain ⟨passage, passes, makes⟩ := alone.exists_passage ran
    obtain ⟨course, rfl⟩ := (passes_join_iff idle valid).mp passes
    refine ⟨course, makes.steps, ?_⟩
    cases course with
    | refused opening reason? =>
        refine ⟨makes.results, ?_, ?_, ?_, makes.asks⟩
        · rw [makes.session]
          rfl
        · rw [makes.session]
          rfl
        · rw [makes.session]
          change room.session.roster.toList = []
          rw [empty]
          exact Roster.toList_empty
    | accepted opening devices wanted after =>
        have met : (Session.resync opening.settles
            { room.session.admitted with call := .connected }).identity =
              opening.settles.own.map (·.identity) := by
          change room.session.identity.or _ = _
          rw [unknown]
          rfl
        refine ⟨makes.results, ?_, ?_, ?_, ?_⟩
        · rw [makes.session]
          rfl
        · rw [makes.asks, ← asks_wanted]
          rfl
        · rw [makes.session]
          change (Session.resync after (Session.resync opening.settles _)).participants = _
          rw [Session.participants_resync, met]
        · rw [makes.session]
          change (Session.resync opening.settles _).identity.or _ = _
          rw [met]
  · intro nobody course
    have passes : Passes limit room.calls room.session (.waits (.attempt request .starting)) false
        (course.passage limit room.calls room.session) :=
      (passes_join_iff idle valid).mpr ⟨course, rfl⟩
    exact @Alone.of_passes Remote limit before room (.join request) _ ran passes
      fun _request _same => nobody

def wantingBoth : Session.Request :=
  { url := "wss://media", token := "token", audio := true, video := true }

/-- The microphone cannot be had, and by the time the camera is on the transport has another identity
for `alex`. -/
def withoutMicrophone : Course Unit wantingBoth :=
  .accepted { begins := .empty, linesUp := .empty, turns := .empty, settles := viewOf "alex" }
    [{ track := .audio, shown := viewOf "alex", fault? := some (.noLocalTrack .audio) },
      { track := .video, shown := viewOf "alex", fault? := none }]
    rfl (viewOf "alex-2")

theorem joined_though_microphone_missing :
    ∃ last, (Room.new (.ofSeconds 15 0)).Alone (.join wantingBoth)
        (withoutMicrophone.steps 0) last ∧
      (0, .attempt (.ok .connected)) ∈ last.results ∧ last.session.call = .connected ∧
      asksOf 0 ((Room.new (.ofSeconds 15 0)).start (.join wantingBoth))
          (withoutMicrophone.steps 0) =
        [.connect "wss://media" "token", .enable .audio true, .enable .video true] ∧
      last.session.identity = some "alex" := by
  obtain ⟨does, possible⟩ := @join_does_as_asked Unit (.ofSeconds 15 0) [] _ rfl rfl wantingBoth rfl
  obtain ⟨last, alone⟩ := possible rfl withoutMicrophone
  obtain ⟨course, steps, done⟩ := does _ last alone
  refine ⟨last, alone, ?_⟩
  cases course with
  | refused opening reason? => cases congrArg List.length steps
  | accepted opening devices wanted after =>
      obtain ⟨results, connected, asked, _roster, identity⟩ := done
      refine ⟨(results _).mpr rfl, connected, asked, ?_⟩
      have met := congrArg (fun steps => steps[5]?) steps
      obtain ⟨begins, linesUp, turns, settles⟩ := opening
      cases met
      exact identity

end Room

end MeetingRoom
