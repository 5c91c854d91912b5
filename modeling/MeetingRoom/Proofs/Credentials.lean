import MeetingRoom.Lobby
import MeetingRoom.Meeting.Pass
import MeetingRoom.Proofs.Admission

/-!
What the credentials of a pass are good for. They are the first address and the first token that are
not blank, both trimmed, so a request to join that is made with them has nothing missing: it is in
order if its address has one of the schemes, and then the transport is given just these credentials.
-/

namespace MeetingRoom

variable {Remote : Type}

/-! ### Texts that are there -/

namespace Text

theorem Neat.trim_eq {text : String} (neat : Neat text) : trim text = text := by
  apply String.toList_inj.mp
  rw [toList_trim, dropWhile_of_front neat.front, rdropWhile_eq_self_iff_getLast?.mpr neat.back]

theorem Neat.not_allBlank {text : String} (neat : Neat text) : allBlank text = false := by
  apply Bool.eq_false_iff.mpr
  intro blank
  rw [← trim_eq_empty_iff, neat.trim_eq] at blank
  exact neat.filled blank

theorem content?_eq_some_iff {text kept : String} :
    content? text = some kept ↔ allBlank text = false ∧ kept = trim text := by
  unfold content?
  cases allBlank text <;> simp [eq_comm]

theorem content?_eq_none_iff {text : String} : content? text = none ↔ allBlank text = true := by
  unfold content?
  cases allBlank text <;> simp

/-- The text is the first of the candidates that is given and not blank, trimmed. -/
def IsFirstFilled (candidates : List (Option String)) (text : String) : Prop :=
  ∃ before value after, candidates = before ++ some value :: after ∧
    (∀ earlier, some earlier ∈ before → allBlank earlier = true) ∧
      allBlank value = false ∧ text = trim value

theorem findSome?_content_iff {candidates : List (Option String)} {text : String} :
    candidates.findSome? (·.bind content?) = some text ↔ IsFirstFilled candidates text := by
  rw [List.findSome?_eq_some_iff]
  constructor
  · rintro ⟨before, candidate, after, rfl, chosen, blank⟩
    obtain ⟨value, rfl, content⟩ := Option.bind_eq_some_iff.mp chosen
    obtain ⟨filled, trimmed⟩ := content?_eq_some_iff.mp content
    refine ⟨before, value, after, rfl, ?_, filled, trimmed⟩
    intro earlier member
    exact content?_eq_none_iff.mp (blank _ member)
  · rintro ⟨before, value, after, rfl, blank, filled, trimmed⟩
    refine ⟨before, some value, after, rfl, content?_eq_some_iff.mpr ⟨filled, trimmed⟩, ?_⟩
    intro candidate member
    cases candidate with
    | none => rfl
    | some earlier => exact content?_eq_none_iff.mpr (blank earlier member)

theorem findSome?_content_isSome_iff {candidates : List (Option String)} :
    (candidates.findSome? (·.bind content?)).isSome = true ↔
      ∃ value, some value ∈ candidates ∧ allBlank value = false := by
  rw [List.findSome?_isSome_iff]
  constructor
  · rintro ⟨candidate, member, chosen⟩
    obtain ⟨text, content⟩ := Option.isSome_iff_exists.mp chosen
    obtain ⟨value, rfl, kept⟩ := Option.bind_eq_some_iff.mp content
    exact ⟨value, member, (content?_eq_some_iff.mp kept).1⟩
  · rintro ⟨value, member, filled⟩
    refine ⟨some value, member, ?_⟩
    rw [Option.bind_some, content?_eq_some_iff.mpr ⟨filled, rfl⟩]
    rfl

theorem IsFirstFilled.neat {candidates : List (Option String)} {text : String}
    (first : IsFirstFilled candidates text) : Neat text := by
  obtain ⟨_before, value, _after, _same, _blank, filled, trimmed⟩ := first
  exact neat_of_content? (content?_eq_some_iff.mpr ⟨filled, trimmed⟩)

end Text

/-! ### Credentials -/

namespace Meeting

def Credentials.request (credentials : Credentials) (audio video : Bool) : Session.Request :=
  { url := credentials.url, token := credentials.token, audio := audio, video := video }

variable {pass : Pass} {fallback? : Option String} {credentials : Credentials}

theorem Pass.credentials_eq (pass : Pass) (fallback? : Option String) :
    pass.credentials fallback? =
      match [pass.mediaUrl, fallback?].findSome? (·.bind Text.content?),
          [pass.mediaToken, some pass.webRtcToken].findSome? (·.bind Text.content?) with
      | some url, some token => .ok { url := url, token := token }
      | _, _ => .error .noTransport := by
  have second : ∀ first other : Option String,
      [first, other].findSome? (·.bind Text.content?) =
        (first.bind Text.content?).or (other.bind Text.content?) := by
    intro first other
    rw [List.findSome?_cons]
    cases first.bind Text.content? with
    | some text => rfl
    | none => cases found : other.bind Text.content? <;> simp [found]
  rw [second, second]
  rfl

theorem Pass.credentials_eq_ok_iff :
    pass.credentials fallback? = .ok credentials ↔
      Text.IsFirstFilled [pass.mediaUrl, fallback?] credentials.url ∧
        Text.IsFirstFilled [pass.mediaToken, some pass.webRtcToken] credentials.token := by
  rw [credentials_eq, ← Text.findSome?_content_iff, ← Text.findSome?_content_iff]
  cases [pass.mediaUrl, fallback?].findSome? (·.bind Text.content?) with
  | none => simp
  | some url =>
      cases [pass.mediaToken, some pass.webRtcToken].findSome? (·.bind Text.content?) with
      | none => simp
      | some token =>
          cases credentials
          simp

theorem Pass.exists_credentials_iff :
    (∃ credentials, pass.credentials fallback? = .ok credentials) ↔
      (∃ url, some url ∈ [pass.mediaUrl, fallback?] ∧ Text.allBlank url = false) ∧
        ∃ token, some token ∈ [pass.mediaToken, some pass.webRtcToken] ∧
          Text.allBlank token = false := by
  rw [credentials_eq, ← Text.findSome?_content_isSome_iff, ← Text.findSome?_content_isSome_iff]
  cases [pass.mediaUrl, fallback?].findSome? (·.bind Text.content?) with
  | none => simp
  | some url =>
      cases [pass.mediaToken, some pass.webRtcToken].findSome? (·.bind Text.content?) <;> simp

end Meeting

/-! ### An attempt that nobody is in the way of -/

namespace Room

/-- A task does a section of work that starts and drops no listener, and goes on. -/
private theorem work_of_waits {room : Room Remote} {id : TaskId} (view : Media.View Remote)
    {task later : Session.Task Remote} {part : Session.Section Remote}
    (found : room.task? id = some task) (may : room.mayWork id task = true)
    (worked : task.section? id.number view room.session = some part)
    (listener : part.listener = none) (dropped : part.dropped = none)
    (waits : part.next = .waits later) :
    ∃ next, room.step? (.work id view) = some next ∧ next.task? id = some later ∧
      next.session = part.session ∧ id ∉ next.asked ∧
      next.line = if later.isQueued then room.line ++ [id.number] else room.line := by
  have moved : (room.enact id part).task? id = some later := by
    rw [task?_enact found, listener, dropped, waits]
    simp [Session.Next.task?]
  have line : (room.enact id part).line =
      if later.isQueued then room.line ++ [id.number] else room.line := by
    rw [line_enact, waits, line_proceed]
  refine ⟨room.enact id part, ?_, moved, session_enact room id part, ?_, line⟩
  · exact work?_eq_some_iff.mpr ⟨task, part, found, may, worked, rfl⟩
  · intro asked
    exact ((mem_asked_enact room id part id).mp asked).2.1 rfl

end Room

namespace Chronicle

variable {chronicle : Chronicle Remote}

/-- A call that joins, and that nothing else comes between until its handshake. -/
def joiningAlone (number : Nat) (request : Session.Request) (view : Media.View Remote) :
    List (Room.Action Remote) :=
  [.call (.join request), .work (.call number) view, .work (.call number) view,
    .work (.call number) view, .ask (.call number)]

private theorem run?_cons {next last : Chronicle Remote} {action : Room.Action Remote}
    {rest : List (Room.Action Remote)} (stepped : chronicle.step? action = some next)
    (rested : next.run? rest = some last) : chronicle.run? (action :: rest) = some last := by
  rw [run?, List.foldlM_cons, stepped]
  exact rested

private theorem step?_of_silent {room : Room Remote} {action : Room.Action Remote}
    (silent : signal? chronicle.room action = none)
    (stepped : chronicle.room.step? action = some room) :
    chronicle.step? action = some { room := room, log := chronicle.log } := by
  apply step?_eq_some_iff.mpr
  rw [silent]
  exact ⟨stepped, (List.append_nil _).symm⟩

/-- In an idle session, with nobody in line, a request in order comes to its handshake. -/
theorem handshake_of_joiningAlone (coherent : chronicle.room.Coherent)
    (idle : chronicle.room.session.call = .disconnected) (nobody : chronicle.room.line = [])
    {request : Session.Request} (valid : request.complaint? = none) (view : Media.View Remote) :
    ∃ last, chronicle.run? (joiningAlone chronicle.room.calls request view) = some last ∧
      last.log =
        chronicle.log ++ [(chronicle.room.calls, .asks (.connect request.url request.token))] := by
  have called : (chronicle.room.start (.join request)).task? (.call chronicle.room.calls) =
      some (.attempt request .starting) := by
    rw [Room.task?_start, coherent.fresh, if_pos rfl]
    rfl
  have admitted : Session.Attempt.start request chronicle.room.session =
      { session := { chronicle.room.session with
          call := .connecting, epoch := chronicle.room.session.epoch + 1, fault := none }
        next := .waits (.attempt request (.begun (chronicle.room.session.epoch + 1))) } := by
    rw [Session.Attempt.start, if_pos idle, valid]
  obtain ⟨begun, first, waitsBegun, session, _unasked, line⟩ := Room.work_of_waits
    view called rfl (congrArg some admitted) rfl rfl rfl
  obtain ⟨queued, second, waitsQueued, sessionKept, _unasked, lined⟩ := Room.work_of_waits
    view waitsBegun rfl rfl rfl rfl rfl
  have turn : queued.line = [chronicle.room.calls] := by
    rw [lined, line]
    exact congrArg (· ++ [chronicle.room.calls]) nobody
  have current : queued.session.epoch = chronicle.room.session.epoch + 1 := by
    rw [sessionKept, session]
  have turned : Session.Attempt.takeTurn request (chronicle.room.session.epoch + 1)
      queued.session =
        { session := queued.session
          next := .waits (.attempt request (.handshake (chronicle.room.session.epoch + 1)))
          journal := [Journal.info ("Connecting to media session at " ++ request.url)] } := by
    rw [Session.Attempt.takeTurn, if_pos current]
  have may : queued.mayWork (.call chronicle.room.calls)
      (.attempt request (.queued (chronicle.room.session.epoch + 1))) = true := by
    rw [Room.mayWork, turn]
    simp [Session.Task.isQueued, Room.TaskId.number]
  obtain ⟨ready, third, waitsReady, _session, unasked, _line⟩ := Room.work_of_waits
    view waitsQueued may (congrArg some turned) rfl rfl rfl
  have said : signal? ready (.ask (.call chronicle.room.calls)) =
      some (chronicle.room.calls, .asks (.connect request.url request.token)) := by
    rw [signal?, waitsReady]
    rfl
  have asks : step? { room := ready, log := chronicle.log } (.ask (.call chronicle.room.calls)) =
      some
        { room := { ready with asked := ready.asked ++ [.call chronicle.room.calls] }
          log := chronicle.log ++
            [(chronicle.room.calls, .asks (.connect request.url request.token))] } := by
    apply step?_eq_some_iff.mpr
    rw [said]
    exact ⟨Room.ask?_eq_some_iff.mpr ⟨_, waitsReady, rfl, unasked, rfl⟩, rfl⟩
  exact ⟨_, run?_cons (step?_of_silent rfl rfl) (run?_cons (step?_of_silent rfl first)
    (run?_cons (step?_of_silent rfl second) (run?_cons (step?_of_silent rfl third)
      (run?_cons asks rfl)))), rfl⟩

theorem mem_dealings_iff {number : Nat} {signal : Session.Signal} :
    signal ∈ chronicle.dealings number ↔ (number, signal) ∈ chronicle.log := by
  simp [dealings]

/-- Whoever gets connected has asked for it in the words of its request. -/
theorem Serves.asked_of_connected {operations : List Room.Operation}
    (serves : chronicle.Serves operations) {number : Nat} {request : Session.Request}
    (known : operations[number]? = some (.join request))
    (connected : (number, .attempt (.ok .connected)) ∈ chronicle.room.results) :
    (number, .asks (.connect request.url request.token)) ∈ chronicle.log := by
  obtain ⟨asked, devices, said⟩ := (serves.truthful.concluded number _ connected).2.2
  have first : (number, .asks (.connect asked.url asked.token)) ∈ chronicle.log := by
    rw [← mem_dealings_iff, said]
    exact List.mem_cons_self
  obtain ⟨other, same, _valid, words⟩ := serves.log number _ first
  rw [known] at same
  cases same
  obtain ⟨url, token⟩ := words _ _ rfl
  rw [← url, ← token]
  exact first

end Chronicle

/-! ### Requests with credentials -/

namespace Meeting

theorem Credentials.complaint?_request {credentials : Credentials}
    (url : Text.Neat credentials.url) (token : Text.Neat credentials.token) (audio video : Bool) :
    (credentials.request audio video).complaint? =
      if Session.Request.hasScheme credentials.url then none
      else some (.invalidCredentials
        ("unsupported media server url '" ++ credentials.url ++ "'")) := by
  unfold Session.Request.complaint?
  simp only [request, url.not_allBlank, token.not_allBlank, url.trim_eq, Bool.false_eq_true,
    if_false]

/-- A pass has credentials exactly if there is an address and a token that are not blank; they are
the first of each, trimmed. A request that is made with them, in the lobby or elsewhere, is refused
for nothing but an address without one of the schemes. Whatever its attempt asks for in a handshake,
it asks for with these credentials; it has asked if it gets connected, and it comes to ask if it is
in order and nothing is in its way. -/
theorem credentials_serve_as_they_are (pass : Pass) (fallback? : Option String) :
    ((∃ credentials, pass.credentials fallback? = .ok credentials) ↔
      (∃ url, some url ∈ [pass.mediaUrl, fallback?] ∧ Text.allBlank url = false) ∧
        ∃ token, some token ∈ [pass.mediaToken, some pass.webRtcToken] ∧
          Text.allBlank token = false) ∧
    ∀ credentials, pass.credentials fallback? = .ok credentials →
      Text.IsFirstFilled [pass.mediaUrl, fallback?] credentials.url ∧
      Text.IsFirstFilled [pass.mediaToken, some pass.webRtcToken] credentials.token ∧
      (∀ lobby : Lobby, lobby.joinRequest credentials.url credentials.token =
        credentials.request lobby.joinWithAudio lobby.joinWithVideo) ∧
      ∀ audio video,
        (credentials.request audio video).complaint? =
          (if Session.Request.hasScheme credentials.url then none
          else some (.invalidCredentials
            ("unsupported media server url '" ++ credentials.url ++ "'"))) ∧
        ∀ limit actions (chronicle : Chronicle Remote),
          (Chronicle.new limit).run? actions = some chronicle →
            (∀ number,
              (Room.operations actions)[number]? = some (.join (credentials.request audio video)) →
                (∀ complaint,
                  (number, .attempt (.error (.invalidCredentials complaint))) ∈
                      chronicle.room.results →
                    Session.Request.hasScheme credentials.url = false ∧
                      complaint =
                        "unsupported media server url '" ++ credentials.url ++ "'") ∧
                (∀ url token, (number, .asks (.connect url token)) ∈ chronicle.log →
                  url = credentials.url ∧ token = credentials.token) ∧
                ((number, .attempt (.ok .connected)) ∈ chronicle.room.results →
                  (number, .asks (.connect credentials.url credentials.token)) ∈
                    chronicle.log)) ∧
            (Session.Request.hasScheme credentials.url = true →
              chronicle.room.session.call = .disconnected → chronicle.room.line = [] → ∀ view,
                ∃ last, chronicle.run? (Chronicle.joiningAlone chronicle.room.calls
                    (credentials.request audio video) view) = some last ∧
                  last.log = chronicle.log ++ [(chronicle.room.calls,
                    .asks (.connect credentials.url credentials.token))]) := by
  refine ⟨Pass.exists_credentials_iff, ?_⟩
  intro credentials found
  obtain ⟨url, token⟩ := Pass.credentials_eq_ok_iff.mp found
  refine ⟨url, token, fun _lobby => rfl, ?_⟩
  intro audio video
  have judged := Credentials.complaint?_request url.neat token.neat audio video
  refine ⟨judged, ?_⟩
  intro limit actions chronicle ran
  have serves := Chronicle.Serves.run ran
  constructor
  · intro number known
    refine ⟨?_, ?_, serves.asked_of_connected known⟩
    · intro complaint noted
      obtain ⟨operation, same, request, rfl, refused⟩ := serves.room.results number _ noted
      rw [known] at same
      cases same
      have fault := judged.symm.trans refused
      split at fault
      · cases fault
      · rename_i schemeless
        cases fault
        exact ⟨Bool.eq_false_iff.mpr schemeless, rfl⟩
    · intro asked token said
      obtain ⟨request, same, _valid, words⟩ := serves.log number _ said
      rw [known] at same
      cases same
      exact words asked token rfl
  · intro schemed idle nobody view
    rw [if_pos schemed] at judged
    exact Chronicle.handshake_of_joiningAlone serves.truthful.coherent idle nobody judged view

def halfEmptyPass : Pass :=
  { meetingId := "m", participantId := "p", webRtcToken := "\ttoken\u2028", aiToken := "",
    voiceToken := "", expiresAt := "",
    relay := { url := "", username := "", password := "" },
    mediaToken := some "", mediaUrl := some "\u3000" }

def fallbackCredentials : Credentials := { url := "wss://media", token := "token" }

theorem fallback_address_serves :
    halfEmptyPass.credentials (some " wss://media\u00A0") = .ok fallbackCredentials ∧
      Text.IsFirstFilled [some "\u3000", some " wss://media\u00A0"] "wss://media" ∧
      (fallbackCredentials.request true false).complaint? = none ∧
      ∃ last, (Chronicle.new (.ofSeconds 15 0) : Chronicle Unit).run?
          (Chronicle.joiningAlone 0 (fallbackCredentials.request true false) .empty) = some last ∧
        last.log = [(0, .asks (.connect "wss://media" "token"))] := by
  have found : halfEmptyPass.credentials (some " wss://media\u00A0") = .ok fallbackCredentials :=
    rfl
  obtain ⟨_exists, serve⟩ :=
    @credentials_serve_as_they_are Unit halfEmptyPass (some " wss://media\u00A0")
  obtain ⟨url, _token, _lobby, requests⟩ := serve fallbackCredentials found
  obtain ⟨judged, runs⟩ := requests true false
  refine ⟨found, url, judged, ?_⟩
  exact (runs (.ofSeconds 15 0) [] (Chronicle.new (.ofSeconds 15 0)) rfl).2 (by decide) rfl rfl
    .empty

end Meeting

end MeetingRoom
