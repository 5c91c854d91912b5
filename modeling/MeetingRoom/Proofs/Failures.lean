import MeetingRoom.Document.RoundTrip
import MeetingRoom.Meeting.Fault
import MeetingRoom.Proofs.Letters
import MeetingRoom.Proofs.Margins

/-!
What failures of the meeting service are taken for. A body tells a message, in a document or as it
is, and only the status and the message count, however the message is told: 401 goes before
everything, then the first known phrase that is in the message, in small letters or in capitals, and
then 404. An object with a key that is no text tells no message in it, even if there is one.
-/

namespace MeetingRoom.Meeting.Fault

open Text (Mentions allBlank holds lower trim)

variable {status : Nat} {message : String}

/-! ### Meanings -/

def phrases : List String := ["not started", "ended", "not invited"]

/-- What a failure with a status and a message is. -/
inductive Means (status : Nat) (message : String) : Fault → Prop where
  | notAuthenticated (unknown : status = 401) : Means status message .notAuthenticated
  | notStarted (known : status ≠ 401) (early : Mentions "not started" message) :
      Means status message .notStarted
  | ended (known : status ≠ 401) (begun : ¬Mentions "not started" message)
      (late : Mentions "ended" message) : Means status message .ended
  | notInvited (known : status ≠ 401) (begun : ¬Mentions "not started" message)
      (lasts : ¬Mentions "ended" message) (unwanted : Mentions "not invited" message) :
      Means status message .notInvited
  | notFound (missing : status = 404) (other : ∀ phrase ∈ phrases, ¬Mentions phrase message) :
      Means status message (.notFound message)
  | server (known : status ≠ 401) (present : status ≠ 404)
      (other : ∀ phrase ∈ phrases, ¬Mentions phrase message) :
      Means status message (.server status message)

theorem holds_phrase_iff {phrase : String} (member : phrase ∈ phrases) :
    holds phrase (lower message) = true ↔ Mentions phrase message := by
  have plain : ∀ phrase ∈ phrases,
      phrase.toList.all Text.isPlainLetter = true ∧ ¬['i'] <:+ phrase.toList := by
    decide
  exact Text.holds_lower_iff (plain phrase member).1 (plain phrase member).2

theorem means_classify (status : Nat) (message : String) :
    Means status message (classify status message) := by
  have started := @holds_phrase_iff message "not started" (by decide)
  have ended := @holds_phrase_iff message "ended" (by decide)
  have invited := @holds_phrase_iff message "not invited" (by decide)
  unfold classify
  dsimp only
  split
  · rename_i unknown
    exact .notAuthenticated unknown
  rename_i known
  split
  · rename_i held
    exact .notStarted known (started.mp held)
  rename_i unheld
  have begun : ¬Mentions "not started" message := mt started.mpr unheld
  split
  · rename_i held
    exact .ended known begun (ended.mp held)
  rename_i unheld
  have lasts : ¬Mentions "ended" message := mt ended.mpr unheld
  split
  · rename_i held
    exact .notInvited known begun lasts (invited.mp held)
  rename_i unheld
  have other : ∀ phrase ∈ phrases, ¬Mentions phrase message := by
    simpa [phrases] using ⟨begun, lasts, mt invited.mpr unheld⟩
  split
  · rename_i missing
    exact .notFound missing other
  · rename_i present
    exact .server known present other

/-- A failure has one meaning. -/
theorem Means.unique {fault other : Fault} (means : Means status message fault)
    (meansOther : Means status message other) : fault = other := by
  cases means <;> cases meansOther <;> simp_all [phrases]

theorem classify_eq_iff {fault : Fault} :
    classify status message = fault ↔ Means status message fault := by
  constructor
  · rintro rfl
    exact means_classify status message
  · exact (means_classify status message).unique

/-- The fault without the message that it carries. -/
def kind : Fault → Fault
  | notFound _message => .notFound ""
  | server status _message => .server status ""
  | fault => fault

/-- Messages with the same letters, small or capital, stand for the same kind of fault. -/
theorem kind_classify {recased : String}
    (same : recased.toList.map Char.toLower = message.toList.map Char.toLower) (status : Nat) :
    (classify status recased).kind = (classify status message).kind := by
  have alike : ∀ phrase ∈ phrases, holds phrase (lower recased) = holds phrase (lower message) := by
    intro phrase member
    rw [Bool.eq_iff_iff, holds_phrase_iff member, holds_phrase_iff member, Mentions, same, Mentions]
  have started := alike "not started" (by decide)
  have ended := alike "ended" (by decide)
  have invited := alike "not invited" (by decide)
  simp only [classify, apply_ite kind, started, ended, invited]
  rfl

/-! ### Messages -/

/-- A document has a message in it that can be read: it is an object of which all keys are texts and
one is the message, which is a text as well, or it is a list of this one text. -/
inductive Carries : Document → String → Prop where
  | named {members : List (Option String × Document)} {message : String}
      (legible : members.all (·.1.isSome) = true)
      (only : members.filter (·.1 == some "message") = [(some "message", .text message)]) :
      Carries (.object members) message
  | listed (message : String) : Carries (.array [.text message]) message

theorem Carries.mem {members : List (Option String × Document)}
    (carries : Carries (.object members) message) : (some "message", .text message) ∈ members := by
  obtain ⟨legible, only⟩ := carries
  have told : (some "message", Document.text message) ∈
      members.filter (·.1 == some "message") := by
    rw [only]
    exact List.mem_singleton_self _
  exact (List.mem_filter.mp told).1

theorem Carries.legible {members : List (Option String × Document)}
    (carries : Carries (.object members) message) : ∀ member ∈ members, member.1.isSome = true := by
  obtain ⟨legible, only⟩ := carries
  exact List.all_eq_true.mp legible

def Encloses (body message : String) : Prop :=
  ∃ document, Document.read body = some document ∧ Carries document message

def told? : List (Option String × Document) → Option String
  | [(_, .text message)] => some message
  | _ => none

theorem told?_eq_some_iff {spoken : List (Option String × Document)} :
    told? spoken = some message ↔ ∃ key, spoken = [(key, .text message)] := by
  constructor
  · intro told
    unfold told? at told
    split at told
    · rename_i key said
      rw [Option.some.inj told]
      exact ⟨key, rfl⟩
    · cases told
  · rintro ⟨key, rfl⟩
    rfl

def carriedIn? (document : Document) : Option String := do
  match ← document.slots? ["message"] with
  | [message] => ← message.optional? Document.text?
  | _ => none

theorem carriedIn?_object (members : List (Option String × Document)) :
    carriedIn? (.object members) =
      if members.all (·.1.isSome) then told? (members.filter (·.1 == some "message"))
      else none := by
  have counted : Document.occurrences "message" members =
      (members.filter (·.1 == some "message")).length :=
    List.countP_eq_length_filter
  have found : members.find? (·.1 == some "message") =
      (members.filter (·.1 == some "message")).head? :=
    List.head?_filter.symm
  rw [carriedIn?, Document.slots?]
  cases members.all (·.1.isSome) with
  | false => rfl
  | true =>
      simp only [List.all_cons, List.all_nil, List.map_cons, List.map_nil, Document.slotOf, counted,
        found, Bool.true_and, Bool.and_true, if_true]
      generalize members.filter (·.1 == some "message") = spoken
      match spoken with
      | [] => rfl
      | [(key, document)] => cases document <;> rfl
      | _ :: _ :: others => simp [told?]

theorem carriedIn?_object_eq_some_iff {members : List (Option String × Document)} :
    carriedIn? (.object members) = some message ↔ Carries (.object members) message := by
  rw [carriedIn?_object]
  constructor
  · intro given
    cases legible : members.all (·.1.isSome) with
    | false =>
        rw [legible] at given
        cases given
    | true =>
        rw [legible, if_pos rfl] at given
        obtain ⟨key, only⟩ := told?_eq_some_iff.mp given
        have told : (key, Document.text message) ∈ members.filter (·.1 == some "message") := by
          rw [only]
          exact List.mem_singleton_self _
        obtain rfl : key = some "message" := by simpa using (List.mem_filter.mp told).2
        exact .named legible only
  · rintro (⟨legible, only⟩ | _)
    rw [if_pos legible, only]
    rfl

theorem carriedIn?_array_eq_some_iff {items : List Document} :
    carriedIn? (.array items) = some message ↔ Carries (.array items) message := by
  match items with
  | [] => exact iff_of_false nofun nofun
  | [.text said] =>
      constructor
      · intro given
        obtain rfl : said = message := Option.some.inj given
        exact .listed said
      · rintro (_ | _)
        rfl
  | [.null] | [.bool _] | [.natural _] | [.number _] | [.garbled] | [.array _] | [.object _] =>
      exact iff_of_false nofun nofun
  | _ :: _ :: _ => exact iff_of_false nofun nofun

theorem carriedIn?_eq_some_iff {document : Document} :
    carriedIn? document = some message ↔ Carries document message := by
  cases document with
  | object members => exact carriedIn?_object_eq_some_iff
  | array items => exact carriedIn?_array_eq_some_iff
  | _ => exact iff_of_false nofun nofun

theorem carried?_eq_some_iff {body : String} :
    carried? body = some message ↔ Encloses body message := by
  have opened : carried? body = (Document.read body).bind carriedIn? := rfl
  rw [opened, Option.bind_eq_some_iff]
  simp only [carriedIn?_eq_some_iff]
  rfl

theorem carried?_eq_none_iff {body : String} :
    carried? body = none ↔ ∀ message, ¬Encloses body message := by
  rw [Option.eq_none_iff_forall_ne_some]
  exact forall_congr' fun message => not_congr carried?_eq_some_iff

/-- How a body tells a message: in a document, or as it is, or, if there is no document with a
message in it, all of the body is the message. -/
inductive Tells : String → String → Prop where
  | inside {body message : String} (encloses : Encloses body message) : Tells body message
  | plain {front message back : String} (blankFront : allBlank front = true)
      (blankBack : allBlank back = true) (trimmed : trim message = message)
      (unread : ∀ inner, ¬Encloses message inner) : Tells (front ++ message ++ back) message
  | whole {body : String} (silent : ∀ message, ¬Encloses body message) : Tells body (trim body)

/-- Every body tells a message. -/
theorem exists_tells (body : String) : ∃ message, Tells body message := by
  by_cases enclosed : ∃ message, Encloses body message
  · obtain ⟨message, encloses⟩ := enclosed
    exact ⟨message, .inside encloses⟩
  · exact ⟨trim body, .whole (not_exists.mp enclosed)⟩

theorem messageOf_of_silent {body : String} (silent : ∀ message, ¬Encloses body message) :
    messageOf body = trim body := by
  rw [messageOf, carried?_eq_none_iff.mpr silent, Option.getD_none]

theorem messageOf_of_tells {body : String} (tells : Tells body message) :
    messageOf body = message := by
  cases tells with
  | inside encloses => rw [messageOf, carried?_eq_some_iff.mpr encloses, Option.getD_some]
  | @plain front message back blankFront blankBack trimmed unread =>
      have unreadWhole : ∀ inner, ¬Encloses (front ++ message ++ back) inner := by
        rintro inner ⟨document, held, carries⟩
        exact unread inner ⟨document, Document.read_of_margins blankFront blankBack held, carries⟩
      rw [messageOf_of_silent unreadWhole, Text.trim_of_margins blankFront blankBack, trimmed]
  | whole silent => exact messageOf_of_silent silent

/-- What counts is the message, however a body tells it, and every body tells one. A failure with a
status and a body that tells a message is what the status and the message mean. The same message,
told by another body, makes the same failure, and with other letters small or capital a failure of
the same kind. An object whose message is missing or null, or with a key that is no text, tells all
of its text. -/
theorem failures_go_by_message (status : Nat) :
    (∀ body, ∃ message, Tells body message) ∧
    (∀ body message, Tells body message →
      (∀ fault, ofResponse status body = fault ↔ Means status message fault) ∧
      ∀ other recased, Tells other recased →
        (recased = message → ofResponse status other = ofResponse status body) ∧
        (recased.toList.map Char.toLower = message.toList.map Char.toLower →
          (ofResponse status other).kind = (ofResponse status body).kind)) ∧
    ∀ body members, Document.read body = some (.object members) →
      (∀ document, (some "message", document) ∈ members → document = .null) ∨
          (∃ document, (none, document) ∈ members) →
        Tells body (trim body) := by
  refine ⟨exists_tells, ?_, ?_⟩
  · intro body message tells
    rw [ofResponse, messageOf_of_tells tells]
    refine ⟨fun fault => classify_eq_iff, ?_⟩
    intro other recased tellsOther
    rw [ofResponse, messageOf_of_tells tellsOther]
    exact ⟨congrArg (classify status), fun same => kind_classify same status⟩
  · intro body members held untold
    refine .whole ?_
    rintro message ⟨document, found, carries⟩
    rw [held] at found
    cases found
    rcases untold with null | ⟨document, mangled⟩
    · cases null _ carries.mem
    · exact Bool.false_ne_true (carries.legible _ mangled)

def numbered : String := "\x7b\"code\":7,\"message\":\"Meeting has NOT Started\"\x7d"

def listed : String := "[\"Meeting has NOT Started\"]"

theorem not_started_in_every_form :
    Tells numbered "Meeting has NOT Started" ∧ Tells listed "Meeting has NOT Started" ∧
      Tells "\n meeting has not started\u3000" "meeting has not started" ∧
      ofResponse 404 numbered = .notStarted ∧ ofResponse 404 listed = .notStarted ∧
      (ofResponse 404 "\n meeting has not started\u3000").kind = .notStarted := by
  have held : Document.read numbered = some (.object
      [(some "code", .natural 7), (some "message", .text "Meeting has NOT Started")]) :=
    Document.read_of_tokens (by decide +kernel)
  have inside : Tells numbered "Meeting has NOT Started" :=
    .inside ⟨_, held, .named rfl (by simp)⟩
  have alone : Tells listed "Meeting has NOT Started" :=
    .inside ⟨_, Document.read_of_tokens (by decide +kernel), .listed _⟩
  have unread : ∀ inner, ¬Encloses "meeting has not started" inner :=
    carried?_eq_none_iff.mp (by decide +kernel)
  have plain : Tells "\n meeting has not started\u3000" "meeting has not started" :=
    @Tells.plain "\n " "meeting has not started" "\u3000" (by decide) (by decide) (by decide) unread
  obtain ⟨means, others⟩ := (failures_go_by_message 404).2.1 _ _ inside
  obtain ⟨same, _alike⟩ := others _ _ alone
  obtain ⟨_same, alike⟩ := others _ _ plain
  have early : Mentions "not started" "Meeting has NOT Started" :=
    ⟨"meeting has ".toList, [], by decide⟩
  have first : ofResponse 404 numbered = .notStarted :=
    (means .notStarted).mpr (.notStarted (by decide) early)
  refine ⟨inside, alone, plain, first, (same rfl).trans first, ?_⟩
  rw [alike (by decide), first]
  rfl

def mangled : String := "\x7b\"message\":\"gone\",\"\\ud800\":1\x7d"

/-- The message of such an object is overlooked, though it is there once and nowhere else. -/
theorem mangled_key_hides_message :
    (∃ members, Document.read mangled = some (.object members) ∧
      members.filter (·.1 == some "message") = [(some "message", .text "gone")]) ∧
      trim "gone" = "gone" ∧ Document.read "gone" = none ∧
      ofResponse 500 "gone" = .server 500 "gone" ∧
      ofResponse 500 mangled = .server 500 mangled ∧
      ofResponse 500 mangled ≠ ofResponse 500 "gone" := by
  have held : Document.read mangled = some (.object
      [(some "message", .text "gone"), (none, .natural 1)]) :=
    Document.read_of_tokens (by decide +kernel)
  have unread : Document.read "gone" = none := by
    rw [← Option.isNone_iff_eq_none]
    decide +kernel
  have told : ofResponse 500 "gone" = .server 500 "gone" := by
    decide +kernel
  have untold : ofResponse 500 mangled = .server 500 mangled := by
    decide +kernel
  refine ⟨⟨_, held, rfl⟩, by decide, unread, told, untold, ?_⟩
  rw [told, untold]
  decide

end MeetingRoom.Meeting.Fault
