import MeetingRoom.Document.RoundTrip
import MeetingRoom.Meeting.Detail
import MeetingRoom.Meeting.Pass
import MeetingRoom.Proofs.Records

/-!
What is written of meetings and passes. A record is written out in full: as an object with all of its
keys, each of them once and in their order, and with nothing else. Whatever the form was that it was
read from, what is written of it reads as the same record.
-/

namespace MeetingRoom

namespace Document

/-! ### Values -/

theorem word?_ofWord (word : UInt32) : word? (ofWord word) = some word := by
  rw [ofWord, word?, dif_pos word.toNat_lt]
  rfl

theorem orNull?_ofTextOrNull (text? : Option String) :
    Slot.orNull? Document.text? (ofTextOrNull text?) = some text? := by
  cases text? <;> rfl

theorem list?_map {Value : Type} {read : Document → Option Value} {write : Value → Document}
    (back : ∀ value, read (write value) = some value) (values : List Value) :
    list? read (.array (values.map write)) = some values := by
  rw [list?]
  induction values with
  | nil => rfl
  | cons value rest ih =>
      rw [List.map_cons, List.mapM_cons, back, ih]
      rfl

theorem isComplete_ofTextOrNull (text? : Option String) :
    (ofTextOrNull text?).isComplete = true := by
  cases text? <;> rfl

theorem itemsComplete_map {Value : Type} {write : Value → Document}
    (complete : ∀ value, (write value).isComplete = true) (values : List Value) :
    itemsComplete (values.map write) = true := by
  induction values with
  | nil => rfl
  | cons value rest ih =>
      rw [List.map_cons, itemsComplete, complete, ih]
      rfl

end Document

namespace Meeting

open Document

variable {old new : Document}

/-! ### Parts of a meeting -/

namespace Summary

def fields : List Field :=
  [.plain "id" none, .plain "title" none, .plain "description" (some (.text "")),
    .plain "startTime" none, .plain "durationMinutes" none, .plain "voiceProfile" (some (.text "")),
    .plain "status" none, .plain "visibility" (some .null), .plain "hostUserId" (some .null)]

theorem ofDocument?_of_rewords (rewords : Rewords fields old new) :
    ofDocument? old = ofDocument? new := by
  refine rewords.bind_slots? (by decide) ?_
  rintro _ _ ⟨id, title, description, startTime, minutes, voice, status, visibility, hostId, _ | _⟩
  simp only [id.plain_eq, title.plain_eq, description.text_eq, startTime.plain_eq, minutes.plain_eq,
    voice.text_eq, status.plain_eq, visibility.textOrNull_eq, hostId.textOrNull_eq]

theorem ofDocument?_toDocument (summary : Summary) :
    ofDocument? summary.toDocument = some summary := by
  rw [ofDocument?, toDocument, slots?_of_record (by decide) rfl]
  simp [Slot.required?, Slot.defaulted?, text?, word?_ofWord, orNull?_ofTextOrNull]

theorem isComplete_toDocument (summary : Summary) : summary.toDocument.isComplete = true := by
  simp [toDocument, isComplete, membersComplete, ofWord, isComplete_ofTextOrNull]

end Summary

namespace AgendaItem

def fields : List Field :=
  [.plain "id" none, .plain "title" none, .plain "description" (some (.text "")),
    .plain "durationMinutes" none]

theorem ofDocument?_of_rewords (rewords : Rewords fields old new) :
    ofDocument? old = ofDocument? new := by
  refine rewords.bind_slots? (by decide) ?_
  rintro _ _ ⟨id, title, description, minutes, _ | _⟩
  simp only [id.plain_eq, title.plain_eq, description.text_eq, minutes.plain_eq]

theorem ofDocument?_toDocument (item : AgendaItem) : ofDocument? item.toDocument = some item := by
  rw [ofDocument?, toDocument, slots?_of_record (by decide) rfl]
  simp [Slot.required?, Slot.defaulted?, text?, word?_ofWord]

theorem isComplete_toDocument (item : AgendaItem) : item.toDocument.isComplete = true := by
  simp [toDocument, isComplete, membersComplete, ofWord]

end AgendaItem

namespace Guest

def fields : List Field :=
  [.plain "id" none, .plain "name" none, .plain "role" (some (.text "")),
    .plain "avatarUrl" (some (.text ""))]

theorem ofDocument?_of_rewords (rewords : Rewords fields old new) :
    ofDocument? old = ofDocument? new := by
  refine rewords.bind_slots? (by decide) ?_
  rintro _ _ ⟨id, name, role, avatar, _ | _⟩
  simp only [id.plain_eq, name.plain_eq, role.text_eq, avatar.text_eq]

theorem ofDocument?_toDocument (guest : Guest) : ofDocument? guest.toDocument = some guest := by
  rw [ofDocument?, toDocument, slots?_of_record (by decide) rfl]
  rfl

theorem isComplete_toDocument (guest : Guest) : guest.toDocument.isComplete = true := rfl

end Guest

/-! ### Meetings -/

namespace Detail

def ofText? (text : String) : Option Detail := (Document.read text).bind ofDocument?

def text (detail : Detail) : String := detail.toDocument.render

/-- Records in a meeting may be worded in many ways as well. -/
def fields : List Field :=
  [.record "summary" (Rewords Summary.fields), .records "agenda" (Rewords AgendaItem.fields),
    .records "participants" (Rewords Guest.fields), .plain "notes" (some (.text ""))]

theorem ofDocument?_of_rewords (rewords : Rewords fields old new) :
    ofDocument? old = ofDocument? new := by
  refine rewords.bind_slots? (by decide) ?_
  rintro _ _ ⟨summary, agenda, guests, notes, _ | _⟩
  simp only [summary.record_eq fun _old _new => Summary.ofDocument?_of_rewords,
    agenda.records_eq fun _old _new => AgendaItem.ofDocument?_of_rewords,
    guests.records_eq fun _old _new => Guest.ofDocument?_of_rewords, notes.text_eq]

def IsFull (document : Document) : Prop :=
  ∃ summary agenda guests notes,
    document = .object
      [(some "summary", summary), (some "agenda", .array agenda),
        (some "participants", .array guests), (some "notes", notes)] ∧
      summary.IsRecord Summary.keys ∧ (∀ item ∈ agenda, item.IsRecord AgendaItem.keys) ∧
        ∀ guest ∈ guests, guest.IsRecord Guest.keys

theorem ofDocument?_toDocument (detail : Detail) :
    ofDocument? detail.toDocument = some detail := by
  rw [ofDocument?, toDocument, slots?_of_record (by decide) rfl]
  simp [Slot.required?, Slot.defaulted?, text?, Summary.ofDocument?_toDocument,
    list?_map AgendaItem.ofDocument?_toDocument, list?_map Guest.ofDocument?_toDocument]

theorem isComplete_toDocument (detail : Detail) : detail.toDocument.isComplete = true := by
  simp [toDocument, isComplete, membersComplete, Summary.isComplete_toDocument,
    itemsComplete_map AgendaItem.isComplete_toDocument,
    itemsComplete_map Guest.isComplete_toDocument]

theorem read_text (detail : Detail) : Document.read detail.text = some detail.toDocument :=
  read_render detail.isComplete_toDocument

theorem ofText?_text (detail : Detail) : ofText? detail.text = some detail := by
  rw [ofText?, read_text]
  exact ofDocument?_toDocument detail

theorem isFull_toDocument (detail : Detail) : IsFull detail.toDocument := by
  refine ⟨_, _, _, _, rfl, ⟨_, rfl, rfl⟩, ?_, ?_⟩
  · intro document member
    obtain ⟨item, _listed, rfl⟩ := List.mem_map.mp member
    exact ⟨_, rfl, rfl⟩
  · intro document member
    obtain ⟨guest, _listed, rfl⟩ := List.mem_map.mp member
    exact ⟨_, rfl, rfl⟩

end Detail

/-! ### Passes -/

namespace Relay

def fields : List Field := [.plain "url" none, .plain "username" none, .plain "password" none]

theorem ofDocument?_of_rewords (rewords : Rewords fields old new) :
    ofDocument? old = ofDocument? new := by
  refine rewords.bind_slots? (by decide) ?_
  rintro _ _ ⟨url, username, password, _ | _⟩
  simp only [url.plain_eq, username.plain_eq, password.plain_eq]

theorem ofDocument?_toDocument (relay : Relay) : ofDocument? relay.toDocument = some relay := by
  rw [ofDocument?, toDocument, slots?_of_record (by decide) rfl]
  rfl

end Relay

namespace Pass

def ofText? (text : String) : Option Pass := (Document.read text).bind ofDocument?

def text (pass : Pass) : String := pass.toDocument.render

def fields : List Field :=
  [.plain "meetingId" none, .plain "participantId" none, .plain "webRtcToken" none,
    .plain "aiRealtimeToken" none, .plain "voiceSynthToken" none, .plain "expiresAt" none,
    .record "turnCredentials" (Rewords Relay.fields), .plain "livekitToken" (some .null),
    .plain "livekitUrl" (some .null)]

theorem ofDocument?_of_rewords (rewords : Rewords fields old new) :
    ofDocument? old = ofDocument? new := by
  refine rewords.bind_slots? (by decide) ?_
  rintro _ _ ⟨meetingId, participantId, webRtcToken, aiToken, voiceToken, expiresAt, relay,
    mediaToken, mediaUrl, _ | _⟩
  simp only [meetingId.plain_eq, participantId.plain_eq, webRtcToken.plain_eq, aiToken.plain_eq,
    voiceToken.plain_eq, expiresAt.plain_eq,
    relay.record_eq fun _old _new => Relay.ofDocument?_of_rewords, mediaToken.textOrNull_eq,
    mediaUrl.textOrNull_eq]

def IsFull (document : Document) : Prop :=
  document.IsRecord keys ∧ ∃ members relay, document = .object members ∧
    (some "turnCredentials", relay) ∈ members ∧ relay.IsRecord Relay.keys

theorem ofDocument?_toDocument (pass : Pass) : ofDocument? pass.toDocument = some pass := by
  rw [ofDocument?, toDocument, slots?_of_record (by decide) rfl]
  simp [Slot.required?, Slot.defaulted?, text?, Relay.ofDocument?_toDocument,
    orNull?_ofTextOrNull]

theorem isComplete_toDocument (pass : Pass) : pass.toDocument.isComplete = true := by
  simp [toDocument, Relay.toDocument, isComplete, membersComplete, isComplete_ofTextOrNull]

theorem read_text (pass : Pass) : Document.read pass.text = some pass.toDocument :=
  read_render pass.isComplete_toDocument

theorem ofText?_text (pass : Pass) : ofText? pass.text = some pass := by
  rw [ofText?, read_text]
  exact ofDocument?_toDocument pass

theorem isFull_toDocument (pass : Pass) : IsFull pass.toDocument :=
  ⟨⟨_, rfl, rfl⟩, _, pass.relay.toDocument, rfl, by simp, ⟨_, rfl, rfl⟩⟩

end Pass

/-- What is written of a meeting or of a pass reads as the same one, so a text that is read, written
and read again gives what it gave at first, if anything. In between it is written out in full, as
objects with all their keys. Wordings of a text read alike: nothing changes if a key is dropped that
nobody asked for, if a default is written out, or if an array becomes an object. -/
theorem written_reads_back :
    (∀ detail : Detail, Detail.ofText? detail.text = some detail) ∧
    (∀ pass : Pass, Pass.ofText? pass.text = some pass) ∧
    (∀ text, ((Detail.ofText? text).map Detail.text).bind Detail.ofText? = Detail.ofText? text) ∧
    (∀ text, ((Pass.ofText? text).map Pass.text).bind Pass.ofText? = Pass.ofText? text) ∧
    (∀ detail : Detail, ∃ document, Document.read detail.text = some document ∧
      Detail.IsFull document) ∧
    (∀ pass : Pass, ∃ document, Document.read pass.text = some document ∧
      Pass.IsFull document) ∧
    (∀ text other, RewordsText Detail.fields text other →
      Detail.ofText? text = Detail.ofText? other) ∧
    ∀ text other, RewordsText Pass.fields text other →
      Pass.ofText? text = Pass.ofText? other := by
  refine ⟨Detail.ofText?_text, Pass.ofText?_text, ?_, ?_, ?_, ?_, ?_, ?_⟩
  · intro text
    cases accepted : Detail.ofText? text with
    | none => rfl
    | some detail => exact detail.ofText?_text
  · intro text
    cases accepted : Pass.ofText? text with
    | none => rfl
    | some pass => exact pass.ofText?_text
  · intro detail
    exact ⟨detail.toDocument, detail.read_text, detail.isFull_toDocument⟩
  · intro pass
    exact ⟨pass.toDocument, pass.read_text, pass.isFull_toDocument⟩
  · intro text other rewords
    exact rewords.bind_read Detail.ofDocument?_of_rewords
  · intro text other rewords
    exact rewords.bind_read Pass.ofDocument?_of_rewords

def briefText : String := "\x7b\"summary\":[\"m-1\",\"Intro\",\"\",\"\",5,\"\",\"over\"]\x7d"

def chattyText : String :=
  "\x7b\"room\":7,\"summary\":[\"m-1\",\"Intro\",\"\",\"\",5,\"\",\"over\"]\x7d"

theorem chatty_reads_as_brief :
    RewordsText Detail.fields chattyText briefText ∧
      Detail.ofText? chattyText = Detail.ofText? briefText ∧
      (Detail.ofText? briefText).map Detail.text =
        some ("\x7b\"summary\":\x7b\"id\":\"m-1\",\"title\":\"Intro\",\"description\":\"\"," ++
          "\"startTime\":\"\",\"durationMinutes\":5,\"voiceProfile\":\"\",\"status\":\"over\"," ++
          "\"visibility\":null,\"hostUserId\":null\x7d,\"agenda\":[],\"participants\":[]," ++
          "\"notes\":\"\"\x7d") := by
  let values : Document :=
    .array [.text "m-1", .text "Intro", .text "", .text "", .natural 5, .text "", .text "over"]
  have chatty : Document.read chattyText =
      some (.object [(some "room", .natural 7), (some "summary", values)]) :=
    Document.read_of_tokens (by decide +kernel)
  have brief : Document.read briefText = some (.object [(some "summary", values)]) :=
    Document.read_of_tokens (by decide +kernel)
  have rewords : RewordsText Detail.fields chattyText briefText := by
    refine ⟨_, _, chatty, brief, @Rewords.unknown _ [] _ "room" _ ?_⟩
    decide
  obtain ⟨_back, _passBack, _again, _passAgain, _full, _passFull, alike, _passAlike⟩ :=
    written_reads_back
  exact ⟨rewords, alike _ _ rewords, by decide +kernel⟩

end Meeting

end MeetingRoom
