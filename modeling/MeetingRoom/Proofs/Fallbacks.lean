import MeetingRoom.Document.RoundTrip
import MeetingRoom.Participant
import MeetingRoom.Proofs.Margins

/-!
What participants show whose metadata hold no object. There is nothing in such metadata for them, so
they show the name that the transport has and the picture of their identity, with one exception: an
array of just two values, each a text or null, is taken for a name and a picture.
-/

namespace MeetingRoom

/-! ### Arrays in the place of objects -/

namespace Document

inductive StandsFor : Document → Option String → Prop where
  | nothing : StandsFor .null none
  | text (chars : String) : StandsFor (.text chars) (some chars)

theorem orNull?_text?_eq_some_iff {document : Document} {text? : Option String} :
    Slot.orNull? Document.text? document = some text? ↔ document.StandsFor text? := by
  constructor
  · intro given
    cases document with
    | null =>
        cases given
        exact .nothing
    | text chars =>
        cases given
        exact .text chars
    | _ => cases given
  · rintro (_ | chars) <;> rfl

end Document

namespace Participant

namespace Metadata

variable {text? : Option String} {metadata : Metadata}

def HoldNoObject (text? : Option String) : Prop :=
  ∀ text, text? = some text →
    Text.allBlank text = true ∨ ∀ members, Document.read text ≠ some (.object members)

def ArePair (text? : Option String) (metadata : Metadata) : Prop :=
  ∃ text name avatar, text? = some text ∧ Document.read text = some (.array [name, avatar]) ∧
    name.StandsFor metadata.name ∧ avatar.StandsFor metadata.avatar

theorem holdNoObject_of_array {text : String} {items : List Document}
    (held : Document.read text = some (.array items)) : HoldNoObject (some text) := by
  rintro _ ⟨⟩
  refine Or.inr fun members same => ?_
  rw [held] at same
  cases same

theorem ofDocument?_pair (name avatar : Document) :
    ofDocument? (.array [name, avatar]) =
      (Document.Slot.orNull? Document.text? name).bind fun name? =>
        (Document.Slot.orNull? Document.text? avatar).bind fun avatar? =>
          some { name := name?, avatar := avatar? } := rfl

theorem ofDocument?_array_eq_some_iff {items : List Document} :
    ofDocument? (.array items) = some metadata ↔
      ∃ name avatar, items = [name, avatar] ∧
        name.StandsFor metadata.name ∧ avatar.StandsFor metadata.avatar := by
  constructor
  · intro read
    match items with
    | [] => cases read
    | [name] =>
        -- Whatever the name is, the picture is cut off.
        obtain ⟨name?, _, cut⟩ := Option.bind_eq_some_iff.mp read
        cases cut
    | [name, avatar] =>
        rw [ofDocument?_pair] at read
        obtain ⟨name?, named, rest⟩ := Option.bind_eq_some_iff.mp read
        obtain ⟨avatar?, pictured, same⟩ := Option.bind_eq_some_iff.mp rest
        cases same
        exact ⟨name, avatar, rfl, Document.orNull?_text?_eq_some_iff.mp named,
          Document.orNull?_text?_eq_some_iff.mp pictured⟩
    | _ :: _ :: _ :: others => cases read
  · rintro ⟨name, avatar, rfl, named, pictured⟩
    rw [ofDocument?_pair, Document.orNull?_text?_eq_some_iff.mpr named,
      Document.orNull?_text?_eq_some_iff.mpr pictured]
    rfl

theorem ofText_of_read {text : String} {document : Document}
    (held : Document.read text = some document) :
    ofText text = (ofDocument? document).getD empty := by
  have shown : Text.allBlank text = false := by
    apply Bool.eq_false_iff.mpr
    intro blank
    rw [Document.read_of_blank blank] at held
    cases held
  rw [ofText, shown, held]
  rfl

theorem ofText_of_unread {text : String} (unread : Document.read text = none) :
    ofText text = empty := by
  rw [ofText, unread]
  split <;> rfl

theorem read_of_pair (pair : ArePair text? metadata) : read text? = metadata := by
  obtain ⟨text, name, avatar, rfl, held, named, pictured⟩ := pair
  have taken := ofDocument?_array_eq_some_iff.mpr ⟨name, avatar, rfl, named, pictured⟩
  change ofText text = metadata
  rw [ofText_of_read held, taken]
  rfl

/-- A pair is all that can be read from anything but an object. -/
theorem read_of_unpaired (noObject : HoldNoObject text?)
    (unpaired : ∀ metadata, ¬ArePair text? metadata) : read text? = empty := by
  cases text? with
  | none => rfl
  | some text =>
      change ofText text = empty
      rcases noObject text rfl with blank | other
      · exact ofText_of_unread (Document.read_of_blank blank)
      · cases held : Document.read text with
        | none => exact ofText_of_unread held
        | some document =>
            rw [ofText_of_read held]
            cases document with
            | object members => exact absurd held (other members)
            | array items =>
                cases taken : ofDocument? (.array items) with
                | none => rfl
                | some metadata =>
                    obtain ⟨name, avatar, rfl, named, pictured⟩ :=
                      ofDocument?_array_eq_some_iff.mp taken
                    exact absurd ⟨text, name, avatar, rfl, held, named, pictured⟩
                      (unpaired metadata)
            | _ => rfl

end Metadata

/-! ### Fallbacks -/

def plainName (transportName : String) : String :=
  if Text.allBlank transportName then "Unknown" else Text.trim transportName

variable {Remote : Type}

structure IsPlain (participant : Participant Remote) (snapshot : Media.Snapshot Remote) : Prop where
  name : participant.name = plainName snapshot.name
  avatar : participant.avatar = fallbackAvatar snapshot.identity

/-- A value that is published changes nothing: there is none, it is blank, or it is, trimmed, what is
there anyway. -/
def AddsNothing (published : Option String) (fallback : String) : Prop :=
  ∀ text, published = some text → Text.allBlank text = true ∨ Text.trim text = fallback

theorem getD_content?_eq_iff {published : Option String} {fallback : String} :
    (published.bind Text.content?).getD fallback = fallback ↔ AddsNothing published fallback := by
  cases published with
  | none => exact ⟨fun _same => nofun, fun _nothing => rfl⟩
  | some text =>
      rw [Option.bind_some, Text.content?]
      constructor
      · intro same other given
        cases given
        cases blank : Text.allBlank text with
        | true => exact Or.inl rfl
        | false =>
            rw [blank] at same
            exact Or.inr same
      · intro adds
        rcases adds text rfl with blank | same
        · rw [if_pos blank]
          rfl
        · split
          · rfl
          · exact same

theorem displayName_eq (metadata : Metadata) (transportName : String) :
    displayName metadata transportName =
      (metadata.name.bind Text.content?).getD (plainName transportName) := by
  rw [displayName, Option.getD_or, plainName, Text.content?]
  congr 1
  split <;> rfl

/-- Whatever pair the metadata of a snapshot are, it adds nothing to what is shown without it. -/
def Metadata.AddNothing (snapshot : Media.Snapshot Remote) : Prop :=
  ∀ metadata, ArePair snapshot.metadata metadata →
    AddsNothing metadata.name (plainName snapshot.name) ∧
      AddsNothing metadata.avatar (fallbackAvatar snapshot.identity)

theorem plain_iff_addNothing {snapshot : Media.Snapshot Remote}
    (noObject : Metadata.HoldNoObject snapshot.metadata) :
    (displayName (Metadata.read snapshot.metadata) snapshot.name = plainName snapshot.name ∧
        displayAvatar (Metadata.read snapshot.metadata) snapshot.identity =
          fallbackAvatar snapshot.identity) ↔
      Metadata.AddNothing snapshot := by
  rw [displayName_eq, displayAvatar, getD_content?_eq_iff, getD_content?_eq_iff]
  constructor
  · intro adds metadata pair
    rwa [Metadata.read_of_pair pair] at adds
  · intro adds
    by_cases paired : ∃ metadata, Metadata.ArePair snapshot.metadata metadata
    · obtain ⟨metadata, pair⟩ := paired
      rw [Metadata.read_of_pair pair]
      exact adds metadata pair
    · rw [Metadata.read_of_unpaired noObject fun metadata pair => paired ⟨metadata, pair⟩]
      exact ⟨nofun, nofun⟩

theorem isPlain_iff {participant : Participant Remote} {snapshot : Media.Snapshot Remote} :
    participant.IsPlain snapshot ↔
      participant.name = plainName snapshot.name ∧
        participant.avatar = fallbackAvatar snapshot.identity :=
  ⟨fun plain => ⟨plain.name, plain.avatar⟩, fun both => ⟨both.1, both.2⟩⟩

/-- If the metadata in a snapshot hold no object, then a participant of any kind who is made from the
snapshot, or whose metadata are refreshed with it, shows the name that the transport has and the
picture of the identity, exactly unless the metadata are an array of two values, each a text or null,
and one of them is not blank and, trimmed, not what is shown anyway. -/
theorem metadata_without_object_ignored_iff {snapshot : Media.Snapshot Remote}
    (noObject : Metadata.HoldNoObject snapshot.metadata) :
    (∀ kind, (ofSnapshot kind snapshot).IsPlain snapshot ↔ Metadata.AddNothing snapshot) ∧
      ∀ participant : Participant Remote,
        (participant.withMetadata snapshot).IsPlain snapshot ↔ Metadata.AddNothing snapshot := by
  have plain := plain_iff_addNothing noObject
  constructor
  · intro kind
    rw [isPlain_iff]
    exact plain
  · intro participant
    rw [isPlain_iff]
    exact plain

def publisher (text : String) : Media.Snapshot Unit :=
  { identity := "u1", name := " jordan ", metadata := some text, audio := true, video := false
    handle := none }

def blankPair : String := "[\"\\u2003\", null]"

theorem blank_pair_ignored :
    Metadata.HoldNoObject (some blankPair) ∧ Metadata.AddNothing (publisher blankPair) ∧
      (ofSnapshot .remote (publisher blankPair)).name = "jordan" ∧
      ((ofSnapshot .own (publisher "")).withMetadata (publisher blankPair)).avatar =
        "https://avatar.vercel.sh/u1" := by
  have held : Document.read blankPair = some (.array [.text "\u2003", .null]) :=
    Document.read_of_tokens (by decide +kernel)
  have noObject := Metadata.holdNoObject_of_array held
  have nothing : Metadata.AddNothing (publisher blankPair) := by
    rintro ⟨name?, avatar?⟩ ⟨text, name, avatar, ⟨⟩, taken, named, pictured⟩
    rw [held] at taken
    cases taken
    cases named
    cases pictured
    refine ⟨?_, nofun⟩
    rintro text ⟨⟩
    exact Or.inl (by decide)
  obtain ⟨made, refreshed⟩ :=
    @metadata_without_object_ignored_iff Unit (publisher blankPair) noObject
  refine ⟨noObject, nothing, ?_, ?_⟩
  · exact ((made .remote).mpr nothing).name.trans (by decide)
  · exact ((refreshed _).mpr nothing).avatar.trans (by decide)

def filledPair : String := "[\"Mallory\",\"https://evil\"]"

/-- An array hands out a name and a picture as an object would. -/
theorem pair_gives_name_and_picture :
    Metadata.HoldNoObject (some filledPair) ∧
      ¬(ofSnapshot .remote (publisher filledPair)).IsPlain (publisher filledPair) ∧
      (ofSnapshot .remote (publisher filledPair)).name = "Mallory" ∧
      (ofSnapshot .remote (publisher filledPair)).avatar = "https://evil" ∧
      ¬((ofSnapshot .own (publisher "")).withMetadata (publisher filledPair)).IsPlain
        (publisher filledPair) := by
  have held : Document.read filledPair =
      some (.array [.text "Mallory", .text "https://evil"]) :=
    Document.read_of_tokens (by decide +kernel)
  have read : Metadata.read (some filledPair) =
      { name := some "Mallory", avatar := some "https://evil" } :=
    Metadata.read_of_pair ⟨_, _, _, rfl, held, .text _, .text _⟩
  have named : displayName (Metadata.read (some filledPair)) " jordan " = "Mallory" := by
    rw [read]
    decide
  have pictured : displayAvatar (Metadata.read (some filledPair)) "u1" = "https://evil" := by
    rw [read]
    decide
  have other : "Mallory" ≠ plainName " jordan " := by decide
  refine ⟨Metadata.holdNoObject_of_array held, ?_, named, pictured, ?_⟩
  · intro plain
    exact other (named.symm.trans plain.name)
  · intro plain
    exact other (named.symm.trans plain.name)

end Participant

end MeetingRoom
