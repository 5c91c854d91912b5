import MeetingRoom.Meeting.Detail
import MeetingRoom.Proofs.Credentials
import MeetingRoom.Proofs.Margins

/-!
How a voice is written. Many texts say the same voice: blanks may stand around the name and around
the mood, and behind the name a separator with only blanks after it changes nothing. What is read is
always clean, and a clean voice has a text of its own that reads back as this voice. A text says no
voice exactly if there are only blanks in front of its first separator.
-/

namespace MeetingRoom

/-! ### Parts of a trimmed text -/

namespace Text

theorem mem_of_mem_trim {text : String} {char : Char} (member : char ∈ (trim text).toList) :
    char ∈ text.toList := by
  rw [toList_trim] at member
  have front := List.rdropWhile_prefix isBlank (text.toList.dropWhile isBlank)
  exact (List.dropWhile_suffix isBlank).mem (front.mem member)

theorem content?_of_margins {front text back : String} (blankFront : allBlank front = true)
    (neat : Neat text) (blankBack : allBlank back = true) :
    content? (front ++ text ++ back) = some text := by
  have trimmed : trim (front ++ text ++ back) = text :=
    (trim_of_margins blankFront blankBack text).trans neat.trim_eq
  refine content?_eq_some_iff.mpr ⟨?_, trimmed.symm⟩
  apply Bool.eq_false_iff.mpr
  intro blank
  rw [← trim_eq_empty_iff, trimmed] at blank
  exact neat.filled blank

end Text

namespace Voice

/-! ### Texts divided at the first separator -/

/-- The text has a front without separators, and behind it nothing, or a separator and a back. -/
inductive Divides : String → String → Option String → Prop where
  | whole {front : String} (uncut : separator ∉ front.toList) : Divides front front none
  | parted {front : String} (uncut : separator ∉ front.toList) (back : String) :
      Divides (front ++ "·" ++ back) front (some back)

variable {text front : String} {back? : Option String} {voice : Voice}

theorem toList_parted (front back : String) :
    (front ++ "·" ++ back).toList = front.toList ++ separator :: back.toList := by
  rw [String.toList_append, String.toList_append, List.append_assoc]
  rfl

theorem exists_divides (text : String) : ∃ front back?, Divides text front back? := by
  by_cases held : separator ∈ text.toList
  · obtain ⟨front, back, same, uncut⟩ := List.eq_append_cons_of_mem held
    have joined : text = String.ofList front ++ "·" ++ String.ofList back := by
      apply String.toList_inj.mp
      rw [toList_parted, String.toList_ofList, String.toList_ofList, same]
    rw [joined]
    refine ⟨_, _, .parted ?_ (String.ofList back)⟩
    rwa [String.toList_ofList]
  · exact ⟨text, none, .whole held⟩

theorem Divides.uncut (divides : Divides text front back?) : separator ∉ front.toList := by
  cases divides with
  | whole uncut => exact uncut
  | parted uncut back => exact uncut

theorem Divides.cut_eq (divides : Divides text front back?) :
    cut text.toList = (front.toList, back?.map String.toList) := by
  have passes : ∀ char ∈ front.toList, decide (char ≠ separator) = true := by
    intro char member
    apply decide_eq_true
    rintro rfl
    exact divides.uncut member
  cases divides with
  | whole uncut =>
      rw [cut, List.takeWhile_eq_self_iff.mpr passes, List.dropWhile_eq_nil_iff.mpr passes]
      rfl
  | parted uncut back =>
      rw [cut, toList_parted, Text.takeWhile_append_cons passes (by decide),
        List.dropWhile_append_of_pos passes, List.dropWhile_cons_of_neg (by decide)]
      rfl

/-- Front and back are read on their own, and blank ones count for nothing. -/
theorem Divides.ofText?_eq (divides : Divides text front back?) :
    ofText? text =
      (Text.content? front).map fun name => { name := name, mood := back?.bind Text.content? } := by
  rw [ofText?, divides.cut_eq]
  cases back? <;> simp only [String.ofList_toList, Option.map_none, Option.map_some,
    Option.bind_none, Option.bind_some]

theorem Divides.ofText?_eq_none_iff (divides : Divides text front back?) :
    ofText? text = none ↔ Text.allBlank front = true := by
  rw [divides.ofText?_eq, Option.map_eq_none_iff, Text.content?_eq_none_iff]

/-! ### Clean voices -/

structure Clean (voice : Voice) : Prop where
  name : Text.Neat voice.name
  uncut : separator ∉ voice.name.toList
  mood : ∀ mood, voice.mood = some mood → Text.Neat mood

/-- Trimmed, what is in front of the first separator is the name, and what is behind it is the mood,
if anything is left of it. -/
def Says (text : String) (voice : Voice) : Prop :=
  ∃ front back?, Divides text front back? ∧ voice.name = Text.trim front ∧
    voice.mood = back?.bind Text.content?

theorem says_of_ofText? (read : ofText? text = some voice) : Says text voice := by
  obtain ⟨front, back?, divides⟩ := exists_divides text
  rw [divides.ofText?_eq] at read
  obtain ⟨name, content, rfl⟩ := Option.map_eq_some_iff.mp read
  exact ⟨front, back?, divides, (Text.content?_eq_some_iff.mp content).2, rfl⟩

theorem clean_of_ofText? (read : ofText? text = some voice) : voice.Clean := by
  obtain ⟨front, back?, divides, named, moody⟩ := says_of_ofText? read
  refine ⟨neat_name_ofText? read, ?_, ?_⟩
  · rw [named]
    exact fun member => divides.uncut (Text.mem_of_mem_trim member)
  · intro mood given
    rw [moody] at given
    obtain ⟨back, _behind, content⟩ := Option.bind_eq_some_iff.mp given
    exact Text.neat_of_content? content

/-- The text of a clean voice is divided behind the name, with a blank on both sides. -/
theorem ofText?_text (clean : voice.Clean) : ofText? voice.text = some voice := by
  have blank : Text.allBlank " " = true := by decide
  obtain ⟨name, mood?⟩ := voice
  cases mood? with
  | none =>
      have named : Text.content? name = some name :=
        Text.content?_eq_some_iff.mpr ⟨clean.name.not_allBlank, clean.name.trim_eq.symm⟩
      have divides : Divides name name none := .whole clean.uncut
      change ofText? name = _
      rw [divides.ofText?_eq, named]
      rfl
  | some mood =>
      have named : Text.content? (name ++ " ") = some name := by
        have padded : Text.content? ("" ++ name ++ " ") = some name :=
          Text.content?_of_margins rfl clean.name blank
        rwa [String.empty_append] at padded
      have felt : Text.content? (" " ++ mood) = some mood := by
        have padded : Text.content? (" " ++ mood ++ "") = some mood :=
          Text.content?_of_margins blank (clean.mood mood rfl) rfl
        rwa [String.append_empty] at padded
      have uncut : separator ∉ (name ++ " ").toList := by
        rw [String.toList_append]
        intro member
        rcases List.mem_append.mp member with inName | inBlank
        · exact clean.uncut inName
        · exact absurd inBlank (by decide)
      have written : name ++ " · " ++ mood = name ++ " " ++ "·" ++ (" " ++ mood) := by
        simp only [String.append_assoc]
        rfl
      change ofText? (name ++ " · " ++ mood) = _
      rw [written, (Divides.parted uncut (" " ++ mood)).ofText?_eq, named, Option.bind_some, felt]
      rfl

end Voice

/-! ### Voices of meetings -/

theorem Voice.ofText?_of_blank {text : String} (blank : Text.allBlank text = true) :
    ofText? text = none := by
  obtain ⟨front, back?, divides⟩ := exists_divides text
  refine divides.ofText?_eq_none_iff.mpr ?_
  rw [Text.allBlank] at blank ⊢
  cases divides with
  | whole uncut => exact blank
  | parted uncut back =>
      rw [toList_parted, List.all_append] at blank
      exact (Bool.and_eq_true_iff.mp blank).1

variable {Remote : Type}

theorem Session.setVoice_voice? (session : Session Remote) (detail : Meeting.Detail) :
    session.setVoice detail.voice? =
      { session with voice := Voice.ofText? detail.summary.voice } := by
  rw [setVoice, Meeting.Detail.voice?]
  split
  · rename_i blank
    rw [Voice.ofText?_of_blank blank]
    rfl
  · rfl

/-- A voice that is read from a text is the one that the text says, its name is neither blank nor cut
by a separator, and neither its name nor its mood has a blank end; and the text of the voice itself
reads back. A text says no voice exactly if there are only blanks up to its first separator, or to
its end if there is none. And a session that is given the voice of a meeting has just the one that
is read from the text in the meeting. -/
theorem Voice.voices_have_normal_form (session : Session Remote) :
    (∀ text voice, ofText? text = some voice →
      voice.Clean ∧ Says text voice ∧ ofText? voice.text = some voice) ∧
    (∀ text, ofText? text = none ↔
      ∃ front back?, Divides text front back? ∧ Text.allBlank front = true) ∧
    ∀ detail : Meeting.Detail, session.setVoice detail.voice? =
      { session with voice := ofText? detail.summary.voice } := by
  refine ⟨?_, ?_, session.setVoice_voice?⟩
  · intro text voice read
    have clean := clean_of_ofText? read
    exact ⟨clean, says_of_ofText? read, ofText?_text clean⟩
  · intro text
    constructor
    · intro unread
      obtain ⟨front, back?, divides⟩ := exists_divides text
      exact ⟨front, back?, divides, divides.ofText?_eq_none_iff.mp unread⟩
    · rintro ⟨front, back?, divides, blank⟩
      exact divides.ofText?_eq_none_iff.mpr blank

def Meeting.namelessDetail : Meeting.Detail :=
  { summary :=
      { id := "m-1", title := "Standup", description := "", startTime := "09:00", minutes := 15
        voice := "\u3000· Calm", status := "scheduled", visibility := none, hostId := none }
    agenda := []
    guests := []
    notes := "" }

/-- Behind the first separator another one is part of the mood. -/
theorem Voice.second_separator_is_in_mood :
    ofText? " Aurora\u2003··Calm\n" = some { name := "Aurora", mood := some "·Calm" } ∧
      Says " Aurora\u2003··Calm\n" { name := "Aurora", mood := some "·Calm" } ∧
      ofText? "Aurora · ·Calm" = some { name := "Aurora", mood := some "·Calm" } ∧
      ofText? "\u3000· Calm" = none ∧
      (Session.new : Session Unit).setVoice Meeting.namelessDetail.voice? = Session.new := by
  obtain ⟨reads, unread, given⟩ := voices_have_normal_form (Session.new : Session Unit)
  have read : ofText? " Aurora\u2003··Calm\n" =
      some { name := "Aurora", mood := some "·Calm" } := by decide
  obtain ⟨_clean, said, again⟩ := reads _ _ read
  have divides : Divides ("\u3000" ++ "·" ++ " Calm") "\u3000" (some " Calm") :=
    .parted (by decide) " Calm"
  have nameless : ofText? "\u3000· Calm" = none :=
    (unread _).mpr ⟨"\u3000", some " Calm", divides, by decide⟩
  refine ⟨read, said, again, nameless, ?_⟩
  rw [given, show Meeting.namelessDetail.summary.voice = "\u3000· Calm" from rfl, nameless]
  rfl

end MeetingRoom
