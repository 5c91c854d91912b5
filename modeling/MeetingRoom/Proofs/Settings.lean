import Mathlib.Data.List.Induction
import MeetingRoom.Config
import MeetingRoom.Proofs.Ends
import MeetingRoom.Proofs.Placement

/-!
What variables settle. A number is read from a variable if the variable is set to digits that denote
it, with blanks around them and a plus sign in front or not, and if the number has 64 bits. Whatever
else a variable holds gives the default, with a warning unless there are only blanks. A capacity is
held twice, when it is read and when participants are placed, and the second time changes nothing.
-/

namespace MeetingRoom

/-! ### Digits -/

namespace Text

/-- Digits denote a number: what is in front of a digit counts ten times. -/
inductive Denote : List Char → Nat → Prop where
  | single {digit : Char} (isDigit : digit.isDigit = true) :
      Denote [digit] (digit.toNat - '0'.toNat)
  | append {digits : List Char} {number : Nat} (front : Denote digits number) {digit : Char}
      (isDigit : digit.isDigit = true) :
      Denote (digits ++ [digit]) (10 * number + (digit.toNat - '0'.toNat))

variable {digits : List Char} {number : Nat}

theorem Denote.ne_nil (denote : Denote digits number) : digits ≠ [] := by
  cases denote with
  | single isDigit => exact List.cons_ne_nil _ []
  | append front isDigit => exact List.append_ne_nil_of_right_ne_nil _ (List.cons_ne_nil _ [])

theorem Denote.all_isDigit (denote : Denote digits number) :
    ∀ digit ∈ digits, digit.isDigit = true := by
  induction denote with
  | single isDigit => exact List.forall_mem_singleton.mpr isDigit
  | append front isDigit ih =>
      exact List.forall_mem_append.mpr ⟨ih, List.forall_mem_singleton.mpr isDigit⟩

theorem ofDigitChars_concat (front : List Char) (digit : Char) :
    Nat.ofDigitChars 10 (front ++ [digit]) 0 =
      10 * Nat.ofDigitChars 10 front 0 + (digit.toNat - '0'.toNat) := by
  rw [Nat.ofDigitChars_append, Nat.ofDigitChars_cons, Nat.ofDigitChars_nil]

theorem Denote.ofDigitChars_eq (denote : Denote digits number) :
    Nat.ofDigitChars 10 digits 0 = number := by
  induction denote with
  | single isDigit => rw [Nat.ofDigitChars_cons, Nat.ofDigitChars_nil, Nat.mul_zero, Nat.zero_add]
  | append front isDigit ih => rw [ofDigitChars_concat, ih]

theorem denote_ofDigitChars (present : digits ≠ [])
    (all : ∀ digit ∈ digits, digit.isDigit = true) :
    Denote digits (Nat.ofDigitChars 10 digits 0) := by
  induction digits using List.reverseRecOn with
  | nil => exact absurd rfl present
  | append_singleton front digit ih =>
      obtain ⟨allFront, last⟩ := List.forall_mem_append.mp all
      have isDigit := last digit (List.mem_singleton_self digit)
      rw [ofDigitChars_concat]
      by_cases alone : front = []
      · subst alone
        rw [Nat.ofDigitChars_nil, Nat.mul_zero, Nat.zero_add]
        exact .single isDigit
      · exact .append (ih alone allFront) isDigit

theorem number?_eq_some_iff_denote : number? digits = some number ↔ Denote digits number := by
  have read : number? digits = some number ↔
      digits ≠ [] ∧ (∀ digit ∈ digits, digit.isDigit = true) ∧
        Nat.ofDigitChars 10 digits 0 = number := by
    rw [number?]
    simp [and_assoc]
  rw [read]
  constructor
  · rintro ⟨present, all, rfl⟩
    exact denote_ofDigitChars present all
  · intro denote
    exact ⟨denote.ne_nil, denote.all_isDigit, denote.ofDigitChars_eq⟩

end Text

/-! ### Capacities -/

namespace Stage

variable {Remote : Type}

theorem holdCapacity_holdCapacity (capacity : Nat) :
    holdCapacity (holdCapacity capacity) = holdCapacity capacity := by
  rw [holdCapacity_eq, holdCapacity_eq]
  omega

theorem compose_holdCapacity (participants : List (Participant Remote)) (voice? : Option Voice)
    (screen : Screen) (capacity : Nat) :
    compose participants voice? screen (holdCapacity capacity) =
      compose participants voice? screen capacity := by
  rw [compose, holdCapacity_holdCapacity, ← compose]

end Stage

theorem Duration.ofMillis_inj {millis other : Nat} :
    ofMillis millis = ofMillis other ↔ millis = other := by
  rw [ofMillis, ofMillis, Duration.mk.injEq]
  omega

namespace Config

/-! ### Numbers in variables -/

/-- Trimmed, the text is digits that denote the number, or a plus sign and such digits. -/
def Spells (text : String) (number : Nat) : Prop :=
  number < UInt64.size ∧ ∃ digits, Text.Denote digits number ∧
    ((Text.trim text).toList = digits ∨ (Text.trim text).toList = '+' :: digits)

def Gives (lookup : String → Option String) (name : String) (number : Nat) : Prop :=
  ∃ text, lookup name = some text ∧ Spells text number

/-- The variable is set to a text that spells no number, and that is not just blanks. -/
structure Puzzles (lookup : String → Option String) (name text : String) : Prop where
  set : lookup name = some text
  filled : Text.allBlank text = false
  unspelt : ∀ number, ¬Spells text number

def IsVoid (text? : Option String) : Prop := ∀ text, text? = some text → Text.allBlank text = true

variable {lookup other : String → Option String} {name text : String} {number standard : Nat}

theorem unsigned_eq {chars digits : List Char} (denote : Text.Denote digits number)
    (written : chars = digits ∨ chars = '+' :: digits) : unsigned chars = digits := by
  rcases written with rfl | rfl
  · unfold unsigned
    split
    · -- A plus sign is no digit, so digits are never taken for a sign and fewer digits.
      exact absurd (denote.all_isDigit '+' List.mem_cons_self) (by decide)
    · rfl
  · rfl

theorem eq_unsigned_or (chars : List Char) :
    chars = unsigned chars ∨ chars = '+' :: unsigned chars := by
  unfold unsigned
  split
  · exact Or.inr rfl
  · exact Or.inl rfl

theorem number?_eq_some_iff_spells : number? text = some number ↔ Spells text number := by
  rw [number?, Spells]
  constructor
  · intro read
    obtain ⟨value, digits, bounded⟩ := Option.bind_eq_some_iff.mp read
    split at bounded
    · rename_i small
      cases bounded
      exact ⟨small, _, Text.number?_eq_some_iff_denote.mp digits, eq_unsigned_or _⟩
    · cases bounded
  · rintro ⟨small, digits, denote, written⟩
    rw [unsigned_eq denote written, Text.number?_eq_some_iff_denote.mpr denote]
    exact if_pos small

theorem number?_eq_none_iff_spells : number? text = none ↔ ∀ number, ¬Spells text number := by
  rw [Option.eq_none_iff_forall_ne_some]
  exact forall_congr' fun number => not_congr number?_eq_some_iff_spells

theorem Spells.not_allBlank (spells : Spells text number) : Text.allBlank text = false := by
  obtain ⟨_small, digits, denote, written⟩ := spells
  apply Bool.eq_false_iff.mpr
  intro blank
  rw [Text.trim_eq_empty_iff.mpr blank] at written
  rcases written with rfl | same
  · exact denote.ne_nil rfl
  · cases same

theorem value?_eq_some_iff :
    value? lookup name = some text ↔ lookup name = some text ∧ Text.allBlank text = false := by
  rw [value?, Option.filter_eq_some_iff, Bool.not_eq_true']

theorem bind_value?_eq_some_iff :
    (value? lookup name).bind number? = some number ↔ Gives lookup name number := by
  rw [Option.bind_eq_some_iff]
  constructor
  · rintro ⟨text, set, read⟩
    exact ⟨text, (value?_eq_some_iff.mp set).1, number?_eq_some_iff_spells.mp read⟩
  · rintro ⟨text, set, spells⟩
    exact ⟨text, value?_eq_some_iff.mpr ⟨set, spells.not_allBlank⟩,
      number?_eq_some_iff_spells.mpr spells⟩

theorem numberOr_of_gives (gives : Gives lookup name number) :
    numberOr standard (value? lookup name) = number := by
  rw [numberOr, bind_value?_eq_some_iff.mpr gives, Option.getD_some]

theorem numberOr_of_nothing (nothing : ∀ number, ¬Gives lookup name number) :
    numberOr standard (value? lookup name) = standard := by
  have unread : (value? lookup name).bind number? = none :=
    Option.eq_none_iff_forall_ne_some.mpr fun number read =>
      nothing number (bind_value?_eq_some_iff.mp read)
  rw [numberOr, unread, Option.getD_none]

/-- A variable that gives a number settles it, and otherwise the default is taken. -/
theorem numberOr_eq_iff :
    numberOr standard (value? lookup name) = number ↔
      Gives lookup name number ∨ number = standard ∧ ∀ other, ¬Gives lookup name other := by
  constructor
  · rintro rfl
    by_cases given : ∃ requested, Gives lookup name requested
    · obtain ⟨requested, gives⟩ := given
      rw [numberOr_of_gives gives]
      exact Or.inl gives
    · have nothing := not_exists.mp given
      exact Or.inr ⟨numberOr_of_nothing nothing, nothing⟩
  · rintro (gives | ⟨rfl, nothing⟩)
    · exact numberOr_of_gives gives
    · exact numberOr_of_nothing nothing

/-! ### Warnings -/

def outOfRange (requested : Nat) : Journal.Entry :=
  Journal.warn ("COHOST_STAGE_CAPACITY must be between 1 and 2, using " ++
    Text.decimal (max 1 (min requested 2)))

variable {entry : Journal.Entry}

theorem mem_numberJournal_iff :
    entry ∈ numberJournal name (value? lookup name) ↔
      ∃ text, Puzzles lookup name text ∧ entry = unreadable name text := by
  cases set : value? lookup name with
  | none =>
      refine iff_of_false List.not_mem_nil ?_
      rintro ⟨text, puzzling, _same⟩
      rw [value?_eq_some_iff.mpr ⟨puzzling.set, puzzling.filled⟩] at set
      cases set
  | some text =>
      obtain ⟨given, filled⟩ := value?_eq_some_iff.mp set
      have puzzles : ∀ other, Puzzles lookup name other ↔ other = text ∧ number? text = none := by
        intro other
        rw [number?_eq_none_iff_spells]
        constructor
        · intro puzzling
          have same : text = other := Option.some_inj.mp (given.symm.trans puzzling.set)
          subst same
          exact ⟨rfl, puzzling.unspelt⟩
        · rintro ⟨rfl, unspelt⟩
          exact ⟨given, filled, unspelt⟩
      simp only [puzzles, and_assoc, exists_eq_left, numberJournal]
      cases number? text <;> simp

theorem mem_capacityJournal_iff {requested : Nat} :
    entry ∈ capacityJournal requested ↔
      requested ≠ max 1 (min requested 2) ∧ entry = outOfRange requested := by
  have message : outOfRange requested =
      Journal.warn (capacityName ++ " must be between " ++ Text.decimal Layout.minHeads ++
        " and " ++ Text.decimal Layout.maxHeads ++ ", using " ++
        Text.decimal (Stage.holdCapacity requested)) := rfl
  rw [capacityJournal, message, Stage.holdCapacity_eq]
  by_cases same : max 1 (min requested 2) = requested
  · simp [same]
  · simp [same, Ne.symm same]

theorem mem_journal_iff :
    entry ∈ journal lookup ↔
      (∃ name ∈ [timeoutName, capacityName], ∃ text, Puzzles lookup name text ∧
        entry = unreadable name text) ∨
      ∃ requested, Gives lookup capacityName requested ∧ requested ≠ max 1 (min requested 2) ∧
        entry = outOfRange requested := by
  have held : entry ∈ capacityJournal (numberOr Layout.maxHeads (value? lookup capacityName)) ↔
      ∃ requested, Gives lookup capacityName requested ∧ requested ≠ max 1 (min requested 2) ∧
        entry = outOfRange requested := by
    rw [mem_capacityJournal_iff]
    constructor
    · intro warned
      rcases numberOr_eq_iff.mp rfl with gives | ⟨standard, _nothing⟩
      · exact ⟨_, gives, warned⟩
      · -- The default is a capacity that a stage can hold.
        rw [standard] at warned
        exact absurd rfl warned.1
    · rintro ⟨requested, gives, warned⟩
      rwa [numberOr_of_gives gives]
  simp only [journal, List.mem_append, mem_numberJournal_iff, held, List.mem_cons,
    List.not_mem_nil, or_false, exists_eq_or_imp, exists_eq_left]

theorem prefix_toList_append (front back : String) : front.toList <+: (front ++ back).toList := by
  rw [String.toList_append]
  exact List.prefix_append _ _

/-- A warning begins with the name of its variable and with what is wrong. -/
theorem prefix_unreadable (name text : String) :
    (name ++ " must be a number, got ").toList <+: (unreadable name text).message.toList :=
  (prefix_toList_append _ (Text.quoted text)).trans (prefix_toList_append _ "; using the default")

theorem prefix_outOfRange (requested : Nat) :
    (capacityName ++ " must be between ").toList <+: (outOfRange requested).message.toList := by
  have begins : (capacityName ++ " must be between ").toList <+:
      "COHOST_STAGE_CAPACITY must be between 1 and 2, using ".toList := by decide
  exact begins.trans (prefix_toList_append _ _)

theorem ne_of_prefix {entry later : Journal.Entry} {front other : String}
    (begins : front.toList <+: entry.message.toList) (goes : other.toList <+: later.message.toList)
    (apart : ¬front.toList <+: other.toList ∧ ¬other.toList <+: front.toList) : entry ≠ later := by
  rintro rfl
  rcases List.prefix_or_prefix_of_prefix begins goes with inOther | inFront
  · exact apart.1 inOther
  · exact apart.2 inFront

theorem nodup_numberJournal (name : String) (text? : Option String) :
    (numberJournal name text?).Nodup := by
  unfold numberJournal
  split
  · split
    · exact List.nodup_nil
    · exact List.nodup_cons.mpr ⟨nofun, List.nodup_nil⟩
  · exact List.nodup_nil

theorem nodup_capacityJournal (requested : Nat) : (capacityJournal requested).Nodup := by
  unfold capacityJournal
  dsimp only
  split
  · exact List.nodup_nil
  · exact List.nodup_cons.mpr ⟨nofun, List.nodup_nil⟩

theorem nodup_journal (lookup : String → Option String) : (journal lookup).Nodup := by
  have numbers : (numberJournal timeoutName (value? lookup timeoutName) ++
      numberJournal capacityName (value? lookup capacityName)).Nodup := by
    refine List.nodup_append.mpr ⟨nodup_numberJournal _ _, nodup_numberJournal _ _, ?_⟩
    intro entry timeout later capacity
    obtain ⟨text, _puzzles, rfl⟩ := mem_numberJournal_iff.mp timeout
    obtain ⟨other, _puzzles, rfl⟩ := mem_numberJournal_iff.mp capacity
    exact ne_of_prefix (prefix_unreadable _ _) (prefix_unreadable _ _) (by decide)
  refine List.nodup_append.mpr ⟨numbers, nodup_capacityJournal _, ?_⟩
  intro entry number later held
  obtain ⟨_changed, rfl⟩ := mem_capacityJournal_iff.mp held
  rcases List.mem_append.mp number with timeout | capacity
  · obtain ⟨text, _puzzles, rfl⟩ := mem_numberJournal_iff.mp timeout
    exact ne_of_prefix (prefix_unreadable _ _) (prefix_outOfRange _) (by decide)
  · obtain ⟨text, _puzzles, rfl⟩ := mem_numberJournal_iff.mp capacity
    exact ne_of_prefix (prefix_unreadable _ _) (prefix_outOfRange _) (by decide)

/-! ### Blank variables -/

theorem value?_congr (alike : other name = lookup name ∨ IsVoid (other name) ∧ IsVoid (lookup name)) :
    value? other name = value? lookup name := by
  have nothing : ∀ any : String → Option String, IsVoid (any name) → value? any name = none := by
    intro any void
    apply Option.eq_none_iff_forall_ne_some.mpr
    intro text set
    obtain ⟨given, filled⟩ := value?_eq_some_iff.mp set
    rw [void text given] at filled
    cases filled
  rcases alike with same | ⟨voidOther, void⟩
  · rw [value?, value?, same]
  · rw [nothing other voidOther, nothing lookup void]

/-- Whatever the variables are set to, the time to connect is the number that its variable gives, or
ten seconds, and the capacity is the number that its variable gives, held between one and two, or
two. There is one warning for each of these variables whose text, not just blanks, spells no number,
one for a capacity that had to be held, and no other. A variable that is set to blanks is as good as
one that is not set. And a stage of the capacity in the configuration is, for all participants, one
of the capacity that the variable gives. -/
theorem variables_settle_configuration (lookup : String → Option String) :
    (∀ millis, (ofLookup lookup).connectTimeout = Duration.ofMillis millis ↔
      Gives lookup timeoutName millis ∨
        millis = 10000 ∧ ∀ other, ¬Gives lookup timeoutName other) ∧
    ((ofLookup lookup).stageCapacity = 1 ∨ (ofLookup lookup).stageCapacity = 2) ∧
    (∀ requested, Gives lookup capacityName requested →
      (ofLookup lookup).stageCapacity = max 1 (min requested 2)) ∧
    ((∀ requested, ¬Gives lookup capacityName requested) →
      (ofLookup lookup).stageCapacity = 2) ∧
    (journal lookup).Nodup ∧
    (∀ entry, entry ∈ journal lookup ↔
      (∃ name ∈ [timeoutName, capacityName], ∃ text, Puzzles lookup name text ∧
        entry = unreadable name text) ∨
      ∃ requested, Gives lookup capacityName requested ∧ requested ≠ max 1 (min requested 2) ∧
        entry = outOfRange requested) ∧
    (∀ other : String → Option String,
      (∀ name, other name = lookup name ∨ IsVoid (other name) ∧ IsVoid (lookup name)) →
        ofLookup other = ofLookup lookup ∧ journal other = journal lookup) ∧
    ∀ requested, Gives lookup capacityName requested →
      ∀ (Remote : Type) (participants : List (Participant Remote)) (voice? : Option Voice)
        (screen : Screen),
        Stage.compose participants voice? screen (ofLookup lookup).stageCapacity =
          Stage.compose participants voice? screen requested := by
  have capacity : (ofLookup lookup).stageCapacity =
      Stage.holdCapacity (numberOr Layout.maxHeads (value? lookup capacityName)) := rfl
  refine ⟨?_, ?_, ?_, ?_, nodup_journal lookup, fun _ => mem_journal_iff, ?_, ?_⟩
  · intro millis
    exact Duration.ofMillis_inj.trans numberOr_eq_iff
  · rw [capacity, Stage.holdCapacity_eq]
    omega
  · intro requested gives
    rw [capacity, numberOr_of_gives gives, Stage.holdCapacity_eq]
  · intro nothing
    rw [capacity, numberOr_of_nothing nothing]
    rfl
  · intro other alike
    have same : value? other = value? lookup := funext fun name => value?_congr (alike name)
    constructor
    · rw [ofLookup, same, ← ofLookup]
    · rw [journal, same, ← journal]
  · intro requested gives Remote participants voice? screen
    rw [capacity, numberOr_of_gives gives, Stage.compose_holdCapacity]

def oddVariables (name : String) : Option String :=
  if name = timeoutName then some "18446744073709551616"
  else if name = capacityName then some "\u2003+007\n"
  else if name = "COHOST_ACCESS_TOKEN" then some " \t"
  else none

theorem odd_variables_settle_configuration :
    Gives oddVariables capacityName 7 ∧
      (ofLookup oddVariables).connectTimeout = Duration.ofMillis 10000 ∧
      (ofLookup oddVariables).stageCapacity = 2 ∧
      unreadable timeoutName "18446744073709551616" ∈ journal oddVariables ∧
      outOfRange 7 ∈ journal oddVariables ∧
      (ofLookup fun _ => none).stageCapacity = 2 ∧
      (ofLookup fun name => if name = "COHOST_ACCESS_TOKEN" then none else oddVariables name) =
        ofLookup oddVariables ∧
      (∀ participants : List (Participant Unit),
        Stage.compose participants none .tablet (ofLookup oddVariables).stageCapacity =
          Stage.compose participants none .tablet 7) := by
  obtain ⟨timeout, _oneOrTwo, capacity, _default, _once, warnings, blank, plan⟩ :=
    variables_settle_configuration oddVariables
  obtain ⟨_timeout, _oneOrTwo, _capacity, standard, _rest⟩ :=
    variables_settle_configuration fun _ => none
  have gives : Gives oddVariables capacityName 7 := bind_value?_eq_some_iff.mp (by decide)
  have puzzles : Puzzles oddVariables timeoutName "18446744073709551616" :=
    ⟨rfl, by decide, number?_eq_none_iff_spells.mp (by decide)⟩
  refine ⟨gives, (timeout 10000).mpr (Or.inr ⟨rfl, ?_⟩), capacity 7 gives, ?_, ?_, standard ?_, ?_,
    fun participants => plan 7 gives Unit participants none .tablet⟩
  · rintro millis ⟨text, ⟨⟩, spells⟩
    exact puzzles.unspelt millis spells
  · exact (warnings _).mpr (Or.inl ⟨timeoutName, List.mem_cons_self, _, puzzles, rfl⟩)
  · exact (warnings _).mpr (Or.inr ⟨7, gives, by decide, rfl⟩)
  · rintro requested ⟨text, ⟨⟩, _spells⟩
  · refine (blank _ fun name => ?_).1
    by_cases token : name = "COHOST_ACCESS_TOKEN"
    · subst token
      refine Or.inr ⟨nofun, ?_⟩
      rintro _ ⟨⟩
      decide
    · exact Or.inl (if_neg token)

end Config

end MeetingRoom
