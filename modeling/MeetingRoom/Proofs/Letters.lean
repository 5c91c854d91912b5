import MeetingRoom.Text.Parts
import MeetingRoom.Text.Lowercase

/-!
What the lower case of a text holds. Among all characters, only English letters become English
letters, with two exceptions: the Kelvin sign becomes a k, and the dotted capital I leaves an i with
a dot behind it. So a part that has no k in it and does not end with an i is in the lower case of a
text exactly if it is in the text, whatever the case of its English letters.
-/

namespace MeetingRoom.Text

/-- Blanks and the small English letters other than k. -/
def isPlainLetter (char : Char) : Bool :=
  char = ' ' || ('a'.toNat ≤ char.toNat && char.toNat ≤ 'z'.toNat && char ≠ 'k')

/-- The text has the part in it, whatever the case of its English letters. -/
def Mentions (part text : String) : Prop := part.toList <:+: text.toList.map Char.toLower

/-! ### Characters -/

theorem isPlainLetter_of_outside {char : Char} (outside : char.toNat = 0 ∨ 128 ≤ char.toNat) :
    isPlainLetter char = false := by
  apply Bool.eq_false_iff.mpr
  intro plain
  simp only [isPlainLetter, Bool.or_eq_true, Bool.and_eq_true, decide_eq_true_eq] at plain
  have least : 'a'.toNat = 97 := rfl
  have greatest : 'z'.toNat = 122 := rfl
  rcases plain with rfl | ⟨between, _other⟩
  · exact absurd outside (by decide)
  · omega

theorem toNat_ofNat_of_large {code : Nat} (large : 128 ≤ code) :
    (Char.ofNat code).toNat = 0 ∨ 128 ≤ (Char.ofNat code).toNat := by
  by_cases valid : code.isValidChar
  · have same : Char.ofNat code = Char.ofNatAux code valid := dif_pos valid
    rw [same]
    exact Or.inr large
  · have nothing : Char.ofNat code = '\x00' := dif_neg valid
    rw [nothing]
    exact Or.inl rfl

theorem toLower_of_foreign {char : Char} (foreign : 128 ≤ char.toNat) : char.toLower = char := by
  apply dif_neg
  rintro ⟨_above, below⟩
  have small : char.toNat ≤ 90 := UInt32.le_iff_toNat_le.mp below
  omega

theorem lowerChar_of_english {char : Char} (english : char.toNat < 128) :
    lowerChar char = char.toLower := by
  have all : ∀ code ∈ List.range 128,
      lowerChar (Char.ofNat code) = (Char.ofNat code).toLower := by
    decide +kernel
  have this := all char.toNat (List.mem_range.mpr english)
  rwa [Char.ofNat_toNat] at this

/-- Runs beyond the English letters stay there, with the exception of the Kelvin sign. -/
theorem move_of_foreign {run : LowerRun} (member : run ∈ lowerRuns) {code : Nat}
    (held : run.holds code = true) (foreign : 128 ≤ code) :
    128 ≤ run.move code ∨ run.move code = 'k'.toNat := by
  have all : ∀ run ∈ lowerRuns, run.last < 128 ∨ 128 ≤ run.first + run.shift ∨
      run.first = 0x212A ∧ run.last = 0x212A ∧ run.move 0x212A = 'k'.toNat := by
    decide +kernel
  simp only [LowerRun.holds, Bool.and_eq_true, decide_eq_true_eq] at held
  obtain ⟨⟨after, before⟩, _step⟩ := held
  rcases all run member with english | large | ⟨first, last, kelvin⟩
  · omega
  · left
    unfold LowerRun.move
    omega
  · right
    rwa [show code = 0x212A by omega]

theorem lowerChar_of_foreign {char : Char} (foreign : 128 ≤ char.toNat) :
    isPlainLetter (lowerChar char) = false := by
  unfold lowerChar
  split
  · rename_i run found
    have held := List.find?_some found
    rcases move_of_foreign (List.mem_of_find?_eq_some found) held foreign with large | kelvin
    · exact isPlainLetter_of_outside (toNat_ofNat_of_large large)
    · rw [kelvin]
      rfl
  · exact isPlainLetter_of_outside (Or.inr foreign)

/-- To become a plain letter, a character has to be one, or the English capital of it. -/
theorem eq_lowerChar_iff {letter char : Char} (plain : isPlainLetter letter = true) :
    letter = lowerChar char ↔ letter = char.toLower := by
  rcases Nat.lt_or_ge char.toNat 128 with english | foreign
  · rw [lowerChar_of_english english]
  · rw [toLower_of_foreign foreign]
    constructor
    · rintro rfl
      rw [lowerChar_of_foreign foreign] at plain
      cases plain
    · rintro rfl
      rw [isPlainLetter_of_outside (Or.inr foreign)] at plain
      cases plain

/-! ### Texts -/

theorem lowerAfter_cons (before : List Char) (char : Char) (rest : List Char) :
    (∃ lowered, lowerAfter before (char :: rest) = lowered :: lowerAfter (char :: before) rest ∧
        ∀ letter, isPlainLetter letter = true → (letter = lowered ↔ letter = char.toLower)) ∨
      char = dottedCapitalI ∧
        lowerAfter before (char :: rest) = 'i' :: '\u0307' :: lowerAfter (char :: before) rest := by
  by_cases sigma : char = capitalSigma
  · subst sigma
    refine Or.inl ⟨if meetsCased before && !meetsCased rest then finalSigma
      else lowerChar capitalSigma, rfl, ?_⟩
    intro letter plain
    split
    · constructor
      · rintro rfl
        cases plain
      · rintro rfl
        cases plain
    · exact eq_lowerChar_iff plain
  · by_cases dotted : char = dottedCapitalI
    · exact Or.inr ⟨dotted, by rw [lowerAfter, if_neg sigma, if_pos dotted]; rfl⟩
    · refine Or.inl ⟨lowerChar char, ?_, fun _letter plain => eq_lowerChar_iff plain⟩
      rw [lowerAfter, if_neg sigma, if_neg dotted]
      rfl

section Part

variable {part : List Char}

theorem prefix_lowerAfter_iff (plain : ∀ letter ∈ part, isPlainLetter letter = true)
    (closed : ¬['i'] <:+ part) (before text : List Char) :
    part <+: lowerAfter before text ↔ part <+: text.map Char.toLower := by
  induction text generalizing part before with
  | nil => exact Iff.rfl
  | cons char rest ih =>
      cases part with
      | nil => exact iff_of_true List.nil_prefix List.nil_prefix
      | cons letter others =>
          obtain ⟨here, later⟩ := List.forall_mem_cons.mp plain
          have closedLater : ¬['i'] <:+ others := fun ends =>
            closed (ends.trans (List.suffix_cons letter others))
          rw [List.map_cons, List.cons_prefix_cons]
          rcases lowerAfter_cons before char rest with ⟨lowered, lower, alike⟩ | ⟨dotted, lower⟩
          · rw [lower, List.cons_prefix_cons, ih later closedLater, alike letter here]
          · rw [lower, List.cons_prefix_cons]
            apply iff_of_false
            · rintro ⟨rfl, behind⟩
              cases others with
              | nil => exact closed (List.suffix_refl ['i'])
              | cons second more =>
                  obtain ⟨rfl, _more⟩ := List.cons_prefix_cons.mp behind
                  cases later _ List.mem_cons_self
            · rintro ⟨rfl, _behind⟩
              rw [dotted] at here
              cases here

theorem infix_lowerAfter_iff (plain : ∀ letter ∈ part, isPlainLetter letter = true)
    (closed : ¬['i'] <:+ part) (before text : List Char) :
    part <:+: lowerAfter before text ↔ part <:+: text.map Char.toLower := by
  induction text generalizing before with
  | nil => exact Iff.rfl
  | cons char rest ih =>
      have front := prefix_lowerAfter_iff plain closed before (char :: rest)
      rw [List.map_cons] at front ⊢
      rw [List.infix_cons_iff, ← front, ← ih (char :: before)]
      rcases lowerAfter_cons before char rest with ⟨lowered, lower, _alike⟩ | ⟨_dotted, lower⟩
      · rw [lower, List.infix_cons_iff]
      · -- The dot that is left behind is no letter, so nothing starts with it.
        have passed : part <+: '\u0307' :: lowerAfter (char :: before) rest →
            part <:+: lowerAfter (char :: before) rest := by
          intro starts
          cases part with
          | nil => exact List.nil_infix
          | cons letter others =>
              obtain ⟨rfl, _others⟩ := List.cons_prefix_cons.mp starts
              cases plain _ List.mem_cons_self
        rw [lower, List.infix_cons_iff, List.infix_cons_iff, or_iff_right_of_imp passed]

end Part

/-- A part of plain letters that does not end with an i is in the lower case of a text exactly if the
text mentions it. -/
theorem holds_lower_iff {part : String} (plain : part.toList.all isPlainLetter = true)
    (closed : ¬['i'] <:+ part.toList) {text : String} :
    holds part (lower text) = true ↔ Mentions part text := by
  rw [holds, holdsChars_iff, lower, String.toList_ofList]
  exact infix_lowerAfter_iff (List.all_eq_true.mp plain) closed [] text.toList

end MeetingRoom.Text
