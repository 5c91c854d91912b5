import MeetingRoom.Document.Basic
import MeetingRoom.Proofs.Ends

/-!
Blank characters around a text. Trimming removes them all. For a document in the text there is no
token among them, and none reaches into the next one, so if a text with blanks around it holds a
document, then the text holds it without them too. The converse is not true, since only four of the
blank characters may stand around a document.
-/

namespace MeetingRoom

theorem Text.trim_of_margins {front back : String} (blankFront : allBlank front = true)
    (blankBack : allBlank back = true) (text : String) :
    trim (front ++ text ++ back) = trim text := by
  have behind : (back.toList.dropWhile isBlank) = [] :=
    List.dropWhile_eq_nil_iff.mpr (List.all_eq_true.mp blankBack)
  apply String.toList_inj.mp
  rw [toList_trim, toList_trim, String.toList_append, String.toList_append, List.append_assoc,
    List.dropWhile_append_of_pos (List.all_eq_true.mp blankFront), List.dropWhile_append]
  split
  · rename_i nothing
    rw [behind, List.isEmpty_iff.mp nothing]
  · rw [rdropWhile_append_of_all (List.all_eq_true.mp blankBack)]

namespace Document

open Text (isBlank hexDigit?)

theorem ne_of_blank {char other : Char} (blank : isBlank char = true)
    (shown : isBlank other = false) : char ≠ other := by
  rintro rfl
  rw [blank] at shown
  cases shown

theorem isDigit_of_blank {char : Char} (blank : isBlank char = true) : char.isDigit = false := by
  have digits : ∀ digit : Char, digit.isDigit = true → isBlank digit = false := by
    intro digit isDigit
    simp only [Char.isDigit, Bool.and_eq_true, decide_eq_true_eq, ge_iff_le,
      UInt32.le_iff_toNat_le] at isDigit
    have code : 48 ≤ digit.toNat ∧ digit.toNat ≤ 57 := isDigit
    simp only [isBlank, Bool.or_eq_false_iff, Bool.and_eq_false_iff, decide_eq_false_iff_not,
      beq_eq_false_iff_ne]
    omega
  cases found : char.isDigit with
  | false => rfl
  | true => exact absurd rfl (ne_of_blank blank (digits char found))

/-! ### Literals -/

namespace Literal

/-- A literal is read up to its closing mark, whatever stands behind. -/
theorem scan_eq_some_split {input : List Char} {pieces : List Piece} {after : List Char}
    (read : scan input = some (pieces, after)) :
    ∃ front, input = front ++ '"' :: after ∧
      ∀ rest, scan (front ++ '"' :: rest) = some (pieces, rest) := by
  fun_induction scan input generalizing pieces with
  | case1 => cases read
  | case2 rest =>
      cases read
      exact ⟨[], rfl, fun other => by rw [List.nil_append, scan]⟩
  | case3 first second third fourth rest ih =>
      simp only [Option.bind_eq_bind, Option.bind_eq_some_iff, Option.pure_def,
        Option.some.injEq, Prod.mk.injEq, Prod.exists] at read
      obtain ⟨piece, unit, inner, tail, found, rfl, rfl⟩ := read
      obtain ⟨front, rfl, same⟩ := ih found
      refine ⟨'\\' :: 'u' :: first :: second :: third :: fourth :: front, rfl, ?_⟩
      intro other
      simp only [List.cons_append, scan, unit, same other, Option.bind_eq_bind, Option.bind_some,
        Option.pure_def]
  | case4 escape rest short ih =>
      simp only [Option.bind_eq_bind, Option.bind_eq_some_iff, Option.pure_def,
        Option.some.injEq, Prod.mk.injEq, Prod.exists] at read
      obtain ⟨char, known, inner, tail, found, rfl, rfl⟩ := read
      obtain ⟨front, rfl, same⟩ := ih found
      refine ⟨'\\' :: escape :: front, rfl, ?_⟩
      intro other
      -- The letter that announces a number is no short escape.
      have letter : escape ≠ 'u' := by
        rintro rfl
        cases known
      rw [List.cons_append, List.cons_append, scan]
      · simp only [known, same other, Option.bind_eq_bind, Option.bind_some, Option.pure_def]
      · intro first second third fourth behind same _
        exact letter same
  | case5 => cases read
  | case6 => cases read
  | case7 char rest notMark notUnit notEscape notControl notSlash ih =>
      simp only [Option.bind_eq_bind, Option.bind_eq_some_iff, Option.pure_def,
        Option.some.injEq, Prod.mk.injEq, Prod.exists] at read
      obtain ⟨inner, tail, found, rfl, rfl⟩ := read
      obtain ⟨front, rfl, same⟩ := ih found
      refine ⟨char :: front, rfl, ?_⟩
      intro other
      rw [List.cons_append, scan]
      · simp only [if_neg notControl, if_neg notSlash, same other, Option.bind_eq_bind,
          Option.bind_some, Option.pure_def]
      · exact notMark
      · intro first second third fourth behind same _
        exact notSlash same
      · intro escape behind same _
        exact notSlash same

end Literal

/-! ### Tokens -/

namespace Token

def openings : List Char := ['[', ']', '\x7b', '\x7d', ',', ':', '"', 'n', 't', 'f']

theorem scan_of_other {char : Char} (other : char ∉ openings) (rest : List Char) :
    scan (char :: rest) = scanNumber (char :: rest) := by
  simp only [openings, List.mem_cons, List.not_mem_nil, or_false, not_or] at other
  rw [scan]
  · intro nothing
    cases nothing
  all_goals
    intro behind same
    have opening := (List.cons.inj same).1
    simp_all only [not_true_eq_false, false_and, and_false]

/-- No token starts with a blank character. -/
theorem scan_of_blank {char : Char} (blank : isBlank char = true) (rest : List Char) :
    scan (char :: rest) = none := by
  have unblank : openings.any isBlank = false := rfl
  have shown : ∀ opening ∈ openings, isBlank opening = false := by
    simpa using unblank
  rw [scan_of_other fun member => ne_of_blank blank (shown char member) rfl]
  have unsigned : takeSign (char :: rest) = ([], char :: rest) := by
    rw [takeSign]
    intro behind same
    exact ne_of_blank blank (show isBlank '-' = false from rfl) (List.cons.inj same).1
  have undigited : scanWhole (char :: rest) = none := by
    rw [scanWhole, List.takeWhile_cons_of_neg (by rw [isDigit_of_blank blank]; decide)]
    rfl
  rw [scanNumber, unsigned]
  simp only [undigited, Option.bind_eq_bind, Option.bind_none]

theorem listAfter_of_blank {char : Char} (blank : isBlank char = true) {found tokens : List Token}
    {rest : List Char} (read : listAfter found (char :: rest) = some tokens) :
    listAfter found rest = some tokens := by
  rw [listAfter] at read
  split at read
  · exact read
  · split at read
    · cases read
    · rename_i token after scanned
      rw [scan_of_blank blank rest] at scanned
      cases scanned

/-! ### Blanks behind tokens -/

section Behind

variable {back : List Char} (blank : ∀ char ∈ back, isBlank char = true)
include blank

theorem takeWhile_digits_append (input : List Char) :
    (input ++ back).takeWhile Char.isDigit = input.takeWhile Char.isDigit ∧
      (input ++ back).dropWhile Char.isDigit = input.dropWhile Char.isDigit ++ back := by
  induction input with
  | nil =>
      cases back with
      | nil => exact ⟨rfl, rfl⟩
      | cons first others =>
          have other := isDigit_of_blank (blank first List.mem_cons_self)
          simp [other]
  | cons char rest ih =>
      cases digit : char.isDigit with
      | true => simp [digit, ih]
      | false => simp [digit]

theorem head_blank {char : Char} {rest : List Char} (same : back = char :: rest) :
    isBlank char = true :=
  blank char (same ▸ List.mem_cons_self)

theorem scanWhole_append (input : List Char) :
    scanWhole (input ++ back) = (scanWhole input).map fun (digits, after) =>
      (digits, after ++ back) := by
  obtain ⟨taken, dropped⟩ := takeWhile_digits_append blank input
  simp only [scanWhole, taken, dropped]
  split <;> rfl

theorem scanDigits_append (input : List Char) :
    scanDigits (input ++ back) = (scanDigits input).map fun (digits, after) =>
      (digits, after ++ back) := by
  obtain ⟨taken, dropped⟩ := takeWhile_digits_append blank input
  simp only [scanDigits, taken, dropped]
  split <;> rfl

theorem takeSign_append (input : List Char) :
    takeSign (input ++ back) = ((takeSign input).1, (takeSign input).2 ++ back) := by
  cases input with
  | nil =>
      rw [List.nil_append, takeSign]
      · rfl
      · intro rest same
        exact ne_of_blank (head_blank blank same) rfl rfl
  | cons char rest =>
      by_cases minus : char = '-'
      · subst minus
        rfl
      · rw [List.cons_append, takeSign, takeSign]
        · rfl
        · intro behind same
          exact minus (List.cons.inj same).1
        · intro behind same
          exact minus (List.cons.inj same).1

theorem scanFraction_append (input : List Char) :
    scanFraction (input ++ back) = (scanFraction input).map fun (digits, after) =>
      (digits, after ++ back) := by
  cases input with
  | nil =>
      rw [List.nil_append, scanFraction]
      · rfl
      · intro rest same
        exact ne_of_blank (head_blank blank same) rfl rfl
  | cons char rest =>
      by_cases point : char = '.'
      · subst point
        rw [List.cons_append, scanFraction, scanFraction, scanDigits_append blank]
        cases scanDigits rest <;> rfl
      · rw [List.cons_append, scanFraction, scanFraction]
        · rfl
        · intro behind same
          exact point (List.cons.inj same).1
        · intro behind same
          exact point (List.cons.inj same).1

theorem scanExponent_append (input : List Char) :
    scanExponent (input ++ back) = (scanExponent input).map fun (digits, after) =>
      (digits, after ++ back) := by
  cases input with
  | nil =>
      cases back with
      | nil => rfl
      | cons first others =>
          have shown := blank first List.mem_cons_self
          have lower := ne_of_blank shown (show isBlank 'e' = false from rfl)
          have upper := ne_of_blank shown (show isBlank 'E' = false from rfl)
          simp [scanExponent, lower, upper]
  | cons mark rest =>
      by_cases marked : mark = 'e' ∨ mark = 'E'
      · cases rest with
        | nil =>
            cases back with
            | nil => simp [scanExponent, marked]
            | cons first others =>
                have shown := blank first List.mem_cons_self
                have plus := ne_of_blank shown (show isBlank '+' = false from rfl)
                have minus := ne_of_blank shown (show isBlank '-' = false from rfl)
                have digits : scanDigits (first :: others) = none := scanDigits_append blank []
                simp [scanExponent, marked, plus, minus, digits]
        | cons sign behind =>
            have signed := scanDigits_append blank behind
            have unsigned := scanDigits_append blank (sign :: behind)
            rw [List.cons_append] at unsigned
            by_cases isSign : sign = '+' ∨ sign = '-'
            · simp only [List.cons_append, scanExponent, if_pos marked, if_pos isSign, signed]
              cases scanDigits behind <;> rfl
            · simp only [List.cons_append, scanExponent, if_pos marked, if_neg isSign, unsigned]
              cases scanDigits (sign :: behind) <;> rfl
      · simp only [List.cons_append, scanExponent, if_neg marked]
        rfl

theorem scanNumber_append (input : List Char) :
    scanNumber (input ++ back) = (scanNumber input).map fun (token, after) =>
      (token, after ++ back) := by
  simp only [scanNumber, takeSign_append blank, scanWhole_append blank]
  cases scanWhole (takeSign input).2 with
  | none => rfl
  | some whole =>
      simp only [Option.map_some, Option.bind_eq_bind, Option.bind_some,
        scanFraction_append blank]
      cases scanFraction whole.2 with
      | none => rfl
      | some fraction =>
          simp only [Option.map_some, Option.bind_some, scanExponent_append blank]
          cases scanExponent fraction.2 <;> rfl

theorem isPrefixOf_append {word : List Char} (shown : ∀ char ∈ word, isBlank char = false)
    (input : List Char) : word.isPrefixOf (input ++ back) = word.isPrefixOf input := by
  induction word generalizing input with
  | nil => simp
  | cons first others ih =>
      obtain ⟨here, later⟩ := List.forall_mem_cons.mp shown
      cases input with
      | nil =>
          cases back with
          | nil => rfl
          | cons char rest =>
              have other := (ne_of_blank (blank char List.mem_cons_self) here).symm
              rw [List.nil_append, List.isPrefixOf_cons_cons, beq_false_of_ne other]
              rfl
      | cons char rest =>
          rw [List.cons_append, List.isPrefixOf_cons_cons, List.isPrefixOf_cons_cons, ih later]

theorem scanWord_append {word : List Char} (shown : word.any isBlank = false)
    (token : Token) (input : List Char) :
    scanWord word token (input ++ back) = (scanWord word token input).map fun (token, after) =>
      (token, after ++ back) := by
  simp only [scanWord, isPrefixOf_append blank (by simpa using shown)]
  split
  · rename_i starts
    have fits := (List.isPrefixOf_iff_prefix.mp starts).length_le
    rw [List.drop_append_of_le_length fits]
    rfl
  · rfl

/-- No literal is closed by a blank character. -/
theorem scanText_append {input after : List Char} {pieces : List Literal.Piece}
    (read : Literal.scan (input ++ back) = some (pieces, after)) :
    ∃ rest, after = rest ++ back ∧ Literal.scan input = some (pieces, rest) := by
  obtain ⟨front, whole, same⟩ := Literal.scan_eq_some_split read
  have unmarked : ∀ behind : List Char, back = behind ++ '"' :: after → False := by
    rintro behind rfl
    have marked := blank '"' (List.mem_append_right behind List.mem_cons_self)
    cases marked
  rcases List.append_eq_append_iff.mp whole with ⟨behind, _, ends⟩ | ⟨behind, rfl, ends⟩
  · exact absurd ends (unmarked behind)
  · cases behind with
    | nil => exact absurd ends.symm (unmarked [])
    | cons mark rest =>
        obtain ⟨rfl, rfl⟩ := List.cons.inj ends
        exact ⟨rest, rfl, same rest⟩

/-- A token that is there with blanks behind is there without them. -/
theorem scan_append {char : Char} {input after : List Char} {token : Token}
    (read : scan (char :: (input ++ back)) = some (token, after)) :
    ∃ rest, after = rest ++ back ∧ scan (char :: input) = some (token, rest) := by
  have split : ∀ {found : Option (Token × List Char)},
      (found.map fun (token, after) => (token, after ++ back)) = some (token, after) →
        ∃ rest, after = rest ++ back ∧ found = some (token, rest) := by
    intro found same
    obtain ⟨⟨_, rest⟩, rfl, same⟩ := Option.map_eq_some_iff.mp same
    cases same
    exact ⟨rest, rfl, rfl⟩
  by_cases opens : char ∈ openings
  · simp only [openings, List.mem_cons, List.not_mem_nil, or_false] at opens
    rcases opens with rfl | rfl | rfl | rfl | rfl | rfl | rfl | rfl | rfl | rfl
    case inr.inr.inr.inr.inr.inr.inl =>
      obtain ⟨⟨pieces, behind⟩, found, same⟩ := Option.map_eq_some_iff.mp read
      cases same
      obtain ⟨rest, rfl, alone⟩ := scanText_append blank found
      refine ⟨rest, rfl, ?_⟩
      rw [scan, alone]
      rfl
    case inr.inr.inr.inr.inr.inr.inr.inl =>
      exact split ((scanWord_append blank rfl .null input).symm.trans read)
    case inr.inr.inr.inr.inr.inr.inr.inr.inl =>
      exact split ((scanWord_append blank rfl (.bool true) input).symm.trans read)
    case inr.inr.inr.inr.inr.inr.inr.inr.inr =>
      exact split ((scanWord_append blank rfl (.bool false) input).symm.trans read)
    all_goals
      cases read
      exact ⟨input, rfl, rfl⟩
  · rw [scan_of_other opens] at read ⊢
    exact split ((scanNumber_append blank (char :: input)).symm.trans read)

/-- Nothing is found among blank characters. -/
theorem listAfter_blank {found tokens : List Token}
    (read : listAfter found back = some tokens) : tokens = found.reverse := by
  induction back with
  | nil =>
      rw [listAfter] at read
      exact (Option.some.inj read).symm
  | cons char rest ih =>
      obtain ⟨here, later⟩ := List.forall_mem_cons.mp blank
      exact ih later (listAfter_of_blank here read)

/-- Tokens that are there with blanks behind are there without them. -/
theorem listAfter_append {found tokens : List Token} {input : List Char}
    (read : listAfter found (input ++ back) = some tokens) :
    listAfter found input = some tokens := by
  induction size : input.length using Nat.strongRecOn generalizing input found with
  | ind size ih =>
      cases input with
      | nil =>
          rw [listAfter_blank blank read, listAfter]
      | cons char rest =>
          rw [List.cons_append, listAfter] at read
          rw [listAfter]
          split
          · rename_i space
            rw [if_pos space] at read
            exact ih rest.length (size ▸ Nat.lt_succ_self _) read rfl
          · rename_i shown
            rw [if_neg shown] at read
            split at read
            · cases read
            · rename_i token after taken
              obtain ⟨behind, rfl, alone⟩ := scan_append blank taken
              have shorter := scan_shorter alone
              split
              · rename_i fails
                rw [alone] at fails
                cases fails
              · rename_i other last taken
                rw [alone] at taken
                cases taken
                exact ih behind.length (size ▸ shorter) read rfl

end Behind

/-- Tokens that are there with blanks in front are there without them. -/
theorem listAfter_of_front {front input : List Char} {found tokens : List Token}
    (blank : ∀ char ∈ front, isBlank char = true)
    (read : listAfter found (front ++ input) = some tokens) :
    listAfter found input = some tokens := by
  induction front with
  | nil => exact read
  | cons char rest ih =>
      obtain ⟨here, later⟩ := List.forall_mem_cons.mp blank
      exact ih later (listAfter_of_blank here read)

end Token

/-! ### Documents -/

/-- A document that is there with blanks around it is there without them. -/
theorem read_of_margins {front back : String} (blankFront : Text.allBlank front = true)
    (blankBack : Text.allBlank back = true) {text : String} {document : Document}
    (held : read (front ++ text ++ back) = some document) : read text = some document := by
  obtain ⟨tokens, listed, whole⟩ := Option.bind_eq_some_iff.mp held
  rw [String.toList_append, String.toList_append, List.append_assoc] at listed
  have behind := Token.listAfter_of_front (List.all_eq_true.mp blankFront) listed
  have alone := Token.listAfter_append (List.all_eq_true.mp blankBack) behind
  exact Option.bind_eq_some_iff.mpr ⟨tokens, alone, whole⟩

/-- What is blank holds no document. -/
theorem read_of_blank {text : String} (blank : Text.allBlank text = true) : read text = none := by
  cases held : read text with
  | none => rfl
  | some document =>
      have alone : read "" = some document := by
        apply read_of_margins blank (show Text.allBlank "" = true from rfl)
        rw [String.append_empty, String.append_empty]
        exact held
      have nothing : read "" = none := by
        rw [read, Token.list?, String.toList_empty, Token.listAfter]
        rfl
      rw [nothing] at alone
      cases alone

end Document

end MeetingRoom
