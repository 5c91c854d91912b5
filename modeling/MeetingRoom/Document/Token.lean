import MeetingRoom.Document.Literal

/-!
Tokens of the document format. A natural number is told apart from the other numbers, which are
kept as they were written: nothing here computes with them. A text that pairs no surrogate is kept
as `text none`.
-/

namespace MeetingRoom.Document

inductive Token where
  | openArray
  | closeArray
  | openObject
  | closeObject
  | comma
  | colon
  | null
  | bool (value : Bool)
  | natural (value : Nat)
  | number (lexeme : String)
  | text (value : Option String)
  deriving DecidableEq

namespace Token

/-- Space, tab, line feed and carriage return, and no other blank character. -/
def isSpace (char : Char) : Bool :=
  char = ' ' || char = '\t' || char = '\n' || char = '\r'

/-- Digits that write a whole number. Only zero itself starts with a zero. -/
def isWhole : List Char → Bool
  | [] => false
  | [_] => true
  | first :: _ => first ≠ '0'

def scanWhole (input : List Char) : Option (List Char × List Char) :=
  let digits := input.takeWhile Char.isDigit
  if isWhole digits then some (digits, input.dropWhile Char.isDigit) else none

/-- At least one digit. -/
def scanDigits (input : List Char) : Option (List Char × List Char) :=
  match input.takeWhile Char.isDigit with
  | [] => none
  | digits => some (digits, input.dropWhile Char.isDigit)

def scanFraction : List Char → Option (List Char × List Char)
  | '.' :: rest => (scanDigits rest).map fun (digits, after) => ('.' :: digits, after)
  | input => some ([], input)

def scanExponent : List Char → Option (List Char × List Char)
  | mark :: rest =>
      if mark = 'e' ∨ mark = 'E' then
        match rest with
        | sign :: afterSign =>
            if sign = '+' ∨ sign = '-' then
              (scanDigits afterSign).map fun (digits, after) => (mark :: sign :: digits, after)
            else (scanDigits rest).map fun (digits, after) => (mark :: digits, after)
        | [] => none
      else some ([], mark :: rest)
  | [] => some ([], [])

def takeSign : List Char → List Char × List Char
  | '-' :: rest => (['-'], rest)
  | input => ([], input)

/-- A number without sign, fraction and exponent is a natural number. -/
def ofNumber (sign whole fraction exponent : List Char) : Token :=
  if sign = [] ∧ fraction = [] ∧ exponent = [] then .natural (Nat.ofDigitChars 10 whole 0)
  else .number (String.ofList (sign ++ whole ++ fraction ++ exponent))

def scanNumber (input : List Char) : Option (Token × List Char) := do
  let (sign, unsigned) := takeSign input
  let (whole, afterWhole) ← scanWhole unsigned
  let (fraction, afterFraction) ← scanFraction afterWhole
  let (exponent, after) ← scanExponent afterFraction
  return (ofNumber sign whole fraction exponent, after)

def scanWord (word : List Char) (token : Token) (input : List Char) : Option (Token × List Char) :=
  if word.isPrefixOf input then some (token, input.drop word.length) else none

/-- The token at the front of a text that starts with no space. -/
def scan : List Char → Option (Token × List Char)
  | [] => none
  | '[' :: rest => some (.openArray, rest)
  | ']' :: rest => some (.closeArray, rest)
  | '\x7b' :: rest => some (.openObject, rest)
  | '\x7d' :: rest => some (.closeObject, rest)
  | ',' :: rest => some (.comma, rest)
  | ':' :: rest => some (.colon, rest)
  | '"' :: rest =>
      (Literal.scan rest).map fun (pieces, after) =>
        (.text ((Literal.join pieces).map String.ofList), after)
  | 'n' :: rest => scanWord ['u', 'l', 'l'] .null rest
  | 't' :: rest => scanWord ['r', 'u', 'e'] (.bool true) rest
  | 'f' :: rest => scanWord ['a', 'l', 's', 'e'] (.bool false) rest
  | input => scanNumber input

theorem dropWhile_shorter {test : Char → Bool} {input : List Char}
    (found : input.takeWhile test ≠ []) : (input.dropWhile test).length < input.length := by
  have whole := congrArg List.length (List.takeWhile_append_dropWhile (p := test) (l := input))
  have some : 0 < (input.takeWhile test).length := List.length_pos_iff.mpr found
  rw [List.length_append] at whole
  omega

theorem scanDigits_shorter {input digits after : List Char}
    (read : scanDigits input = some (digits, after)) : after.length < input.length := by
  unfold scanDigits at read
  split at read
  · cases read
  · rename_i found
    cases read
    exact dropWhile_shorter found

theorem scanWhole_shorter {input digits after : List Char}
    (read : scanWhole input = some (digits, after)) : after.length < input.length := by
  simp only [scanWhole] at read
  split at read
  · rename_i whole
    cases read
    apply dropWhile_shorter
    intro nothing
    rw [nothing] at whole
    cases whole
  · cases read

theorem scanFraction_le {input digits after : List Char}
    (read : scanFraction input = some (digits, after)) : after.length ≤ input.length := by
  unfold scanFraction at read
  split at read
  · simp only [Option.map_eq_some_iff, Prod.mk.injEq, Prod.exists] at read
    obtain ⟨_, _, found, _, rfl⟩ := read
    have := scanDigits_shorter found
    simp only [List.length_cons]
    omega
  · cases read; exact Nat.le_refl _

theorem scanExponent_le {input digits after : List Char}
    (read : scanExponent input = some (digits, after)) : after.length ≤ input.length := by
  unfold scanExponent at read
  split at read
  · split at read
    · split at read
      · split at read
        · simp only [Option.map_eq_some_iff, Prod.mk.injEq, Prod.exists] at read
          obtain ⟨_, _, found, _, rfl⟩ := read
          have := scanDigits_shorter found
          simp only [List.length_cons]
          omega
        · simp only [Option.map_eq_some_iff, Prod.mk.injEq, Prod.exists] at read
          obtain ⟨_, _, found, _, rfl⟩ := read
          have := scanDigits_shorter found
          simp only [List.length_cons] at this ⊢
          omega
      · cases read
    · cases read; exact Nat.le_refl _
  · cases read; exact Nat.le_refl _

theorem takeSign_le (input : List Char) : (takeSign input).2.length ≤ input.length := by
  unfold takeSign
  split <;> simp

theorem scanNumber_shorter {input : List Char} {token : Token} {after : List Char}
    (read : scanNumber input = some (token, after)) : after.length < input.length := by
  have unsigned := takeSign_le input
  unfold scanNumber at read
  simp only [Option.bind_eq_bind, Option.bind_eq_some_iff, Prod.exists, Option.pure_def,
    Option.some.injEq, Prod.mk.injEq] at read
  obtain ⟨_, _, whole, _, _, fraction, _, _, exponent, _, rfl⟩ := read
  have h1 := scanWhole_shorter whole
  have h2 := scanFraction_le fraction
  have h3 := scanExponent_le exponent
  omega

theorem scanWord_le {word : List Char} {token found : Token} {input after : List Char}
    (read : scanWord word token input = some (found, after)) : after.length ≤ input.length := by
  unfold scanWord at read
  split at read
  · cases read; simp
  · cases read

theorem scan_shorter {input : List Char} {token : Token} {after : List Char}
    (read : scan input = some (token, after)) : after.length < input.length := by
  unfold scan at read
  split at read
  case h_1 => cases read
  case h_8 =>
    simp only [Option.map_eq_some_iff, Prod.mk.injEq, Prod.exists] at read
    obtain ⟨_, _, found, _, rfl⟩ := read
    have := Literal.scan_shorter found
    simp only [List.length_cons]
    omega
  case h_9 => exact Nat.lt_succ_of_le (scanWord_le read)
  case h_10 => exact Nat.lt_succ_of_le (scanWord_le read)
  case h_11 => exact Nat.lt_succ_of_le (scanWord_le read)
  case h_12 => exact scanNumber_shorter read
  all_goals cases read; simp

/-- The tokens of a text, after the ones found so far, which are held last first. -/
def listAfter (found : List Token) (input : List Char) : Option (List Token) :=
  match input with
  | [] => some found.reverse
  | char :: rest =>
      if isSpace char then listAfter found rest
      else
        match read : scan (char :: rest) with
        | none => none
        | some (token, after) =>
            have := scan_shorter read
            listAfter (token :: found) after
termination_by input.length
decreasing_by
  · exact Nat.lt_succ_self _
  · exact this

def list? (input : List Char) : Option (List Token) := listAfter [] input

def render : Token → List Char
  | openArray => ['[']
  | closeArray => [']']
  | openObject => ['\x7b']
  | closeObject => ['\x7d']
  | comma => [',']
  | colon => [':']
  | null => ['n', 'u', 'l', 'l']
  | bool true => ['t', 'r', 'u', 'e']
  | bool false => ['f', 'a', 'l', 's', 'e']
  | natural value => Nat.toDigits 10 value
  | number lexeme => lexeme.toList
  | text value => Literal.encode (value.getD "").toList

end Token

end MeetingRoom.Document
