import MeetingRoom.Text.Numeral

/-!
Text literals of the document format: what stands between two quotation marks.
A literal is first taken apart into characters and lone code units, since an escape may write half
of a surrogate pair; `join` then pairs the halves up. A literal with an unpaired half is well formed
as a literal but has no text. Reading what `encode` writes gives the text back.
-/

namespace MeetingRoom.Document.Literal

open Text (hexDigit? lowerHexDigit)

/-- A character, or a code unit that only half of a character was written with. -/
inductive Piece where
  | char (char : Char)
  | half (unit : Nat)
  deriving DecidableEq

def isHalf (unit : Nat) : Bool := 0xD800 ≤ unit && unit ≤ 0xDFFF

/-- The piece that four hexadecimal digits stand for. -/
def unitPiece? (first second third fourth : Char) : Option Piece := do
  let a ← hexDigit? first
  let b ← hexDigit? second
  let c ← hexDigit? third
  let d ← hexDigit? fourth
  let unit := ((a * 16 + b) * 16 + c) * 16 + d
  return if isHalf unit then .half unit else .char (Char.ofNat unit)

/-- Escapes of one character; `u` is not among them. -/
def shortEscape? : Char → Option Char
  | '"' => some '"'
  | '\\' => some '\\'
  | '/' => some '/'
  | 'b' => some '\x08'
  | 'f' => some '\x0c'
  | 'n' => some '\n'
  | 'r' => some '\r'
  | 't' => some '\t'
  | _ => none

/-- Reads up to the closing mark. Control characters must be escaped. -/
def scan : List Char → Option (List Piece × List Char)
  | [] => none
  | '"' :: rest => some ([], rest)
  | '\\' :: 'u' :: first :: second :: third :: fourth :: rest => do
      let piece ← unitPiece? first second third fourth
      let (pieces, after) ← scan rest
      return (piece :: pieces, after)
  | '\\' :: escape :: rest => do
      let char ← shortEscape? escape
      let (pieces, after) ← scan rest
      return (.char char :: pieces, after)
  | char :: rest =>
      if char.toNat < 32 then none
      else if char = '\\' then none
      else do
        let (pieces, after) ← scan rest
        return (.char char :: pieces, after)

theorem scan_shorter {input : List Char} {pieces : List Piece} {after : List Char}
    (read : scan input = some (pieces, after)) : after.length < input.length := by
  fun_induction scan input generalizing pieces with
  | case1 => cases read
  | case2 rest => cases read; simp
  | case3 first second third fourth rest ih =>
      simp only [Option.bind_eq_bind, Option.bind_eq_some_iff, Option.pure_def,
        Option.some.injEq, Prod.mk.injEq, Prod.exists] at read
      obtain ⟨_, _, inner, tail, found, _, rfl⟩ := read
      have := ih found
      simp only [List.length_cons]
      omega
  | case4 escape rest _ ih =>
      simp only [Option.bind_eq_bind, Option.bind_eq_some_iff, Option.pure_def,
        Option.some.injEq, Prod.mk.injEq, Prod.exists] at read
      obtain ⟨_, _, inner, tail, found, _, rfl⟩ := read
      have := ih found
      simp only [List.length_cons]
      omega
  | case5 => cases read
  | case6 => cases read
  | case7 char rest _ _ _ _ _ ih =>
      simp only [Option.bind_eq_bind, Option.bind_eq_some_iff, Option.pure_def,
        Option.some.injEq, Prod.mk.injEq, Prod.exists] at read
      obtain ⟨inner, tail, found, _, rfl⟩ := read
      have := ih found
      simp only [List.length_cons]
      omega

/-- The character of a high half followed by a low half. -/
def pairUp? (high low : Nat) : Option Char :=
  if high < 0xDC00 ∧ 0xDC00 ≤ low then
    some (Char.ofNat (0x10000 + (high - 0xD800) * 0x400 + (low - 0xDC00)))
  else none

/-- The text of a literal, if every half stands in a pair. -/
def join : List Piece → Option (List Char)
  | [] => some []
  | .char char :: rest => (join rest).map (char :: ·)
  | .half high :: .half low :: rest => do
      let char ← pairUp? high low
      let chars ← join rest
      return char :: chars
  | .half _ :: _ => none

/-- The two marks, the backslash and the control characters are escaped, and nothing else is. -/
def encodeChar (char : Char) : List Char :=
  if char = '"' then ['\\', '"']
  else if char = '\\' then ['\\', '\\']
  else if char = '\x08' then ['\\', 'b']
  else if char = '\x0c' then ['\\', 'f']
  else if char = '\n' then ['\\', 'n']
  else if char = '\r' then ['\\', 'r']
  else if char = '\t' then ['\\', 't']
  else if char.toNat < 32 then
    ['\\', 'u', '0', '0', lowerHexDigit (char.toNat / 16), lowerHexDigit (char.toNat % 16)]
  else [char]

def encode (chars : List Char) : List Char := '"' :: (chars.flatMap encodeChar ++ ['"'])

end MeetingRoom.Document.Literal
