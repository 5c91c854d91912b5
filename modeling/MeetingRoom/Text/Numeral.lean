/-!
Numerals. In base ten: the digits of a natural number, with no sign and no leading zero, and the
digits behind a decimal point, with no trailing zero. In base sixteen: single digits, read in either
case. Only ASCII characters are digits.
-/

namespace MeetingRoom.Text

/-- The number that digits write, if there are any and nothing else is there. -/
def number? (chars : List Char) : Option Nat :=
  if !chars.isEmpty && chars.all Char.isDigit then some (Nat.ofDigitChars 10 chars 0) else none

def decimal (number : Nat) : String := String.ofList (Nat.toDigits 10 number)

/-- The digits of a number, filled up to a length with zeros in front. -/
def padded (length number : Nat) : List Char :=
  let digits := Nat.toDigits 10 number
  List.replicate (length - digits.length) '0' ++ digits

/-- The point and the digits of a part of `10 ^ places`; nothing for no part. -/
def fraction (places part : Nat) : String :=
  match ((padded places part).reverse.dropWhile (· = '0')).reverse with
  | [] => ""
  | digits => String.ofList ('.' :: digits)

def hexDigit? (char : Char) : Option Nat :=
  let code := char.toNat
  if 48 ≤ code ∧ code ≤ 57 then some (code - 48)
  else if 65 ≤ code ∧ code ≤ 70 then some (code - 55)
  else if 97 ≤ code ∧ code ≤ 102 then some (code - 87)
  else none

def lowerHexDigit (digit : Nat) : Char :=
  if digit < 10 then Char.ofNat (48 + digit) else Char.ofNat (87 + digit)

def upperHexDigit (digit : Nat) : Char :=
  if digit < 10 then Char.ofNat (48 + digit) else Char.ofNat (55 + digit)

theorem hexDigit?_upperHexDigit : ∀ digit < 16, hexDigit? (upperHexDigit digit) = some digit := by
  decide

end MeetingRoom.Text
