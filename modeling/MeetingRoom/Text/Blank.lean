/-!
Classes of characters, given by their code points, and what the blank ones leave of a text. They are
those of the Unicode property White_Space; characters without width such as U+200B and U+FEFF are
not blank. A trimmed text neither starts nor ends with a blank character, and what is blank trims to
nothing.
-/

namespace MeetingRoom.Text

/-- The ranges hold both of their ends. -/
def inRanges (ranges : List (Nat × Nat)) (char : Char) : Bool :=
  ranges.any fun (first, last) => first ≤ char.toNat && char.toNat ≤ last

/-- The property White_Space has twenty-five characters, all of the basic plane. -/
def isBlank (char : Char) : Bool :=
  let code := char.toNat
  (9 ≤ code && code ≤ 13) || code == 32 || code == 0x85 || code == 0xA0 || code == 0x1680
    || (0x2000 ≤ code && code ≤ 0x200A) || code == 0x2028 || code == 0x2029
    || code == 0x202F || code == 0x205F || code == 0x3000

/-- What is left without the characters at both ends that pass a test. -/
def trimWhile (test : Char → Bool) (chars : List Char) : List Char :=
  ((chars.dropWhile test).reverse.dropWhile test).reverse

def trim (text : String) : String := String.ofList (trimWhile isBlank text.toList)

/-- Nothing but blank characters. -/
def allBlank (text : String) : Bool := text.toList.all isBlank

/-- The trimmed text, if anything is left of it. -/
def content? (text : String) : Option String :=
  if allBlank text then none else some (trim text)

end MeetingRoom.Text
