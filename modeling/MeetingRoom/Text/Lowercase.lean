import MeetingRoom.Text.Lowercase.Table

/-!
Full lower case. Every character is mapped on its own, with two exceptions: U+0130 becomes two
characters, and a capital sigma at the end of a word becomes the final form. A sigma ends a word if
a cased character stands before it and none behind it, characters that case ignores left aside.
-/

namespace MeetingRoom.Text

namespace LowerRun

def holds (run : LowerRun) (code : Nat) : Bool :=
  run.first ≤ code && code ≤ run.last && (code - run.first) % run.step == 0

def move (run : LowerRun) (code : Nat) : Nat := (code + run.shift).toNat

end LowerRun

/-- The lower case of a character that becomes one character. -/
def lowerChar (char : Char) : Char :=
  match lowerRuns.find? (·.holds char.toNat) with
  | some run => Char.ofNat (run.move char.toNat)
  | none => char

def isCased (char : Char) : Bool := inRanges casedRanges char

def isCaseIgnorable (char : Char) : Bool := inRanges caseIgnorableRanges char

/-- Whether the first character that case does not ignore is cased. -/
def meetsCased (chars : List Char) : Bool :=
  match chars.dropWhile isCaseIgnorable with
  | [] => false
  | char :: _ => isCased char

def capitalSigma : Char := 'Σ'

def finalSigma : Char := 'ς'

def dottedCapitalI : Char := '\u0130'

/-- The characters before are held last first. -/
def lowerAfter (before : List Char) : List Char → List Char
  | [] => []
  | char :: rest =>
      let lowered :=
        if char = capitalSigma then
          [if meetsCased before && !meetsCased rest then finalSigma else lowerChar char]
        else if char = dottedCapitalI then ['i', '\u0307']
        else [lowerChar char]
      lowered ++ lowerAfter (char :: before) rest

def lower (text : String) : String := String.ofList (lowerAfter [] text.toList)

end MeetingRoom.Text
