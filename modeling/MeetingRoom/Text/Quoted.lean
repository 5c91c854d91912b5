import MeetingRoom.Text.Quoted.Table

/-!
Quoted texts for messages: a text between quotation marks that hides nothing. Characters that show
nothing of their own are written by number, the single quotation mark is left as it is.
-/

namespace MeetingRoom.Text

def isHidden (char : Char) : Bool := inRanges hiddenRanges char

/-- By number, in lower case hexadecimal digits and without leading zeros. -/
def numbered (char : Char) : List Char :=
  ['\\', 'u', '\x7b'] ++ Nat.toDigits 16 char.toNat ++ ['\x7d']

def quotedChar (char : Char) : List Char :=
  if char = '\x00' then ['\\', '0']
  else if char = '\t' then ['\\', 't']
  else if char = '\r' then ['\\', 'r']
  else if char = '\n' then ['\\', 'n']
  else if char = '"' then ['\\', '"']
  else if char = '\\' then ['\\', '\\']
  else if isHidden char then numbered char
  else [char]

def quoted (text : String) : String :=
  String.ofList ('"' :: (text.toList.flatMap quotedChar ++ ['"']))

end MeetingRoom.Text
