import MeetingRoom.Roster
import MeetingRoom.Text.Lowercase

/-!
The voice of a meeting: the name and mood of the artificial host, written `name · mood`. The host
is shown behind the participants and never becomes one: it has an identity of its own, and where
a participant goes by that identity the host stays away.
-/

namespace MeetingRoom

structure Voice where
  name : String
  mood : Option String
  deriving DecidableEq

namespace Voice

def separator : Char := '·'

/-- The text up to the first separator, and what is behind it if there is one. -/
def cut (chars : List Char) : List Char × Option (List Char) :=
  (chars.takeWhile (· ≠ separator),
    match chars.dropWhile (· ≠ separator) with
    | [] => none
    | _ :: rest => some rest)

/-- A voice needs a name. A mood that is blank counts as none. -/
def ofText? (text : String) : Option Voice :=
  let (front, back?) := cut text.toList
  (Text.content? (String.ofList front)).map fun name =>
    { name := name, mood := back?.bind fun back => Text.content? (String.ofList back) }

/-- The way to write a voice. -/
def text (voice : Voice) : String :=
  match voice.mood with
  | none => voice.name
  | some mood => voice.name ++ " · " ++ mood

def identity : String := "ai"

def host {Remote : Type} (voice : Voice) : Participant Remote :=
  { id := identity
    name := voice.name
    label := "AI"
    avatar := Participant.fallbackAvatar (Text.lower voice.name)
    audio := true
    video := false
    kind := .synthetic
    handle := none }

/-- The participants with the host behind them. -/
def overlay {Remote : Type} (roster : Roster Remote) : Option Voice → List (Participant Remote)
  | some voice =>
      if roster.contains identity then roster.toList else roster.toList ++ [voice.host]
  | none => roster.toList

end Voice

end MeetingRoom
