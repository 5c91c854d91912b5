import MeetingRoom.Screen

/-!
The viewport signal. Every resize is classified anew, but the signal moves on only if the class
changes, and a subscriber has something to hear exactly if the signal moved on since it last looked.
The class may have come back to what it was: it has moved on all the same.
-/

namespace MeetingRoom

/-- `moves` counts the changes of class so far; a subscriber remembers the count it last saw. -/
structure Viewport where
  screen : Screen
  moves : Nat
  seen : List Nat
  deriving DecidableEq

namespace Viewport

def start (width? : Option Nat) : Viewport :=
  { screen := (width?.map Screen.ofWidth).getD Screen.assumed, moves := 0, seen := [] }

def resize (viewport : Viewport) (width : Nat) : Viewport :=
  if viewport.screen = Screen.ofWidth width then viewport
  else { viewport with screen := Screen.ofWidth width, moves := viewport.moves + 1 }

/-- A new subscriber has seen the class as it is. -/
def subscribe (viewport : Viewport) : Viewport :=
  { viewport with seen := viewport.seen ++ [viewport.moves] }

/-- A subscriber reads the class and has then seen it. -/
def look (viewport : Viewport) (subscriber : Nat) : Viewport :=
  { viewport with seen := viewport.seen.set subscriber viewport.moves }

def hasNews (viewport : Viewport) (subscriber : Nat) : Bool :=
  match viewport.seen[subscriber]? with
  | some count => count != viewport.moves
  | none => false

/-- For each subscriber, in order of subscription, whether it has something to hear. -/
def news (viewport : Viewport) : List Bool := viewport.seen.map (· != viewport.moves)

end Viewport

end MeetingRoom
