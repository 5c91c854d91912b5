import MeetingRoom.Document.Basic

/-!
Screen classes. A width falls into exactly one class, and a class is read back only from its own
name: no other spelling, no surrounding blank.
-/

namespace MeetingRoom

inductive Screen where
  | mobile
  | tablet
  | desktop
  deriving DecidableEq

namespace Screen

def tabletMinWidth : Nat := 768

def desktopMinWidth : Nat := 1024

def ofWidth (width : Nat) : Screen :=
  if width < tabletMinWidth then mobile
  else if width < desktopMinWidth then tablet
  else desktop

/-- Without a width to go by, the widest class is assumed. -/
def assumed : Screen := desktop

def name : Screen → String
  | mobile => "mobile"
  | tablet => "tablet"
  | desktop => "desktop"

/-- A text that is no screen class. -/
structure Unknown where
  given : String
  deriving DecidableEq

def Unknown.message (unknown : Unknown) : String :=
  "unknown screen size class '" ++ unknown.given ++ "', expected mobile, tablet or desktop"

def ofName (text : String) : Except Unknown Screen :=
  if text = "mobile" then .ok mobile
  else if text = "tablet" then .ok tablet
  else if text = "desktop" then .ok desktop
  else .error ⟨text⟩

theorem ofName_eq_ok_iff {text : String} {screen : Screen} :
    ofName text = .ok screen ↔ text = screen.name := by
  constructor
  · intro read
    unfold ofName at read
    split at read
    · cases read; assumption
    · split at read
      · cases read; assumption
      · split at read
        · cases read; assumption
        · cases read
  · rintro rfl
    cases screen <;> rfl

def toDocument (screen : Screen) : Document := .text screen.name

/-- A class is written as its name, or as an object with the name as its only key and null behind it. -/
def ofDocument : Document → Option Screen
  | .text text => (ofName text).toOption
  | .object [(some text, .null)] => (ofName text).toOption
  | _ => none

theorem ofDocument_toDocument (screen : Screen) : ofDocument screen.toDocument = some screen := by
  cases screen <;> rfl

end Screen

end MeetingRoom
