import MeetingRoom.Document.Record
import MeetingRoom.Text.Blank

/-!
Metadata that a participant publishes about itself. It comes from anybody, so whatever cannot be
read counts as empty.
-/

namespace MeetingRoom.Participant

structure Metadata where
  name : Option String
  avatar : Option String
  deriving DecidableEq

namespace Metadata

def empty : Metadata := { name := none, avatar := none }

def ofDocument? (document : Document) : Option Metadata := do
  match ← document.slots? ["name", "avatarUrl"] with
  | [name, avatar] =>
      return { name := ← name.optional? Document.text?, avatar := ← avatar.optional? Document.text? }
  | _ => none

def ofText (text : String) : Metadata :=
  if Text.allBlank text then empty else ((Document.read text).bind ofDocument?).getD empty

/-- Without metadata there is nothing in it. -/
def read (text? : Option String) : Metadata := (text?.map ofText).getD empty

end Metadata

end MeetingRoom.Participant
