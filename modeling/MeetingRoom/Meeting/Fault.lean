import MeetingRoom.Document.Record
import MeetingRoom.Text.Blank
import MeetingRoom.Text.Numeral
import MeetingRoom.Text.Parts
import MeetingRoom.Text.Lowercase

/-!
The ways in which the meeting service fails. A failure is told by its status and its message, in
this order: 401 stands for itself, then the message is searched for what it says of the meeting, and
only then does 404 count. The message is the one in the body if the body is a record with one, and
else the body itself.
-/

namespace MeetingRoom.Meeting

/-- How far a request that found no answer has come. -/
inductive NetworkStage where
  | builder
  | request
  | body
  deriving DecidableEq

inductive Fault where
  | notAuthenticated
  | notFound (message : String)
  | notStarted
  | ended
  | notInvited
  | server (status : Nat) (message : String)
  | network (stage : NetworkStage)
  | noTransport
  deriving DecidableEq

namespace NetworkStage

def name : NetworkStage → String
  | builder => "builder"
  | request => "request"
  | body => "body"

end NetworkStage

namespace Fault

def message : Fault → String
  | notAuthenticated => "Not authenticated. Please log in."
  | notFound message => "Not found: " ++ message
  | notStarted => "This meeting has not started yet. Please wait for the host."
  | ended => "This meeting has already ended."
  | notInvited => "You are not invited to this meeting."
  | server status message => "Server error (" ++ Text.decimal status ++ "): " ++ message
  | network stage => "Network error: " ++ stage.name
  | noTransport => "join response carries no media transport credentials"

/-- The message that a body carries as a record, if it is one and has one. -/
def carried? (body : String) : Option String := do
  match ← (← Document.read body).slots? ["message"] with
  | [message] => ← message.optional? Document.text?
  | _ => none

def messageOf (body : String) : String := (carried? body).getD (Text.trim body)

def classify (status : Nat) (message : String) : Fault :=
  let lowered := Text.lower message
  if status = 401 then notAuthenticated
  else if Text.holds "not started" lowered then notStarted
  else if Text.holds "ended" lowered then ended
  else if Text.holds "not invited" lowered then notInvited
  else if status = 404 then notFound message
  else server status message

def ofResponse (status : Nat) (body : String) : Fault := classify status (messageOf body)

end Fault

end MeetingRoom.Meeting
