import MeetingRoom.Journal
import MeetingRoom.Meeting.Fault
import MeetingRoom.Meeting.Target

/-!
The meeting service as it is seen from outside: what becomes of each request that is made to it. A
call is whatever can be done with a service at hand; it ends with a value or a fault, and leaves the
service with the requests that have come through.
-/

namespace MeetingRoom.Meeting

inductive Method where
  | get
  | post
  deriving DecidableEq

def Method.name : Method → String
  | get => "GET"
  | post => "POST"

/-- A request as it arrives. -/
structure Message where
  method : Method
  target : Target
  authorization : Option String
  deriving DecidableEq

/-- A truncated response has a body that breaks off, so that it cannot be read. -/
structure Response where
  status : Nat
  body : String
  truncated : Bool
  deriving DecidableEq

/-- What becomes of a request. -/
inductive Delivery where
  | unreachable
  | dropped
  | answered (response : Response)
  deriving DecidableEq

/-- The script says what becomes of the next requests, and `standing` of those beyond it. -/
structure Service where
  script : List Delivery
  standing : Delivery
  received : List Message

namespace Response

def isSuccess (response : Response) : Bool := 200 ≤ response.status && response.status ≤ 299

/-- Two statuses never come with a body. -/
def text? (response : Response) : Option String :=
  if response.status = 204 ∨ response.status = 304 then some ""
  else if response.truncated then none
  else some response.body

/-- A byte order mark in front of a text is no part of it. -/
def dropMark (text : String) : String :=
  match text.toList with
  | '\uFEFF' :: rest => String.ofList rest
  | _ => text

/-- The fault that a failure stands for. A body that cannot be read counts as empty. -/
def fault (response : Response) : Fault :=
  Fault.ofResponse response.status (dropMark (response.text?.getD ""))

/-- Only the status counts. -/
def accept (response : Response) : Except Fault Unit :=
  if response.isSuccess then .ok () else .error response.fault

/-- A success has to have a body that can be read. -/
def decode {Value : Type} (read : Document → Option Value) (response : Response) :
    Except Fault Value :=
  if response.isSuccess then
    match ((response.text?.bind Document.read).bind read) with
    | some value => .ok value
    | none => .error (.network .body)
  else .error response.fault

end Response

/-- The end of a call. -/
structure Served (Value : Type) where
  result : Except Fault Value
  service : Service
  journal : List Journal.Entry := []

abbrev Call (Value : Type) := Service → Served Value

namespace Call

variable {Value Other : Type}

def give (value : Value) : Call Value := fun service => { result := .ok value, service := service }

def fail (fault : Fault) : Call Value := fun service =>
  { result := .error fault, service := service }

def report (entry : Journal.Entry) : Call Unit := fun service =>
  { result := .ok (), service := service, journal := [entry] }

/-- A call that fails ends the whole. -/
def andThen (first : Call Value) (next : Value → Call Other) : Call Other := fun service =>
  let served := first service
  match served.result with
  | .ok value =>
      let rest := next value served.service
      { rest with journal := served.journal ++ rest.journal }
  | .error fault =>
      { result := .error fault, service := served.service, journal := served.journal }

end Call

/-- Makes a request. Only what arrives is received. -/
def Service.send (message : Message) : Call Response := fun service =>
  let arrived := { service with
    script := service.script.tail
    received := service.received ++ [message] }
  match service.script.head?.getD service.standing with
  | .unreachable =>
      { result := .error (.network .request)
        service := { service with script := service.script.tail } }
  | .dropped => { result := .error (.network .request), service := arrived }
  | .answered response => { result := .ok response, service := arrived }

end MeetingRoom.Meeting
