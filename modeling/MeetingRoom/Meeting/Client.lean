import MeetingRoom.Config
import MeetingRoom.Meeting.Detail
import MeetingRoom.Meeting.Pass
import MeetingRoom.Meeting.Service

/-!
The client of the meeting service: how a meeting is fetched, started and joined, and how one gets
ready to join. Getting ready takes up to three requests, each made only if those before it have
succeeded, and a meeting is started only by the host of a meeting that is still scheduled.
-/

namespace MeetingRoom.Meeting

structure Client where
  base : String
  token : Option String
  deriving DecidableEq

namespace Client

/-- The root of the service, without slashes at its end, and the version that is spoken. -/
def baseOf (backendUrl : String) : String :=
  String.ofList (backendUrl.toList.reverse.dropWhile (· = '/')).reverse ++ "/api/v1"

def ofUrl (backendUrl : String) (token? : Option String) : Client :=
  { base := baseOf backendUrl, token := token? }

def ofConfig (config : Config) : Client := ofUrl config.backendUrl config.accessToken

/-- A token can be sent if it has no control character other than the tab. -/
def canSend (token : String) : Bool :=
  token.toList.all fun char => char = '\t' || (32 ≤ char.toNat && char.toNat ≠ 127)

/-- A request for a path, if one can be built. -/
def message? (client : Client) (method : Method) (path : String) : Option Message := do
  let target ← Target.ofAddress? (client.base ++ path)
  if client.token.all canSend then
    some
      { method := method
        target := target
        authorization := client.token.map ("Bearer " ++ ·) }
  else none

def send (client : Client) (method : Method) (path : String) : Call Response :=
  match client.message? method path with
  | some message => Service.send message
  | none => Call.fail (.network .builder)

/-- Goes on with what a response gives. -/
def reading {Value : Type} (read : Response → Except Fault Value) (call : Call Response) :
    Call Value :=
  call.andThen fun response =>
    match read response with
    | .ok value => Call.give value
    | .error fault => Call.fail fault

def fetch (client : Client) (meeting : String) : Call Detail :=
  reading (Response.decode Detail.ofEnvelope?) (client.send .get ("/meetings/" ++ meeting))

def start (client : Client) (meeting : String) : Call Unit :=
  reading Response.accept (client.send .post ("/meetings/" ++ meeting ++ "/start"))

def join (client : Client) (meeting : String) : Call Pass :=
  reading (Response.decode Pass.ofDocument?)
    (client.send .post ("/meetings/" ++ meeting ++ "/join"))

/-- Starts a meeting if it is up to this user to do so. -/
def startIfHost (client : Client) (meeting user : String) (detail : Detail) : Call Unit :=
  if detail.needsStart user then
    (Call.report (Journal.info ("Starting scheduled meeting " ++ meeting ++ " as host"))).andThen
      fun _ => client.start meeting
  else Call.give ()

def prepare (client : Client) (meeting user : String) : Call (Detail × Pass) :=
  (client.fetch meeting).andThen fun detail =>
    (client.startIfHost meeting user detail).andThen fun _ =>
      (client.join meeting).andThen fun pass => Call.give (detail, pass)

end Client

end MeetingRoom.Meeting
