import MeetingRoom.Duration
import MeetingRoom.Media.Device
import MeetingRoom.Text.Blank

/-!
Requests to join, which say where to, with which token, and which devices to bring up, and the ways
in which a session does not come about or ends on its own.
-/

namespace MeetingRoom.Session

inductive Fault where
  | invalidCredentials (complaint : String)
  | rejected (reason : String)
  | timeout (limit : Duration)
  | lost (reason : String)
  deriving DecidableEq

def Fault.message : Fault → String
  | invalidCredentials complaint => "invalid media session credentials: " ++ complaint
  | rejected reason => "transport rejected the handshake: " ++ reason
  | timeout limit => "transport did not acknowledge the connection within " ++ limit.text
  | lost reason => "connection lost: " ++ reason

structure Request where
  url : String
  token : String
  audio : Bool
  video : Bool
  deriving DecidableEq

namespace Request

def schemes : List String := ["ws://", "wss://", "http://", "https://"]

def hasScheme (url : String) : Bool :=
  schemes.any fun scheme => scheme.toList.isPrefixOf url.toList

/-- The token is looked at first. The address is judged by its trimmed text. -/
def complaint? (request : Request) : Option Fault :=
  if Text.allBlank request.token then some (.invalidCredentials "missing access token")
  else if Text.allBlank request.url then some (.invalidCredentials "missing media server url")
  else if hasScheme (Text.trim request.url) then none
  else
    some (.invalidCredentials ("unsupported media server url '" ++ Text.trim request.url ++ "'"))

/-- The devices to bring up, the microphone before the camera. -/
def wanted (request : Request) : List Media.Track :=
  (if request.audio then [.audio] else []) ++ (if request.video then [.video] else [])

end Request

end MeetingRoom.Session
