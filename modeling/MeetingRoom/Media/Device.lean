/-!
The two tracks that a participant publishes, and the ways in which the device behind one cannot be
had or switched.
-/

namespace MeetingRoom.Media

inductive Track where
  | audio
  | video
  deriving DecidableEq

def Track.name : Track → String
  | audio => "audio"
  | video => "video"

inductive DeviceFault where
  | notConnected
  | failed (track : Track) (reason : String)
  | permissionDenied (reason : String)
  | unavailable (reason : String)
  deriving DecidableEq

def DeviceFault.message : DeviceFault → String
  | notConnected => "no active media session"
  | failed track reason => "failed to switch " ++ track.name ++ " track: " ++ reason
  | permissionDenied reason => "permission denied: " ++ reason
  | unavailable reason => "device unavailable: " ++ reason

end MeetingRoom.Media
