import MeetingRoom.Media.View

/-!
What the media transport reports, and the ways in which it fails.
-/

namespace MeetingRoom.Media

/-- The four ways in which a track changes. Which one it was does not matter: flags are read anew. -/
inductive TrackChange where
  | subscribed
  | unsubscribed
  | muted
  | unmuted
  deriving DecidableEq

inductive Event (Remote : Type) where
  | joined (snapshot : Snapshot Remote)
  | left (identity : String)
  | track (change : TrackChange) (identity : String) (track : Track)
  | metadata (identity : String)
  | reconnecting
  | reconnected
  | disconnected (reason : String)
  deriving DecidableEq

inductive Fault where
  | rejected (reason : String)
  | notConnected
  | noLocalTrack (track : Track)
  | other (reason : String)
  deriving DecidableEq

def Fault.message : Fault → String
  | rejected reason => "handshake rejected: " ++ reason
  | notConnected => "transport is not connected"
  | noLocalTrack track => "no local " ++ track.name ++ " track available"
  | other reason => reason

end MeetingRoom.Media
