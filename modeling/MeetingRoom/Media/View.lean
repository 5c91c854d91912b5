import MeetingRoom.Media.Device

/-!
What the media transport knows of a meeting at one moment. The session reads it and never writes it:
whatever it shows of a participant is taken from here.
-/

namespace MeetingRoom.Media

/-- What is known of one participant. The handle attaches the media of a remote one. -/
structure Snapshot (Remote : Type) where
  identity : String
  name : String
  metadata : Option String
  audio : Bool
  video : Bool
  handle : Option Remote
  deriving DecidableEq

def Snapshot.enabled {Remote : Type} (snapshot : Snapshot Remote) : Track → Bool
  | .audio => snapshot.audio
  | .video => snapshot.video

def Snapshot.setEnabled {Remote : Type} (snapshot : Snapshot Remote) (track : Track)
    (enabled : Bool) : Snapshot Remote :=
  match track with
  | .audio => { snapshot with audio := enabled }
  | .video => { snapshot with video := enabled }

/-- The own participant, if there is one yet, and the remote ones as the transport lists them. -/
structure View (Remote : Type) where
  own : Option (Snapshot Remote)
  remotes : List (Snapshot Remote)
  deriving DecidableEq

namespace View

variable {Remote : Type}

def empty : View Remote := { own := none, remotes := [] }

/-- The own participant is found first, then the first remote one of that identity. -/
def find? (view : View Remote) (identity : String) : Option (Snapshot Remote) :=
  (view.own.toList ++ view.remotes).find? (·.identity == identity)

end View

end MeetingRoom.Media
