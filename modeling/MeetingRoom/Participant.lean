import MeetingRoom.Media.View
import MeetingRoom.Participant.Metadata

/-!
Participants as they are shown. Name, label and avatar are derived from what the transport knows,
and each has something to fall back on, so that no tile is blank. Later changes are taken over
piecewise: media flags with the handle, or name with avatar.
-/

namespace MeetingRoom

inductive Participant.Kind where
  | own
  | remote
  | synthetic
  deriving DecidableEq

structure Participant (Remote : Type) where
  id : String
  name : String
  label : String
  avatar : String
  audio : Bool
  video : Bool
  kind : Participant.Kind
  handle : Option Remote
  deriving DecidableEq

namespace Participant

def Kind.name : Kind → String
  | own => "local"
  | remote => "remote"
  | synthetic => "synthetic"

/-- The picture that belongs to a seed when there is no other. -/
def fallbackAvatar (seed : String) : String := "https://avatar.vercel.sh/" ++ seed

/-- The name from the metadata goes before the one that the transport has. -/
def displayName (metadata : Metadata) (transportName : String) : String :=
  ((metadata.name.bind Text.content?).or (Text.content? transportName)).getD "Unknown"

def displayAvatar (metadata : Metadata) (identity : String) : String :=
  (metadata.avatar.bind Text.content?).getD (fallbackAvatar identity)

def displayLabel (kind : Kind) (transportName : String) : String :=
  match kind with
  | .own => "You"
  | _ => (Text.content? transportName).getD "Participant"

variable {Remote : Type}

/-- Only other participants have a handle. -/
def ofSnapshot (kind : Kind) (snapshot : Media.Snapshot Remote) : Participant Remote :=
  let metadata := Metadata.read snapshot.metadata
  { id := snapshot.identity
    name := displayName metadata snapshot.name
    label := displayLabel kind snapshot.name
    avatar := displayAvatar metadata snapshot.identity
    audio := snapshot.audio
    video := snapshot.video
    kind := kind
    handle := if kind = .own then none else snapshot.handle }

def isOwn (participant : Participant Remote) : Bool := participant.kind = .own

def enabled (participant : Participant Remote) : Media.Track → Bool
  | .audio => participant.audio
  | .video => participant.video

/-- Takes over both flags, and the handle of a remote participant. -/
def withMedia (participant : Participant Remote) (snapshot : Media.Snapshot Remote) :
    Participant Remote :=
  { participant with
    audio := snapshot.audio
    video := snapshot.video
    handle := if participant.kind = .remote then snapshot.handle else participant.handle }

/-- Takes over name and avatar, as a participant of the identity in the snapshot would have them. -/
def withMetadata (participant : Participant Remote) (snapshot : Media.Snapshot Remote) :
    Participant Remote :=
  let metadata := Metadata.read snapshot.metadata
  { participant with
    name := displayName metadata snapshot.name
    avatar := displayAvatar metadata snapshot.identity }

def statusLine (participant : Participant Remote) : String :=
  (if participant.video then "Camera on" else "Camera off") ++ " · " ++
    (if participant.audio then "Mic active" else "Mic muted")

theorem withMedia_id (participant : Participant Remote) (snapshot : Media.Snapshot Remote) :
    (participant.withMedia snapshot).id = participant.id := rfl

theorem withMetadata_id (participant : Participant Remote) (snapshot : Media.Snapshot Remote) :
    (participant.withMetadata snapshot).id = participant.id := rfl

end Participant

end MeetingRoom
