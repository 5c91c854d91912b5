import MeetingRoom.Journal
import MeetingRoom.Media.Device
import MeetingRoom.Session.Request

/-!
The lobby: where one tries out microphone and camera before joining. A preview stream is stopped
before the same device is opened again, when the lobby is tidied up and when it is left. A permission
once granted stays granted, whatever happens to the stream.
-/

namespace MeetingRoom

/-- A live preview. Streams of both devices are numbered together, from one. -/
structure Lobby.Stream where
  track : Media.Track
  number : Nat
  deriving DecidableEq

/-- The local devices, as far as it matters: how each next attempt to open one will end. Beyond the
outcomes that are listed every attempt succeeds. -/
structure Lobby.Devices where
  microphone : List (Option Media.DeviceFault)
  camera : List (Option Media.DeviceFault)
  opened : Nat
  deriving DecidableEq

/-- What is done to a device. -/
inductive Lobby.Use where
  | open (track : Media.Track)
  | stop (stream : Lobby.Stream)
  deriving DecidableEq

structure Lobby where
  devices : Lobby.Devices
  microphoneGranted : Bool
  cameraGranted : Bool
  joinWithAudio : Bool
  joinWithVideo : Bool
  microphone : Option Lobby.Stream
  camera : Option Lobby.Stream
  deriving DecidableEq

namespace Lobby

namespace Stream

def text (stream : Stream) : String :=
  stream.track.name ++ " #" ++ Text.decimal stream.number

end Stream

/-- The camera is opened for a preview of 1280 by 720. -/
def Use.text : Use → String
  | .open .audio => "open audio"
  | .open .video => "open video " ++ Text.decimal 1280 ++ "x" ++ Text.decimal 720
  | .stop stream => "stop " ++ stream.text

namespace Devices

def next (devices : Devices) : Media.Track → Option Media.DeviceFault
  | .audio => devices.microphone.head?.join
  | .video => devices.camera.head?.join

def advance (devices : Devices) : Media.Track → Devices
  | .audio => { devices with microphone := devices.microphone.tail }
  | .video => { devices with camera := devices.camera.tail }

/-- Opens a device: a stream with the next number, or the fault that was to come. -/
def open? (devices : Devices) (track : Media.Track) :
    Except Media.DeviceFault Stream × Devices :=
  match devices.next track with
  | some fault => (.error fault, devices.advance track)
  | none =>
      (.ok { track := track, number := devices.opened + 1 },
        { devices.advance track with opened := devices.opened + 1 })

end Devices

/-- An operation in the lobby: its result, what it did to the devices and what it reports. -/
structure After where
  lobby : Lobby
  result : Except Media.DeviceFault Unit := .ok ()
  uses : List Use := []
  journal : List Journal.Entry := []

def enter (devices : Devices) : Lobby :=
  { devices := devices
    microphoneGranted := false
    cameraGranted := false
    joinWithAudio := true
    joinWithVideo := true
    microphone := none
    camera := none }

def stream (lobby : Lobby) : Media.Track → Option Stream
  | .audio => lobby.microphone
  | .video => lobby.camera

def setStream (lobby : Lobby) (track : Media.Track) (stream? : Option Stream) : Lobby :=
  match track with
  | .audio => { lobby with microphone := stream? }
  | .video => { lobby with camera := stream? }

def granted (lobby : Lobby) : Media.Track → Bool
  | .audio => lobby.microphoneGranted
  | .video => lobby.cameraGranted

def grant (lobby : Lobby) : Media.Track → Lobby
  | .audio => { lobby with microphoneGranted := true }
  | .video => { lobby with cameraGranted := true }

/-- Stops the stream of a device and lets go of it. -/
def stop (lobby : Lobby) (track : Media.Track) : After :=
  { lobby := lobby.setStream track none
    uses := (lobby.stream track).toList.map .stop }

def deviceWord : Media.Track → String
  | .audio => "Microphone"
  | .video => "Camera"

def request (lobby : Lobby) (track : Media.Track) : After :=
  let stopped := lobby.stop track
  let uses := stopped.uses ++ [.open track]
  match stopped.lobby.devices.open? track with
  | (.ok stream, devices) =>
      { lobby := ({ stopped.lobby with devices := devices }.grant track).setStream track (some stream)
        uses := uses
        journal := [Journal.info (deviceWord track ++ " access granted")] }
  | (.error fault, devices) =>
      { lobby := { stopped.lobby with devices := devices }
        result := .error fault
        uses := uses
        journal := [Journal.error (deviceWord track ++ " permission denied: " ++ fault.message)] }

/-- The camera is asked for only if the microphone was granted. -/
def check (lobby : Lobby) : After :=
  let first := lobby.request .audio
  match first.result with
  | .error _ => first
  | .ok _ =>
      let second := first.lobby.request .video
      { second with
        uses := first.uses ++ second.uses
        journal := first.journal ++ second.journal }

/-- Stops both streams. Whoever leaves the lobby does the same. -/
def tidy (lobby : Lobby) : After :=
  let first := lobby.stop .audio
  let second := first.lobby.stop .video
  { second with uses := first.uses ++ second.uses }

def prefer (lobby : Lobby) (track : Media.Track) (enabled : Bool) : Lobby :=
  match track with
  | .audio => { lobby with joinWithAudio := enabled }
  | .video => { lobby with joinWithVideo := enabled }

/-- A request to join with the devices that are preferred. -/
def joinRequest (lobby : Lobby) (url token : String) : Session.Request :=
  { url := url, token := token, audio := lobby.joinWithAudio, video := lobby.joinWithVideo }

end Lobby

end MeetingRoom
