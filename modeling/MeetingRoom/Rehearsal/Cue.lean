import MeetingRoom.Rehearsal.Basic

/-!
Cues: what a script can tell the room and the transport to do. A cue has its reply at once, before
the tasks run.
-/

namespace MeetingRoom.Rehearsal

/-- Changes to a snapshot; what is not mentioned stays. -/
structure Change (Remote : Type) where
  identity : Option String
  name : Option String
  metadata : Option (Option String)
  audio : Option Bool
  video : Option Bool
  handle : Option (Option Remote)

inductive Cue (Remote : Type) where
  | call (operation : Room.Operation)
  | advance (millis : Nat)
  | emit (events : List (Media.Event Remote))
  | apply (event : Media.Event Remote)
  | closeEvents
  | join (snapshot : Media.Snapshot Remote)
  | leave (identity : String) (silent : Bool)
  | setRemotes (remotes : List (Media.Snapshot Remote))
  | changeRemote (identity : String) (change : Change Remote)
  | changeOwn (change : Change Remote)
  | removeOwn
  | failConnect (fault : Media.Fault)
  | failDevice (track : Media.Track) (fault? : Option Media.Fault)
  | stick (on : Bool)
  | hang (on : Bool)
  | arm (kind : GateKind)
  | openGate (kind : GateKind)
  | voice (text? : Option String)

inductive Reply where
  | nothing
  | flag (value : Bool)
  | receipt (receipt : Transport.Receipt)
  | receipts (receipts : List Transport.Receipt)
  | effect (effect : Session.Effect)
  | voice (voice? : Option Voice)

variable {Remote : Type}

def Change.apply (change : Change Remote) (snapshot : Media.Snapshot Remote) :
    Media.Snapshot Remote :=
  { identity := change.identity.getD snapshot.identity
    name := change.name.getD snapshot.name
    metadata := change.metadata.getD snapshot.metadata
    audio := change.audio.getD snapshot.audio
    video := change.video.getD snapshot.video
    handle := change.handle.getD snapshot.handle }

/-- A participant of whom nothing is known. -/
def blank : Media.Snapshot Remote :=
  { identity := "", name := "", metadata := none, audio := false, video := false, handle := none }

/-- Changes the first item that passes the test, if any does. -/
def modifyFirst? {Item : Type} (test : Item → Bool) (change : Item → Item) (items : List Item) :
    Option (List Item) :=
  (items.findIdx? test).map fun index => items.modify index change

def cue (rehearsal : Rehearsal Remote) (cue : Cue Remote) : Reply × Rehearsal Remote :=
  let transport := rehearsal.transport
  let keep (room : Room Remote) : Rehearsal Remote := { rehearsal with room := room }
  let script (transport : Transport Remote) : Rehearsal Remote :=
    { rehearsal with transport := transport }
  match cue with
  | .call operation => (.nothing, keep (rehearsal.room.start operation))
  | .advance millis => (.nothing, { rehearsal with now := rehearsal.now + millis * 1000000 })
  | .emit events =>
      let (receipts, sent) := rehearsal.sendAll events
      (.receipts receipts, sent)
  | .apply event =>
      (.effect (rehearsal.session.apply transport.view event).result,
        keep (rehearsal.room.event transport.view event))
  | .closeEvents => (.flag transport.channel.isSome, script transport.closeChannel)
  | .join snapshot =>
      let (receipt, sent) :=
        (script { transport with remotes := transport.remotes ++ [snapshot] }).send
          (.joined snapshot)
      (.receipt receipt, sent)
  | .leave identity silent =>
      let left := script
        { transport with remotes := transport.remotes.filter (·.identity ≠ identity) }
      if silent then (.nothing, left)
      else
        let (receipt, sent) := left.send (.left identity)
        (.receipt receipt, sent)
  | .setRemotes remotes => (.nothing, script { transport with remotes := remotes })
  | .changeRemote identity change =>
      match modifyFirst? (·.identity == identity) change.apply transport.remotes with
      | some remotes => (.flag true, script { transport with remotes := remotes })
      | none => (.flag false, rehearsal)
  | .changeOwn change =>
      (.nothing, script { transport with own := some (change.apply (transport.own.getD blank)) })
  | .removeOwn => (.nothing, script { transport with own := none })
  | .failConnect fault =>
      (.nothing, script { transport with connectFaults := transport.connectFaults ++ [fault] })
  | .failDevice track fault? => (.nothing, script (transport.setDeviceFault track fault?))
  | .stick on => (.nothing, script { transport with stuck := on })
  | .hang on => (.nothing, script { transport with hangs := on })
  | .arm kind => (.nothing, script (transport.arm kind))
  | .openGate kind =>
      match transport.openGate? kind with
      | some opened => (.flag true, script opened)
      | none => (.flag false, rehearsal)
  | .voice text? =>
      let session := rehearsal.session.setVoice text?
      (.voice session.voice, keep { rehearsal.room with session := session })

/-- A cue, and then the tasks as far as they get. -/
def perform (rehearsal : Rehearsal Remote) (cue : Cue Remote) : Reply × Rehearsal Remote :=
  let (reply, cued) := rehearsal.turnPage.cue cue
  (reply, cued.settle)

end MeetingRoom.Rehearsal
