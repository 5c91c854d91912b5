import MeetingRoom.Meeting.Fault

/-!
Passes: what the service hands out to whoever joins a meeting. A pass names the media server and a
token for it, in more than one way, and the first that is not blank counts.
-/

namespace MeetingRoom.Meeting

/-- Access to a relay, for media that find no direct way. -/
structure Relay where
  url : String
  username : String
  password : String
  deriving DecidableEq

structure Pass where
  meetingId : String
  participantId : String
  webRtcToken : String
  aiToken : String
  voiceToken : String
  expiresAt : String
  relay : Relay
  mediaToken : Option String
  mediaUrl : Option String
  deriving DecidableEq

structure Credentials where
  url : String
  token : String
  deriving DecidableEq

open Document (Slot text? ofTextOrNull)

namespace Relay

def keys : List String := ["url", "username", "password"]

def ofDocument? (document : Document) : Option Relay := do
  match ← document.slots? keys with
  | [url, username, password] =>
      return {
        url := ← url.required? text?
        username := ← username.required? text?
        password := ← password.required? text? }
  | _ => none

def toDocument (relay : Relay) : Document :=
  .object
    [(some "url", .text relay.url),
     (some "username", .text relay.username),
     (some "password", .text relay.password)]

end Relay

namespace Pass

def keys : List String :=
  ["meetingId", "participantId", "webRtcToken", "aiRealtimeToken", "voiceSynthToken", "expiresAt",
    "turnCredentials", "livekitToken", "livekitUrl"]

def ofDocument? (document : Document) : Option Pass := do
  match ← document.slots? keys with
  | [meetingId, participantId, webRtcToken, aiToken, voiceToken, expiresAt, relay, mediaToken,
      mediaUrl] =>
      return {
        meetingId := ← meetingId.required? text?
        participantId := ← participantId.required? text?
        webRtcToken := ← webRtcToken.required? text?
        aiToken := ← aiToken.required? text?
        voiceToken := ← voiceToken.required? text?
        expiresAt := ← expiresAt.required? text?
        relay := ← relay.required? Relay.ofDocument?
        mediaToken := ← mediaToken.defaulted? none (Slot.orNull? text?)
        mediaUrl := ← mediaUrl.defaulted? none (Slot.orNull? text?) }
  | _ => none

def toDocument (pass : Pass) : Document :=
  .object
    [(some "meetingId", .text pass.meetingId),
     (some "participantId", .text pass.participantId),
     (some "webRtcToken", .text pass.webRtcToken),
     (some "aiRealtimeToken", .text pass.aiToken),
     (some "voiceSynthToken", .text pass.voiceToken),
     (some "expiresAt", .text pass.expiresAt),
     (some "turnCredentials", pass.relay.toDocument),
     (some "livekitToken", ofTextOrNull pass.mediaToken),
     (some "livekitUrl", ofTextOrNull pass.mediaUrl)]

/-- The server's own address goes before the fallback, and its media token before the other one. -/
def credentials (pass : Pass) (fallback? : Option String) : Except Fault Credentials :=
  match (pass.mediaUrl.bind Text.content?).or (fallback?.bind Text.content?),
      (pass.mediaToken.bind Text.content?).or (Text.content? pass.webRtcToken) with
  | some url, some token => .ok { url := url, token := token }
  | _, _ => .error .noTransport

end Pass

end MeetingRoom.Meeting
