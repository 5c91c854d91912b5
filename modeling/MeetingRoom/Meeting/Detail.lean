import MeetingRoom.Document.Record
import MeetingRoom.Text.Blank

/-!
Meetings as the service describes them, read from documents and written to them. What may be left
out has a default, and what is written is complete, so writing and reading again changes nothing.
-/

namespace MeetingRoom.Meeting

structure Summary where
  id : String
  title : String
  description : String
  startTime : String
  minutes : UInt32
  /-- The text of a voice, empty when the meeting has no host of its own. -/
  voice : String
  status : String
  visibility : Option String
  hostId : Option String
  deriving DecidableEq

structure AgendaItem where
  id : String
  title : String
  description : String
  minutes : UInt32
  deriving DecidableEq

structure Guest where
  id : String
  name : String
  role : String
  avatar : String
  deriving DecidableEq

structure Detail where
  summary : Summary
  agenda : List AgendaItem
  guests : List Guest
  notes : String
  deriving DecidableEq

open Document (Slot text? word? list? ofWord ofTextOrNull)

namespace Summary

def keys : List String :=
  ["id", "title", "description", "startTime", "durationMinutes", "voiceProfile", "status",
    "visibility", "hostUserId"]

def ofDocument? (document : Document) : Option Summary := do
  match ← document.slots? keys with
  | [id, title, description, startTime, minutes, voice, status, visibility, hostId] =>
      return {
        id := ← id.required? text?
        title := ← title.required? text?
        description := ← description.defaulted? "" text?
        startTime := ← startTime.required? text?
        minutes := ← minutes.required? word?
        voice := ← voice.defaulted? "" text?
        status := ← status.required? text?
        visibility := ← visibility.defaulted? none (Slot.orNull? text?)
        hostId := ← hostId.defaulted? none (Slot.orNull? text?) }
  | _ => none

def toDocument (summary : Summary) : Document :=
  .object
    [(some "id", .text summary.id),
     (some "title", .text summary.title),
     (some "description", .text summary.description),
     (some "startTime", .text summary.startTime),
     (some "durationMinutes", ofWord summary.minutes),
     (some "voiceProfile", .text summary.voice),
     (some "status", .text summary.status),
     (some "visibility", ofTextOrNull summary.visibility),
     (some "hostUserId", ofTextOrNull summary.hostId)]

end Summary

namespace AgendaItem

def keys : List String := ["id", "title", "description", "durationMinutes"]

def ofDocument? (document : Document) : Option AgendaItem := do
  match ← document.slots? keys with
  | [id, title, description, minutes] =>
      return {
        id := ← id.required? text?
        title := ← title.required? text?
        description := ← description.defaulted? "" text?
        minutes := ← minutes.required? word? }
  | _ => none

def toDocument (item : AgendaItem) : Document :=
  .object
    [(some "id", .text item.id),
     (some "title", .text item.title),
     (some "description", .text item.description),
     (some "durationMinutes", ofWord item.minutes)]

end AgendaItem

namespace Guest

def keys : List String := ["id", "name", "role", "avatarUrl"]

def ofDocument? (document : Document) : Option Guest := do
  match ← document.slots? keys with
  | [id, name, role, avatar] =>
      return {
        id := ← id.required? text?
        name := ← name.required? text?
        role := ← role.defaulted? "" text?
        avatar := ← avatar.defaulted? "" text? }
  | _ => none

def toDocument (guest : Guest) : Document :=
  .object
    [(some "id", .text guest.id),
     (some "name", .text guest.name),
     (some "role", .text guest.role),
     (some "avatarUrl", .text guest.avatar)]

end Guest

namespace Detail

def keys : List String := ["summary", "agenda", "participants", "notes"]

def ofDocument? (document : Document) : Option Detail := do
  match ← document.slots? keys with
  | [summary, agenda, guests, notes] =>
      return {
        summary := ← summary.required? Summary.ofDocument?
        agenda := ← agenda.defaulted? [] (list? AgendaItem.ofDocument?)
        guests := ← guests.defaulted? [] (list? Guest.ofDocument?)
        notes := ← notes.defaulted? "" text? }
  | _ => none

def toDocument (detail : Detail) : Document :=
  .object
    [(some "summary", detail.summary.toDocument),
     (some "agenda", .array (detail.agenda.map AgendaItem.toDocument)),
     (some "participants", .array (detail.guests.map Guest.toDocument)),
     (some "notes", .text detail.notes)]

/-- The service sends a meeting as the only known key of a record around it. -/
def ofEnvelope? (document : Document) : Option Detail := do
  match ← document.slots? ["meeting"] with
  | [meeting] => meeting.required? ofDocument?
  | _ => none

/-- A host has to start a meeting that is still scheduled. -/
def needsStart (detail : Detail) (user : String) : Bool :=
  detail.summary.status = "scheduled" && detail.summary.hostId = some user

/-- The text of the voice, as it is, unless it is blank. -/
def voice? (detail : Detail) : Option String :=
  if Text.allBlank detail.summary.voice then none else some detail.summary.voice

end Detail

end MeetingRoom.Meeting
