import MeetingRoom.Config
import MeetingRoom.Document.RoundTrip
import MeetingRoom.Lobby
import MeetingRoom.Meeting.Client
import MeetingRoom.Proofs.Attendance
import MeetingRoom.Proofs.Convergence
import MeetingRoom.Proofs.Orderly
import MeetingRoom.Proofs.Release
import MeetingRoom.Proofs.Turns
import MeetingRoom.Rehearsal.Cue
import MeetingRoom.Report
import MeetingRoom.Roster.View
import MeetingRoom.Viewport
import MeetingRoom.Proofs.Refreshes
import MeetingRoom.Proofs.Seating
import MeetingRoom.Proofs.Events
import MeetingRoom.Proofs.Repeats
import MeetingRoom.Proofs.Readings
import MeetingRoom.Proofs.Status
import MeetingRoom.Proofs.Toggles
import MeetingRoom.Proofs.Placement
import MeetingRoom.Proofs.Hosting
import MeetingRoom.Proofs.Presentation
import MeetingRoom.Proofs.Previews
import MeetingRoom.Proofs.Admission
import MeetingRoom.Proofs.Credentials
import MeetingRoom.Proofs.Writing
import MeetingRoom.Proofs.Targets
import MeetingRoom.Proofs.Endpoints
import MeetingRoom.Proofs.Frames
import MeetingRoom.Proofs.Watching
import MeetingRoom.Proofs.Joining
import MeetingRoom.Proofs.Flips
import MeetingRoom.Proofs.Fallbacks
import MeetingRoom.Proofs.Permissions
import MeetingRoom.Proofs.Preparation
import MeetingRoom.Proofs.Failures
import MeetingRoom.Proofs.Voices
import MeetingRoom.Proofs.Settings
