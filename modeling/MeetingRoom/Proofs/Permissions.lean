import Mathlib.Data.List.Induction
import MeetingRoom.Proofs.Previews

/-!
What the lobby remembers of a visit. A permission is held exactly if some request for the device has
succeeded so far, whatever came later; a preference is the one that was set last. To check is to ask
for the microphone and, if it is granted, for the camera; if it is not, nothing is done to the camera.
-/

namespace MeetingRoom.Lobby

/-! ### What is remembered, by device -/

def Devices.outcomes (devices : Devices) : Media.Track → List (Option Media.DeviceFault)
  | .audio => devices.microphone
  | .video => devices.camera

def preference (lobby : Lobby) : Media.Track → Bool
  | .audio => lobby.joinWithAudio
  | .video => lobby.joinWithVideo

def Use.track : Use → Media.Track
  | .open track => track
  | .stop stream => stream.track

theorem Devices.outcomes_open? {devices later : Devices} {track other : Media.Track}
    {result : Except Media.DeviceFault Stream} (opens : devices.open? track = (result, later))
    (apart : other ≠ track) : later.outcomes other = devices.outcomes other := by
  have advanced : (devices.advance track).outcomes other = devices.outcomes other := by
    cases track with
    | audio =>
        cases other with
        | audio => exact absurd rfl apart
        | video => rfl
    | video =>
        cases other with
        | audio => rfl
        | video => exact absurd rfl apart
  unfold open? at opens
  split at opens
  · cases opens
    exact advanced
  · cases opens
    cases other <;> exact advanced

/-! ### Requests -/

section Parts

variable (lobby : Lobby) (track other : Media.Track)

theorem granted_setStream (stream? : Option Stream) :
    (lobby.setStream track stream?).granted other = lobby.granted other := by
  cases track <;> cases other <;> rfl

theorem granted_withDevices (devices : Devices) :
    { lobby with devices := devices }.granted other = lobby.granted other := by
  cases other <;> rfl

theorem granted_grant :
    (lobby.grant track).granted other = (lobby.granted other || track = other) := by
  cases track <;> cases other <;> simp [grant, granted]

theorem preference_setStream (stream? : Option Stream) :
    (lobby.setStream track stream?).preference other = lobby.preference other := by
  cases track <;> cases other <;> rfl

theorem preference_withDevices (devices : Devices) :
    { lobby with devices := devices }.preference other = lobby.preference other := by
  cases other <;> rfl

theorem preference_grant : (lobby.grant track).preference other = lobby.preference other := by
  cases track <;> cases other <;> rfl

theorem granted_prefer (enabled : Bool) :
    (lobby.prefer track enabled).granted other = lobby.granted other := by
  cases track <;> cases other <;> rfl

theorem preference_prefer (enabled : Bool) :
    (lobby.prefer track enabled).preference other =
      if track = other then enabled else lobby.preference other := by
  cases track <;> cases other <;> rfl

theorem stream_withDevices (devices : Devices) :
    { lobby with devices := devices }.stream other = lobby.stream other := by
  cases other <;> rfl

/-- A request either fails, and then does no more than end the old stream, or ends in a new stream. -/
theorem request_cases :
    ∃ result devices, (lobby.stop track).lobby.devices.open? track = (result, devices) ∧
      (lobby.request track).uses = (lobby.stop track).uses ++ [.open track] ∧
      match result with
      | .error fault =>
          (lobby.request track).result = .error fault ∧
            (lobby.request track).lobby = { (lobby.stop track).lobby with devices := devices }
      | .ok stream =>
          (lobby.request track).result = .ok () ∧
            (lobby.request track).lobby =
              ({ (lobby.stop track).lobby with devices := devices }.grant track).setStream track
                (some stream) := by
  unfold request
  dsimp only
  cases opens : (lobby.stop track).lobby.devices.open? track with
  | mk result devices =>
      refine ⟨result, devices, rfl, ?_⟩
      cases result with
      | error fault => exact ⟨rfl, rfl, rfl⟩
      | ok stream => exact ⟨rfl, rfl, rfl⟩

theorem granted_request :
    (lobby.request track).lobby.granted other = true ↔
      lobby.granted other = true ∨ track = other ∧ (lobby.request track).result = .ok () := by
  obtain ⟨result, devices, _opens, _uses, ends⟩ := lobby.request_cases track
  cases result with
  | error fault =>
      rw [ends.1, ends.2, granted_withDevices, stop, granted_setStream]
      simp
  | ok stream =>
      rw [ends.1, ends.2, granted_setStream, granted_grant, granted_withDevices, stop,
        granted_setStream]
      simp

theorem preference_request :
    (lobby.request track).lobby.preference other = lobby.preference other := by
  obtain ⟨result, devices, _opens, _uses, ends⟩ := lobby.request_cases track
  cases result with
  | error fault => rw [ends.2, preference_withDevices, stop, preference_setStream]
  | ok stream =>
      rw [ends.2, preference_setStream, preference_grant, preference_withDevices, stop,
        preference_setStream]

/-- A request for one device leaves the stream and the outcomes of the other. -/
theorem request_elsewhere {lobby : Lobby} {track other : Media.Track} (apart : other ≠ track) :
    (lobby.request track).lobby.stream other = lobby.stream other ∧
      (lobby.request track).lobby.devices.outcomes other = lobby.devices.outcomes other := by
  obtain ⟨result, devices, opens, _uses, ends⟩ := lobby.request_cases track
  have outcomes : devices.outcomes other = lobby.devices.outcomes other := by
    rw [Devices.outcomes_open? opens apart, stop, devices_setStream]
  cases result with
  | error fault =>
      rw [ends.2, stream_withDevices, stream_stop, if_neg apart]
      exact ⟨rfl, outcomes⟩
  | ok stream =>
      rw [ends.2, stream_setStream, stream_grant, stream_withDevices, stream_stop, if_neg apart,
        if_neg apart, devices_setStream, devices_grant]
      exact ⟨rfl, outcomes⟩

end Parts

/-! ### Checks -/

section Checks

variable {lobby : Lobby}

theorem check_of_error {fault : Media.DeviceFault}
    (failed : (lobby.request .audio).result = .error fault) :
    lobby.check = lobby.request .audio := by
  unfold check
  dsimp only
  rw [failed]

theorem check_of_ok (succeeded : (lobby.request .audio).result = .ok ()) :
    lobby.check =
      (lobby.request .audio).andThen ((lobby.request .audio).lobby.request .video) := by
  unfold check
  dsimp only
  rw [succeeded]
  rfl

theorem After.andThen_assoc (first second third : After) :
    (first.andThen second).andThen third = first.andThen (second.andThen third) := by
  simp only [After.andThen, List.append_assoc]

end Checks

/-! ### Histories -/

/-- The requests that an operation comes to make, and how each of them ends. -/
def requests (lobby : Lobby) : Operation → List (Media.Track × Except Media.DeviceFault Unit)
  | .request track => [(track, (lobby.request track).result)]
  | .check =>
      let first := lobby.request .audio
      (.audio, first.result) ::
        match first.result with
        | .error _ => []
        | .ok _ => [(.video, (first.lobby.request .video).result)]
  | .tidy => []
  | .prefer _ _ => []

def Operation.preference? (track : Media.Track) : Operation → Option Bool
  | .prefer other enabled => if other = track then some enabled else none
  | _ => none

def lastPreference (track : Media.Track) (operations : List Operation) : Bool :=
  (operations.filterMap (Operation.preference? track)).getLast?.getD true

theorem granted_perform (lobby : Lobby) (operation : Operation) (track : Media.Track) :
    (lobby.perform operation).lobby.granted track = true ↔
      lobby.granted track = true ∨ (track, .ok ()) ∈ lobby.requests operation := by
  cases operation with
  | request asked =>
      have single : (track, .ok ()) ∈ lobby.requests (.request asked) ↔
          asked = track ∧ (lobby.request asked).result = .ok () := by
        simp [requests, eq_comm]
      rw [single]
      exact lobby.granted_request asked track
  | check =>
      have first := lobby.granted_request .audio track
      change lobby.check.lobby.granted track = true ↔ _
      cases ended : (lobby.request .audio).result with
      | error fault =>
          rw [ended] at first
          rw [check_of_error ended, first, requests]
          simp [ended]
      | ok value =>
          have second := (lobby.request .audio).lobby.granted_request .video track
          have both : (track, .ok ()) ∈ lobby.requests .check ↔
              .audio = track ∨ .video = track ∧
                ((lobby.request .audio).lobby.request .video).result = .ok () := by
            simp only [requests, ended, List.mem_cons, List.not_mem_nil, or_false, Prod.mk.injEq,
              and_true, @eq_comm _ track, @eq_comm _ (Except.ok ())]
          rw [check_of_ok ended]
          change ((lobby.request .audio).lobby.request .video).lobby.granted track = true ↔ _
          rw [second, first, ended, both, or_assoc, eq_self, and_true]
  | tidy =>
      change lobby.tidy.lobby.granted track = true ↔ _
      rw [tidy_eq]
      simp [After.andThen, stop, granted_setStream, requests]
  | prefer other enabled =>
      change (lobby.prefer other enabled).granted track = true ↔ _
      rw [granted_prefer]
      simp [requests]

theorem preference_perform (lobby : Lobby) (operation : Operation) (track : Media.Track) :
    (lobby.perform operation).lobby.preference track =
      (operation.preference? track).getD (lobby.preference track) := by
  cases operation with
  | request asked => exact lobby.preference_request asked track
  | check =>
      change lobby.check.lobby.preference track = lobby.preference track
      cases ended : (lobby.request .audio).result with
      | error fault => rw [check_of_error ended, preference_request]
      | ok value =>
          rw [check_of_ok ended]
          change ((lobby.request .audio).lobby.request .video).lobby.preference track = _
          rw [preference_request, preference_request]
  | tidy =>
      change lobby.tidy.lobby.preference track = lobby.preference track
      rw [tidy_eq]
      simp [After.andThen, stop, preference_setStream]
  | prefer other enabled =>
      change (lobby.prefer other enabled).preference track = _
      rw [preference_prefer, Operation.preference?]
      split <;> rfl

theorem granted_visit (devices : Devices) (operations : List Operation) (track : Media.Track) :
    (visit devices operations).lobby.granted track = true ↔
      ∃ front operation, front ++ [operation] <+: operations ∧
        (track, .ok ()) ∈ (visit devices front).lobby.requests operation := by
  induction operations using List.reverseRecOn with
  | nil =>
      constructor
      · intro granted
        cases track <;> cases granted
      · rintro ⟨front, operation, earlier, _asked⟩
        exact absurd (List.prefix_nil.mp earlier) (List.append_ne_nil_of_right_ne_nil _ nofun)
  | append_singleton before last ih =>
      rw [visit_append]
      change ((visit devices before).lobby.perform last).lobby.granted track = true ↔ _
      rw [granted_perform, ih]
      constructor
      · rintro (⟨front, operation, earlier, asked⟩ | asked)
        · exact ⟨front, operation, List.prefix_concat_iff.mpr (Or.inr earlier), asked⟩
        · exact ⟨before, last, List.prefix_rfl, asked⟩
      · rintro ⟨front, operation, earlier, asked⟩
        rcases List.prefix_concat_iff.mp earlier with same | earlier
        · obtain ⟨rfl, rfl⟩ := List.append_singleton_inj.mp same
          exact Or.inr asked
        · exact Or.inl ⟨front, operation, earlier, asked⟩

theorem preference_visit (devices : Devices) (operations : List Operation) (track : Media.Track) :
    (visit devices operations).lobby.preference track = lastPreference track operations := by
  induction operations using List.reverseRecOn with
  | nil => cases track <;> rfl
  | append_singleton before last ih =>
      rw [visit_append]
      change ((visit devices before).lobby.perform last).lobby.preference track = _
      rw [preference_perform, ih, lastPreference, lastPreference, List.filterMap_append]
      cases set : Operation.preference? track last with
      | none => simp [set]
      | some enabled => simp [set]

/-- From one moment of a visit to a later one, nothing becomes of a device and of what is remembered
of it. -/
structure Spares (track : Media.Track) (before after : After) : Prop where
  stream : after.lobby.stream track = before.lobby.stream track
  granted : after.lobby.granted track = before.lobby.granted track
  outcomes : after.lobby.devices.outcomes track = before.lobby.devices.outcomes track
  unused : ∃ uses, after.uses = before.uses ++ uses ∧ ∀ use ∈ uses, use.track ≠ track

/-- A stream that is held belongs to the device it is held for. -/
theorem track_of_held {devices : Devices} {operations : List Operation} {track : Media.Track}
    {stream : Stream} (held : (visit devices operations).lobby.stream track = some stream) :
    stream.track = track :=
  ((follows_visit devices operations).balanced.mem_live held).2

/-- A request for one device spares the other, whatever comes of it. -/
theorem spares_request (devices : Devices) (operations : List Operation)
    {track other : Media.Track} (apart : other ≠ track) :
    Spares other (visit devices operations) (visit devices (operations ++ [.request track])) := by
  have asked := visit_append devices operations (.request track)
  obtain ⟨stream, outcomes⟩ :=
    @request_elsewhere (visit devices operations).lobby track other apart
  rw [asked]
  refine ⟨stream, ?_, outcomes, _, rfl, ?_⟩
  · apply Bool.eq_iff_iff.mpr
    refine (granted_request _ track other).trans (or_iff_left ?_)
    rintro ⟨same, _succeeded⟩
    exact apart same.symm
  · obtain ⟨_result, _devices, _opens, uses, _ends⟩ :=
      (visit devices operations).lobby.request_cases track
    intro use member
    change use ∈ ((visit devices operations).lobby.request track).uses at member
    rw [uses, stop] at member
    rcases List.mem_append.mp member with stopped | opened
    · obtain ⟨stream, held, rfl⟩ := List.mem_map.mp stopped
      have owned := track_of_held (Option.mem_toList.mp held)
      exact fun same => apart (same.symm.trans owned)
    · rw [List.mem_singleton.mp opened]
      exact Ne.symm apart

theorem visit_check_of_ok {devices : Devices} {operations : List Operation}
    (succeeded : (visit devices (operations ++ [.request .audio])).result = .ok ()) :
    visit devices (operations ++ [.check]) =
      visit devices (operations ++ [.request .audio, .request .video]) := by
  have asked := visit_append devices operations (.request .audio)
  have checked := visit_append devices operations .check
  have both := visit_append devices (operations ++ [.request .audio]) (.request .video)
  rw [List.append_assoc, List.singleton_append] at both
  rw [asked] at succeeded both
  rw [checked, both, After.andThen_assoc]
  exact congrArg _ (check_of_ok succeeded)

theorem visit_check_of_error {devices : Devices} {operations : List Operation}
    {fault : Media.DeviceFault}
    (failed : (visit devices (operations ++ [.request .audio])).result = .error fault) :
    visit devices (operations ++ [.check]) = visit devices (operations ++ [.request .audio]) := by
  rw [visit_append] at failed
  rw [visit_append, visit_append]
  exact congrArg _ (check_of_error failed)

/-- Whatever the devices do and whatever a visitor does: a permission is held exactly if a request for
the device, made on its own or in a check, has succeeded so far. If a request for the microphone would
succeed next, a check does what this request and then one for the camera do; if it would fail, a check
does just what this request does, fails for the same reason and spares the camera. A request to join
has the address and the token that it is made with and the preferences that were set last. -/
theorem lobby_remembers_visit (devices : Devices) (operations : List Operation) :
    (∀ track, (visit devices operations).lobby.granted track = true ↔
      ∃ front operation, front ++ [operation] <+: operations ∧
        (track, .ok ()) ∈ (visit devices front).lobby.requests operation) ∧
    ((visit devices (operations ++ [.request .audio])).result = .ok () →
      visit devices (operations ++ [.check]) =
        visit devices (operations ++ [.request .audio, .request .video])) ∧
    (∀ fault, (visit devices (operations ++ [.request .audio])).result = .error fault →
      visit devices (operations ++ [.check]) = visit devices (operations ++ [.request .audio]) ∧
        (visit devices (operations ++ [.check])).result = .error fault ∧
        Spares .video (visit devices operations) (visit devices (operations ++ [.check]))) ∧
    ∀ url token, (visit devices operations).lobby.joinRequest url token =
      { url := url, token := token
        audio := lastPreference .audio operations, video := lastPreference .video operations } := by
  refine ⟨granted_visit devices operations, visit_check_of_ok, ?_, ?_⟩
  · intro fault failed
    have same := visit_check_of_error failed
    refine ⟨same, ?_, ?_⟩
    · rw [same, failed]
    · rw [same]
      exact spares_request devices operations (by decide)
  · intro url token
    rw [← preference_visit devices operations .audio, ← preference_visit devices operations .video]
    rfl

def failingDevices : Devices :=
  { microphone := [none, some (.permissionDenied "in use")]
    camera := [some (.unavailable "unplugged")]
    opened := 0 }

theorem microphone_granted_for_good :
    (visit failingDevices [.request .audio]).result = .ok () ∧
      (visit failingDevices [.check]).result = .error (.unavailable "unplugged") ∧
      (visit failingDevices [.check, .check]).result = .error (.permissionDenied "in use") ∧
      Spares .video (visit failingDevices [.check]) (visit failingDevices [.check, .check]) ∧
      (visit failingDevices [.check, .prefer .video false, .check, .tidy]).lobby.granted .audio =
        true ∧
      (visit failingDevices [.check, .prefer .video false, .check, .tidy]).lobby.joinRequest
          "wss://media" "token" =
        { url := "wss://media", token := "token", audio := true, video := false } := by
  obtain ⟨_granted, succeeds, _fails, _request⟩ := lobby_remembers_visit failingDevices []
  obtain ⟨_granted, _succeeds, fails, _request⟩ := lobby_remembers_visit failingDevices [.check]
  obtain ⟨granted, _succeeds, _fails, request⟩ :=
    lobby_remembers_visit failingDevices [.check, .prefer .video false, .check, .tidy]
  have failed : (visit failingDevices [.check, .request .audio]).result =
      .error (.permissionDenied "in use") := rfl
  obtain ⟨_same, same, spared⟩ := fails _ failed
  refine ⟨rfl, ?_, same, spared, ?_, request _ _⟩
  · exact congrArg After.result (succeeds rfl)
  · exact (granted .audio).mpr ⟨[], .check, ⟨_, rfl⟩, List.mem_cons_self⟩

end MeetingRoom.Lobby
