import MeetingRoom.Lobby

/-!
What becomes of the previews. The devices keep a ledger of their own, of the streams that they have
opened and of those that were stopped, and know nothing of the lobby. Whenever the lobby waits for a
device or has done what it was asked to, the streams that are live are those that it holds, at most
one of each device. It gets there by opening a device only when nothing is live on it and by stopping
only what is live, so once it is left everything that was opened has been stopped, and once only.
-/

namespace MeetingRoom.Lobby

/-! ### Devices -/

namespace Devices

variable {devices later : Devices} {track : Media.Track}

theorem opened_advance (devices : Devices) (track : Media.Track) :
    (devices.advance track).opened = devices.opened := by
  cases track <;> rfl

theorem open?_ok {stream : Stream} (opens : devices.open? track = (.ok stream, later)) :
    stream = { track := track, number := devices.opened + 1 } ∧
      later.opened = devices.opened + 1 := by
  unfold open? at opens
  split at opens
  · cases opens
  · cases opens
    exact ⟨rfl, rfl⟩

theorem open?_error {fault : Media.DeviceFault}
    (fails : devices.open? track = (.error fault, later)) : later.opened = devices.opened := by
  unfold open? at fails
  split at fails
  · cases fails
    exact opened_advance devices track
  · cases fails

end Devices

/-! ### Ledgers -/

structure Ledger where
  devices : Devices
  opened : List Stream
  stopped : List Stream
  deriving DecidableEq

namespace Ledger

def start (devices : Devices) : Ledger := { devices := devices, opened := [], stopped := [] }

def record (ledger : Ledger) : Use → Ledger
  | .open track =>
      match ledger.devices.open? track with
      | (.ok stream, devices) =>
          { ledger with devices := devices, opened := ledger.opened ++ [stream] }
      | (.error _, devices) => { ledger with devices := devices }
  | .stop stream => { ledger with stopped := ledger.stopped ++ [stream] }

def recordAll (ledger : Ledger) (uses : List Use) : Ledger := uses.foldl record ledger

def live (ledger : Ledger) : List Stream := ledger.opened.filter (· ∉ ledger.stopped)

def liveOn (ledger : Ledger) (track : Media.Track) : List Stream :=
  ledger.live.filter (·.track = track)

/-- A device is opened when nothing is live on it, and what is stopped is live. -/
def Allows (ledger : Ledger) : Use → Prop
  | .open track => ledger.liveOn track = []
  | .stop stream => stream ∈ ledger.live

def Careful : Ledger → List Use → Prop
  | _, [] => True
  | ledger, use :: rest => ledger.Allows use ∧ (ledger.record use).Careful rest

variable {ledger : Ledger}

theorem recordAll_append (ledger : Ledger) (front back : List Use) :
    ledger.recordAll (front ++ back) = (ledger.recordAll front).recordAll back :=
  List.foldl_append

theorem careful_append {front back : List Use} :
    ledger.Careful (front ++ back) ↔
      ledger.Careful front ∧ (ledger.recordAll front).Careful back := by
  induction front generalizing ledger with
  | nil => exact (and_iff_right trivial).symm
  | cons use rest ih =>
      rw [List.cons_append, Careful, ih, Careful, and_assoc]
      rfl

theorem Careful.allows {uses front : List Use} {use : Use} (careful : ledger.Careful uses)
    (earlier : front ++ [use] <+: uses) : (ledger.recordAll front).Allows use := by
  obtain ⟨back, rfl⟩ := earlier
  rw [List.append_assoc] at careful
  exact (careful_append.mp careful).2.1

theorem mem_live {stream : Stream} :
    stream ∈ ledger.live ↔ stream ∈ ledger.opened ∧ stream ∉ ledger.stopped := by
  rw [live, List.mem_filter, decide_eq_true_eq]

theorem mem_liveOn {track : Media.Track} {stream : Stream} :
    stream ∈ ledger.liveOn track ↔ stream ∈ ledger.live ∧ stream.track = track := by
  rw [liveOn, List.mem_filter, decide_eq_true_eq]

theorem liveOn_stop (ledger : Ledger) (stream : Stream) (track : Media.Track) :
    (ledger.record (.stop stream)).liveOn track =
      (ledger.liveOn track).filter (· ≠ stream) := by
  simp only [liveOn, live, record, List.filter_filter]
  apply List.filter_congr
  intro other _opened
  by_cases same : other = stream
  · simp [same]
  · simp [same]

theorem liveOn_open {track : Media.Track} {stream : Stream} {devices : Devices}
    (opens : ledger.devices.open? track = (.ok stream, devices))
    (new : stream ∉ ledger.stopped) (other : Media.Track) :
    (ledger.record (.open track)).liveOn other =
      ledger.liveOn other ++ if stream.track = other then [stream] else [] := by
  simp only [liveOn, live, record, opens, List.filter_append]
  congr 1
  by_cases same : stream.track = other
  · simp [new, same]
  · simp [new, same]

end Ledger

def Devices.ledger (devices : Devices) (uses : List Use) : Ledger :=
  (Ledger.start devices).recordAll uses

/-! ### Parts of operations -/

def After.andThen (first second : After) : After :=
  { second with
    uses := first.uses ++ second.uses
    journal := first.journal ++ second.journal }

def opening (lobby : Lobby) (track : Media.Track) : After :=
  match lobby.devices.open? track with
  | (.ok stream, devices) =>
      { lobby := ({ lobby with devices := devices }.grant track).setStream track (some stream)
        uses := [.open track]
        journal := [Journal.info (deviceWord track ++ " access granted")] }
  | (.error fault, devices) =>
      { lobby := { lobby with devices := devices }
        result := .error fault
        uses := [.open track]
        journal := [Journal.error (deviceWord track ++ " permission denied: " ++ fault.message)] }

section Parts

variable (lobby : Lobby) (track other : Media.Track)

theorem request_eq :
    lobby.request track = (lobby.stop track).andThen ((lobby.stop track).lobby.opening track) := by
  unfold request opening
  dsimp only
  cases (lobby.stop track).lobby.devices.open? track with
  | mk result devices => cases result <;> rfl

theorem tidy_eq :
    lobby.tidy = (lobby.stop .audio).andThen ((lobby.stop .audio).lobby.stop .video) := rfl

theorem stream_setStream (stream? : Option Stream) :
    (lobby.setStream track stream?).stream other =
      if other = track then stream? else lobby.stream other := by
  cases track <;> cases other <;> rfl

theorem stream_grant : (lobby.grant track).stream other = lobby.stream other := by
  cases track <;> cases other <;> rfl

theorem stream_stop :
    (lobby.stop track).lobby.stream other = if other = track then none else lobby.stream other :=
  stream_setStream lobby track other none

theorem stop_of_none {lobby : Lobby} {track : Media.Track} (unheld : lobby.stream track = none) :
    lobby.stop track = { lobby := lobby } := by
  have same : lobby.setStream track none = lobby := by
    cases lobby
    cases track <;> cases unheld <;> rfl
  rw [stop, same, unheld]
  rfl

theorem stop_of_some {lobby : Lobby} {track : Media.Track} {stream : Stream}
    (held : lobby.stream track = some stream) :
    lobby.stop track = { lobby := lobby.setStream track none, uses := [.stop stream] } := by
  rw [stop, held]
  rfl

theorem devices_setStream (stream? : Option Stream) :
    (lobby.setStream track stream?).devices = lobby.devices := by
  cases track <;> rfl

theorem devices_grant : (lobby.grant track).devices = lobby.devices := by
  cases track <;> rfl

end Parts

/-! ### Balance -/

structure Balanced (ledger : Ledger) (lobby : Lobby) : Prop where
  devices : ledger.devices = lobby.devices
  held : ∀ track, ledger.liveOn track = (lobby.stream track).toList
  /-- Numbers go up, so that a new stream is none of the old ones. -/
  numbered : ∀ stream ∈ ledger.opened, stream.number ≤ ledger.devices.opened
  distinct : ledger.opened.Nodup
  known : ∀ stream ∈ ledger.stopped, stream ∈ ledger.opened
  once : ledger.stopped.Nodup

structure Follows (ledger : Ledger) (after : After) : Prop where
  careful : ledger.Careful after.uses
  balanced : Balanced (ledger.recordAll after.uses) after.lobby

theorem Follows.andThen {ledger : Ledger} {first second : After} (follows : Follows ledger first)
    (goesOn : Follows (ledger.recordAll first.uses) second) :
    Follows ledger (first.andThen second) := by
  constructor
  · exact Ledger.careful_append.mpr ⟨follows.careful, goesOn.careful⟩
  · change Balanced (ledger.recordAll (first.uses ++ second.uses)) second.lobby
    rw [Ledger.recordAll_append]
    exact goesOn.balanced

namespace Balanced

variable {ledger : Ledger} {lobby : Lobby}

theorem start (devices : Devices) : Balanced (.start devices) (enter devices) where
  devices := rfl
  held track := by cases track <;> rfl
  numbered := nofun
  distinct := List.nodup_nil
  known := nofun
  once := List.nodup_nil

theorem rest (balanced : Balanced ledger lobby) : Follows ledger { lobby := lobby } :=
  ⟨trivial, balanced⟩

theorem prefer (balanced : Balanced ledger lobby) (track : Media.Track) (enabled : Bool) :
    Follows ledger { lobby := lobby.prefer track enabled } := by
  refine ⟨trivial, ?_, ?_, balanced.numbered, balanced.distinct, balanced.known, balanced.once⟩
  · cases track <;> exact balanced.devices
  · intro other
    cases track <;> cases other <;> exact balanced.held _

theorem mem_live (balanced : Balanced ledger lobby) {track : Media.Track} {stream : Stream}
    (held : lobby.stream track = some stream) : stream ∈ ledger.live ∧ stream.track = track := by
  rw [← Ledger.mem_liveOn, balanced.held, held]
  exact List.mem_singleton_self stream

theorem stop (balanced : Balanced ledger lobby) (track : Media.Track) :
    Follows ledger (lobby.stop track) := by
  cases held : lobby.stream track with
  | none =>
      rw [stop_of_none held]
      exact balanced.rest
  | some stream =>
      obtain ⟨live, owns⟩ := balanced.mem_live held
      obtain ⟨opened, running⟩ := Ledger.mem_live.mp live
      rw [stop_of_some held]
      refine ⟨⟨live, trivial⟩, ?_, ?_, balanced.numbered, balanced.distinct, ?_, ?_⟩
      · exact balanced.devices.trans (devices_setStream lobby track none).symm
      · intro other
        change (ledger.record (.stop stream)).liveOn other = _
        rw [Ledger.liveOn_stop, balanced.held, stream_setStream]
        by_cases same : other = track
        · rw [if_pos same, same, held]
          simp
        · -- What is live on the other device is not the stream that was stopped.
          rw [if_neg same, List.filter_eq_self]
          intro kept member
          have elsewhere := (balanced.mem_live (Option.mem_toList.mp member)).2
          rw [decide_eq_true_eq]
          intro equal
          rw [equal, owns] at elsewhere
          exact same elsewhere.symm
      · intro gone member
        rcases List.mem_append.mp member with old | new
        · exact balanced.known gone old
        · rw [List.mem_singleton.mp new]
          exact opened
      · exact (List.perm_append_singleton stream _).nodup_iff.mpr
          (List.nodup_cons.mpr ⟨running, balanced.once⟩)

section Opening

variable {track : Media.Track} {later : Devices}

theorem fails (balanced : Balanced ledger lobby) {fault : Media.DeviceFault}
    (failed : ledger.devices.open? track = (.error fault, later)) :
    Balanced (ledger.record (.open track)) { lobby with devices := later } := by
  rw [Ledger.record, failed]
  refine ⟨rfl, ?_, ?_, balanced.distinct, balanced.known, balanced.once⟩
  · intro other
    cases other <;> exact balanced.held _
  · intro stream opened
    rw [Devices.open?_error failed]
    exact balanced.numbered stream opened

theorem opens (balanced : Balanced ledger lobby) (unheld : lobby.stream track = none)
    {stream : Stream} (opened : ledger.devices.open? track = (.ok stream, later)) :
    Balanced (ledger.record (.open track))
      (({ lobby with devices := later }.grant track).setStream track (some stream)) := by
  obtain ⟨given, counted⟩ := Devices.open?_ok opened
  -- Its number is higher than any so far, so it cannot have been stopped already either.
  have new : stream ∉ ledger.opened := by
    intro old
    have before := balanced.numbered stream old
    rw [given] at before
    exact Nat.not_succ_le_self _ before
  have grown : (ledger.record (.open track)).opened = ledger.opened ++ [stream] := by
    rw [Ledger.record, opened]
  have moved : (ledger.record (.open track)).devices = later := by rw [Ledger.record, opened]
  have same : (ledger.record (.open track)).stopped = ledger.stopped := by
    rw [Ledger.record, opened]
  constructor
  · rw [moved, devices_setStream, devices_grant]
  · intro other
    rw [Ledger.liveOn_open opened (fun stopped => new (balanced.known stream stopped)),
      balanced.held, stream_setStream, stream_grant]
    by_cases here : other = track
    · rw [if_pos here, here, unheld, if_pos (by rw [given])]
      rfl
    · rw [if_neg here, if_neg (by rw [given]; exact Ne.symm here), List.append_nil]
      cases other <;> rfl
  · intro any member
    rw [moved, counted]
    rw [grown] at member
    rcases List.mem_append.mp member with old | newest
    · exact Nat.le_succ_of_le (balanced.numbered any old)
    · exact Nat.le_of_eq (congrArg (·.number) ((List.mem_singleton.mp newest).trans given))
  · rw [grown]
    exact (List.perm_append_singleton stream _).nodup_iff.mpr
      (List.nodup_cons.mpr ⟨new, balanced.distinct⟩)
  · intro any stopped
    rw [same] at stopped
    rw [grown]
    exact List.mem_append_left [stream] (balanced.known any stopped)
  · rw [same]
    exact balanced.once

theorem opening (balanced : Balanced ledger lobby) (unheld : lobby.stream track = none) :
    Follows ledger (lobby.opening track) := by
  have silent : ledger.liveOn track = [] := by
    rw [balanced.held, unheld]
    rfl
  cases opened : lobby.devices.open? track with
  | mk result later =>
      have recorded := opened
      rw [← balanced.devices] at recorded
      unfold Lobby.opening
      rw [opened]
      cases result with
      | error fault => exact ⟨⟨silent, trivial⟩, balanced.fails recorded⟩
      | ok stream => exact ⟨⟨silent, trivial⟩, balanced.opens unheld recorded⟩

end Opening

theorem request (balanced : Balanced ledger lobby) (track : Media.Track) :
    Follows ledger (lobby.request track) := by
  rw [request_eq]
  refine (balanced.stop track).andThen ((balanced.stop track).balanced.opening ?_)
  rw [stream_stop, if_pos rfl]

theorem tidy (balanced : Balanced ledger lobby) : Follows ledger lobby.tidy := by
  rw [tidy_eq]
  exact (balanced.stop .audio).andThen ((balanced.stop .audio).balanced.stop .video)

end Balanced

/-! ### Visits -/

inductive Operation where
  | request (track : Media.Track)
  | check
  | tidy
  | prefer (track : Media.Track) (enabled : Bool)
  deriving DecidableEq

def perform (lobby : Lobby) : Operation → After
  | .request track => lobby.request track
  | .check => lobby.check
  | .tidy => lobby.tidy
  | .prefer track enabled => { lobby := lobby.prefer track enabled }

def visit (devices : Devices) (operations : List Operation) : After :=
  operations.foldl (fun visit operation => visit.andThen (visit.lobby.perform operation))
    { lobby := enter devices }

/-- The moments of a request: before it, while it waits for the device and when it is over. -/
def requestMoments (lobby : Lobby) (track : Media.Track) : List After :=
  [{ lobby := lobby }, lobby.stop track, lobby.request track]

def moments (lobby : Lobby) : Operation → List After
  | .request track => lobby.requestMoments track
  | .check =>
      let first := lobby.request .audio
      lobby.requestMoments .audio ++
        match first.result with
        | .error _ => []
        | .ok _ => (first.lobby.requestMoments .video).map first.andThen
  | operation => [{ lobby := lobby }, lobby.perform operation]

theorem getLast?_moments (lobby : Lobby) (operation : Operation) :
    (lobby.moments operation).getLast? = some (lobby.perform operation) := by
  cases operation with
  | check =>
      unfold moments perform check
      dsimp only
      cases (lobby.request .audio).result <;> rfl
  | _ => rfl

theorem Balanced.requestMoments {ledger : Ledger} {lobby : Lobby}
    (balanced : Balanced ledger lobby) (track : Media.Track) :
    ∀ moment ∈ lobby.requestMoments track, Follows ledger moment := by
  intro moment member
  simp only [Lobby.requestMoments, List.mem_cons, List.not_mem_nil, or_false] at member
  rcases member with rfl | rfl | rfl
  · exact balanced.rest
  · exact balanced.stop track
  · exact balanced.request track

theorem Balanced.moments {ledger : Ledger} {lobby : Lobby} (balanced : Balanced ledger lobby)
    (operation : Operation) : ∀ moment ∈ lobby.moments operation, Follows ledger moment := by
  intro moment member
  cases operation with
  | request track => exact balanced.requestMoments track moment member
  | check =>
      rcases List.mem_append.mp member with first | second
      · exact balanced.requestMoments .audio moment first
      · have asked := balanced.request .audio
        split at second
        · cases second
        · obtain ⟨later, inside, rfl⟩ := List.mem_map.mp second
          exact asked.andThen (asked.balanced.requestMoments .video later inside)
  | tidy =>
      simp only [Lobby.moments, List.mem_cons, List.not_mem_nil, or_false] at member
      rcases member with rfl | rfl
      · exact balanced.rest
      · exact balanced.tidy
  | prefer track enabled =>
      simp only [Lobby.moments, List.mem_cons, List.not_mem_nil, or_false] at member
      rcases member with rfl | rfl
      · exact balanced.rest
      · exact balanced.prefer track enabled

theorem Balanced.perform {ledger : Ledger} {lobby : Lobby} (balanced : Balanced ledger lobby)
    (operation : Operation) : Follows ledger (lobby.perform operation) :=
  balanced.moments operation _ (List.mem_of_getLast? (getLast?_moments lobby operation))

theorem visit_append (devices : Devices) (operations : List Operation) (operation : Operation) :
    visit devices (operations ++ [operation]) =
      (visit devices operations).andThen
        ((visit devices operations).lobby.perform operation) := by
  rw [visit, List.foldl_append]
  rfl

theorem follows_visit (devices : Devices) (operations : List Operation) :
    Follows (.start devices) (visit devices operations) := by
  have goesOn : ∀ so : After, Follows (.start devices) so →
      Follows (.start devices)
        (operations.foldl (fun visit operation => visit.andThen (visit.lobby.perform operation))
          so) := by
    induction operations with
    | nil =>
        intro so follows
        exact follows
    | cons operation rest ih =>
        intro so follows
        exact ih _ (follows.andThen (follows.balanced.perform operation))
  exact goesOn _ (Balanced.start devices).rest

/-- Once the lobby is left nothing is held, so whatever was opened has been stopped. -/
theorem stopped_of_left {ledger : Ledger} {lobby : Lobby} (balanced : Balanced ledger lobby)
    (left : ∀ track, lobby.stream track = none) {stream : Stream} (opened : stream ∈ ledger.opened) :
    ledger.stopped.count stream = 1 := by
  have stopped : stream ∈ ledger.stopped := by
    by_cases stopped : stream ∈ ledger.stopped
    · exact stopped
    · have live := Ledger.mem_liveOn.mpr ⟨Ledger.mem_live.mpr ⟨opened, stopped⟩, rfl⟩
      rw [balanced.held, left] at live
      cases live
  exact Nat.le_antisymm (List.nodup_iff_count.mp balanced.once stream)
    (List.one_le_count_iff.mpr stopped)

/-- Whatever the devices do and whatever a visitor does: at every moment of the next operation the
streams that are live on a device are those that the lobby holds of it, none or one, and what it holds
was never stopped; a device has only been opened when nothing was live on it, and only what was live
has been stopped; and as soon as the lobby is left, every stream that was ever opened has been stopped
once. -/
theorem previews_in_balance (devices : Devices) (operations : List Operation) :
    (∀ operation, ∀ moment ∈ (visit devices operations).lobby.moments operation, ∀ track,
      (devices.ledger ((visit devices operations).uses ++ moment.uses)).liveOn track =
          (moment.lobby.stream track).toList ∧
        ∀ stream, moment.lobby.stream track = some stream → stream.track = track ∧
          stream ∉ (devices.ledger ((visit devices operations).uses ++ moment.uses)).stopped) ∧
    (∀ front track, front ++ [.open track] <+: (visit devices operations).uses →
      (devices.ledger front).liveOn track = []) ∧
    (∀ front stream, front ++ [.stop stream] <+: (visit devices operations).uses →
      stream ∈ (devices.ledger front).live) ∧
    ∀ stream ∈ (devices.ledger (visit devices (operations ++ [.tidy])).uses).opened,
      (devices.ledger (visit devices (operations ++ [.tidy])).uses).stopped.count stream = 1 := by
  have follows := follows_visit devices operations
  refine ⟨?_, ?_, ?_, ?_⟩
  · intro operation moment member track
    have balanced := (follows.andThen (follows.balanced.moments operation moment member)).balanced
    refine ⟨balanced.held track, ?_⟩
    intro stream held
    obtain ⟨live, owns⟩ := balanced.mem_live held
    exact ⟨owns, (Ledger.mem_live.mp live).2⟩
  · intro front track earlier
    exact follows.careful.allows earlier
  · intro front stream earlier
    exact follows.careful.allows earlier
  · intro stream opened
    refine stopped_of_left (follows_visit devices (operations ++ [.tidy])).balanced ?_ opened
    intro track
    rw [visit_append]
    cases track <;> rfl

/-- A microphone that is asked for three times, in vain the second time, and a camera that is asked for
once; the visitor tidies up in between. -/
def restlessVisit : List Operation :=
  [.check, .request .audio, .prefer .audio false, .tidy, .request .audio]

def unwillingDevices : Devices :=
  { microphone := [none, some (.permissionDenied "in use")], camera := [], opened := 0 }

theorem restless_visit_in_balance :
    (visit unwillingDevices restlessVisit).uses =
        [.open .audio, .open .video, .stop { track := .audio, number := 1 }, .open .audio,
          .stop { track := .video, number := 2 }, .open .audio] ∧
      (unwillingDevices.ledger (visit unwillingDevices restlessVisit).uses).liveOn .audio =
        [{ track := .audio, number := 3 }] ∧
      (unwillingDevices.ledger
        (visit unwillingDevices (restlessVisit ++ [.tidy])).uses).stopped.count
          { track := .audio, number := 3 } = 1 := by
  obtain ⟨moments, _opens, _stops, left⟩ := previews_in_balance unwillingDevices restlessVisit
  refine ⟨rfl, ?_, left _ (by decide)⟩
  have waiting := (moments .tidy _ List.mem_cons_self .audio).1
  rw [List.append_nil] at waiting
  exact waiting

end MeetingRoom.Lobby
