import MeetingRoom.Proofs.Events
import MeetingRoom.Proofs.Refreshes

/-!
What an event leaves alone. An event that names somebody does nothing to the session but to the
roster, and nothing to the roster but to the entry of that identity: the others stay as they are and
in their order. Of the entry itself an event on a track takes over the media state only, and one on
the metadata only name and avatar.
-/

namespace MeetingRoom

variable {Remote : Type}

def Media.Event.named? : Media.Event Remote → Option String
  | .joined snapshot => some snapshot.identity
  | .left identity => some identity
  | .track _ identity _ => some identity
  | .metadata identity => some identity
  | _ => none

namespace Participant

structure SameButMedia (before after : Participant Remote) : Prop where
  rest : after = { before with audio := after.audio, video := after.video, handle := after.handle }
  handle : before.kind ≠ .remote → after.handle = before.handle

def SameButFace (before after : Participant Remote) : Prop :=
  after = { before with name := after.name, avatar := after.avatar }

theorem sameButMedia_withMedia (known? : Option (Media.Snapshot Remote))
    (entry : Participant Remote) : entry.SameButMedia ((known?.map entry.withMedia).getD entry) := by
  cases known? with
  | none => exact ⟨rfl, fun _other => rfl⟩
  | some snapshot => exact ⟨rfl, fun other => if_neg other⟩

theorem sameButFace_withMetadata (known? : Option (Media.Snapshot Remote))
    (entry : Participant Remote) :
    entry.SameButFace ((known?.map entry.withMetadata).getD entry) := by
  cases known? with
  | none => rfl
  | some snapshot => rfl

end Participant

namespace Session

/-- Nothing is touched but the entry of one identity, which may come, go or change. -/
structure Spares (identity : String) (session after : Session Remote) : Prop where
  rest : after = { session with roster := after.roster }
  others : after.participants.filter (·.id ≠ identity) =
    session.participants.filter (·.id ≠ identity)

variable {view : Media.View Remote} {session : Session Remote} {identity : String}

theorem Spares.refl (identity : String) (session : Session Remote) :
    session.Spares identity session := ⟨rfl, rfl⟩

theorem spares_join (snapshot : Media.Snapshot Remote) :
    session.Spares snapshot.identity (session.join snapshot).session := by
  rw [session_join]
  refine ⟨rfl, ?_⟩
  change (session.roster.add (.ofSnapshot .remote snapshot)).toList.filter _ = _
  rw [Roster.toList_add]
  split
  · rfl
  · have own : (Participant.ofSnapshot .remote snapshot).id = snapshot.identity := rfl
    rw [List.filter_append, List.filter_cons_of_neg (by simpa using own), List.filter_nil,
      List.append_nil]
    rfl

theorem spares_leave (identity : String) :
    session.Spares identity (session.leave identity).session := by
  rw [session_leave]
  refine ⟨rfl, ?_⟩
  dsimp only [participants]
  split
  · rfl
  · rw [Roster.toList_remove, List.filter_filter]
    simp only [Bool.and_self]

/-- A change of the entry that keeps its identity leaves the others alone. -/
private theorem filter_change {change : Participant Remote → Participant Remote}
    (keeps : ∀ entry, (change entry).id = entry.id) (participants : List (Participant Remote)) :
    (participants.map fun entry => if entry.id = identity then change entry else entry).filter
        (·.id ≠ identity) = participants.filter (·.id ≠ identity) := by
  induction participants with
  | nil => rfl
  | cons first rest ih =>
      rw [List.map_cons]
      by_cases same : first.id = identity
      · rw [if_pos same, List.filter_cons_of_neg (by simpa [keeps] using same),
          List.filter_cons_of_neg (by simpa using same), ih]
      · rw [if_neg same, List.filter_cons_of_pos (by simpa using same),
          List.filter_cons_of_pos (by simpa using same), ih]

theorem spares_refreshMedia (identity : String) :
    session.Spares identity (session.refreshMedia view identity).session := by
  refine ⟨by rw [session_refreshMedia], ?_⟩
  rw [participants_refreshMedia]
  refine filter_change ?_ session.participants
  intro entry
  cases session.truth? view identity <;> rfl

theorem spares_refreshMetadata (identity : String) :
    session.Spares identity (session.refreshMetadata view identity).session := by
  refine ⟨by rw [session_refreshMetadata], ?_⟩
  rw [participants_refreshMetadata]
  refine filter_change ?_ session.participants
  intro entry
  cases session.truth? view identity <;> rfl

theorem spares_apply {event : Media.Event Remote} (named : event.named? = some identity) :
    session.Spares identity (session.apply view event).session := by
  unfold apply
  split
  · cases event with
    | joined snapshot => cases named; exact spares_join snapshot
    | left identity => cases named; exact spares_leave identity
    | track change identity track => cases named; exact spares_refreshMedia identity
    | metadata identity => cases named; exact spares_refreshMetadata identity
    | _ => cases named
  · exact .refl identity session

/-- Outside a call, too, an event on a track is as if the entry took over its media state or not. -/
theorem participants_track (view : Media.View Remote) (session : Session Remote)
    (turn : Media.TrackChange) (identity : String) (track : Media.Track) :
    ∃ change : Participant Remote → Participant Remote,
      (∀ entry, Participant.SameButMedia entry (change entry)) ∧
      (session.apply view (.track turn identity track)).session.participants =
        session.participants.map fun entry =>
          if entry.id = identity then change entry else entry := by
  cases inCall : session.inCall with
  | true =>
      refine ⟨fun entry => ((session.truth? view identity).map entry.withMedia).getD entry,
        Participant.sameButMedia_withMedia _, ?_⟩
      rw [apply_track (live_iff.mp (inCall_iff.mp inCall)), participants_refreshMedia]
  | false =>
      refine ⟨id, Participant.sameButMedia_withMedia none, ?_⟩
      rw [apply, inCall]
      simp [ignore]

theorem participants_metadata (view : Media.View Remote) (session : Session Remote)
    (identity : String) :
    ∃ change : Participant Remote → Participant Remote,
      (∀ entry, Participant.SameButFace entry (change entry)) ∧
      (session.apply view (.metadata identity)).session.participants =
        session.participants.map fun entry =>
          if entry.id = identity then change entry else entry := by
  cases inCall : session.inCall with
  | true =>
      refine ⟨fun entry => ((session.truth? view identity).map entry.withMetadata).getD entry,
        Participant.sameButFace_withMetadata _, ?_⟩
      rw [apply_metadata (live_iff.mp (inCall_iff.mp inCall)), participants_refreshMetadata]
  | false =>
      refine ⟨id, fun _entry => rfl, ?_⟩
      rw [apply, inCall]
      simp [ignore]

theorem result_ended_iff {event : Media.Event Remote} :
    (session.apply view event).result = .ended ↔
      (session.call = .connected ∨ session.call = .reconnecting) ∧
        ∃ reason, event = .disconnected reason := by
  rw [← live_iff, ← inCall_iff]
  unfold apply
  cases inCall : session.inCall with
  | false => exact iff_of_false nofun fun both => Bool.false_ne_true both.1
  | true =>
      rw [if_pos rfl, and_iff_right rfl]
      cases event with
      | disconnected reason => exact iff_of_true rfl ⟨reason, rfl⟩
      | joined snapshot =>
          refine iff_of_false ?_ nofun
          dsimp only [join]
          split <;> nofun
      | left identity =>
          refine iff_of_false ?_ nofun
          dsimp only [leave]
          split
          · nofun
          · split <;> nofun
      | track turn identity track =>
          refine iff_of_false ?_ nofun
          dsimp only [refreshMedia]
          split <;> nofun
      | metadata identity =>
          refine iff_of_false ?_ nofun
          dsimp only [refreshMetadata]
          split <;> nofun
      | _ => exact iff_of_false nofun nofun

/-- Whatever the session, the view and the event: if it is ignored the session is exactly as it was;
the session ends exactly by a disconnect in a call; an event that names somebody touches nothing but
the entry of that identity; of this entry an event on a track takes over the media state at most, and
one on the metadata the name and the avatar; and the own participant does not leave. -/
theorem events_touch_only_whom_they_name (view : Media.View Remote) (session : Session Remote)
    (event : Media.Event Remote) :
    ((session.apply view event).result = .ignored →
      (session.apply view event).session = session) ∧
    ((session.apply view event).result = .ended ↔
      (session.call = .connected ∨ session.call = .reconnecting) ∧
        ∃ reason, event = .disconnected reason) ∧
    (∀ identity, event.named? = some identity →
      session.Spares identity (session.apply view event).session) ∧
    (∀ turn identity track, event = .track turn identity track →
      ∃ change : Participant Remote → Participant Remote,
        (∀ entry, Participant.SameButMedia entry (change entry)) ∧
        (session.apply view event).session.participants =
          session.participants.map fun entry =>
            if entry.id = identity then change entry else entry) ∧
    (∀ identity, event = .metadata identity →
      ∃ change : Participant Remote → Participant Remote,
        (∀ entry, Participant.SameButFace entry (change entry)) ∧
        (session.apply view event).session.participants =
          session.participants.map fun entry =>
            if entry.id = identity then change entry else entry) ∧
    ∀ identity, event = .left identity → session.identity = some identity →
      (session.apply view event).session = session := by
  refine ⟨session_of_ignored view session, result_ended_iff, ?_, ?_, ?_, ?_⟩
  · intro identity named
    exact spares_apply named
  · rintro turn identity track rfl
    exact participants_track view session turn identity track
  · rintro identity rfl
    exact participants_metadata view session identity
  · rintro identity rfl own
    unfold apply
    split
    · dsimp only
      rw [session_leave, if_pos own]
    · rfl

def crowdedSession : Session Unit :=
  { staleSession with
    roster := Roster.ofList
      [Participant.ofSnapshot .own (bare "alex"), Participant.ofSnapshot .remote (bare "guest"),
        Participant.ofSnapshot .remote (bare "gone")] }

theorem guest_turned_and_nobody_else :
    crowdedSession.Spares "guest"
        (crowdedSession.apply renamedView (.track .muted "guest" .audio)).session ∧
      (crowdedSession.apply renamedView (.left "alex")).session = crowdedSession := by
  have turned := @events_touch_only_whom_they_name Unit renamedView crowdedSession
    (.track .muted "guest" .audio)
  have stayed := @events_touch_only_whom_they_name Unit renamedView crowdedSession (.left "alex")
  obtain ⟨_ignored, _ended, spares, _rest⟩ := turned
  exact ⟨spares "guest" rfl, stayed.2.2.2.2.2 "alex" rfl rfl⟩

end Session

end MeetingRoom
