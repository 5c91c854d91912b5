import MeetingRoom.Roster.View
import MeetingRoom.Session.Event

/-!
What an event makes of a session. An event that names a participant changes the roster and nothing
else. It looks first whether that participant is listed, but for the roster this makes no
difference: who is not listed cannot be taken off it, and has no entry to refresh.
-/

namespace MeetingRoom.Session

variable {Remote : Type} (view : Media.View Remote) (session : Session Remote)

theorem session_join (snapshot : Media.Snapshot Remote) :
    (session.join snapshot).session =
      { session with roster := session.roster.add (.ofSnapshot .remote snapshot) } := by
  unfold join Roster.add
  cases session.roster.add? (.ofSnapshot .remote snapshot) with
  | none => rfl
  | some added => rfl

theorem session_leave (identity : String) :
    (session.leave identity).session =
      { session with
        roster := if session.identity = some identity then session.roster
          else session.roster.remove identity } := by
  unfold leave
  by_cases own : session.identity = some identity
  · rw [if_pos own, if_pos own]
  · rw [if_neg own, if_neg own]
    cases listed : session.roster.contains identity with
    | false =>
        rw [Roster.remove_of_free listed]
        rfl
    | true => rfl

/-- A participant takes over what the view has of it, if anything. -/
theorem session_refreshMedia (identity : String) :
    (session.refreshMedia view identity).session =
      { session with
        roster := (session.truth? view identity).elim session.roster
          (session.roster.refreshMedia identity) } := by
  unfold refreshMedia
  cases session.truth? view identity with
  | none => cases session.roster.contains identity <;> rfl
  | some snapshot =>
      cases listed : session.roster.contains identity with
      | false =>
          rw [Option.elim_some, Roster.refreshMedia, Roster.update_of_free listed]
          rfl
      | true => rfl

theorem session_refreshMetadata (identity : String) :
    (session.refreshMetadata view identity).session =
      { session with
        roster := (session.truth? view identity).elim session.roster
          (session.roster.refreshMetadata identity) } := by
  unfold refreshMetadata
  cases session.truth? view identity with
  | none => cases session.roster.contains identity <;> rfl
  | some snapshot =>
      cases listed : session.roster.contains identity with
      | false =>
          rw [Option.elim_some, Roster.refreshMetadata, Roster.update_of_free listed]
          rfl
      | true => rfl

private theorem get?_refresh (roster : Roster Remote) (known? : Option (Media.Snapshot Remote))
    (change : Media.Snapshot Remote → Participant Remote → Participant Remote)
    (keeps : ∀ snapshot participant, (change snapshot participant).id = participant.id)
    (identity other : String) :
    (known?.elim roster fun snapshot =>
        roster.update identity (change snapshot) (keeps snapshot)).get? other =
      (roster.get? other).map fun entry =>
        if identity = other then (known?.map (change · entry)).getD entry else entry := by
  cases known? with
  | none => simp
  | some snapshot =>
      rw [Option.elim_some, Roster.get?_update]
      by_cases same : identity = other
      · simp only [if_pos same, Option.map_some, Option.getD_some]
      · simp only [if_neg same, Option.map_id']

theorem get?_refreshMedia (identity other : String) :
    (session.refreshMedia view identity).session.roster.get? other =
      (session.roster.get? other).map fun entry =>
        if identity = other then ((session.truth? view identity).map entry.withMedia).getD entry
        else entry := by
  rw [session_refreshMedia]
  exact get?_refresh session.roster _ (fun snapshot entry => entry.withMedia snapshot)
    (fun snapshot entry => entry.withMedia_id snapshot) identity other

theorem get?_refreshMetadata (identity other : String) :
    (session.refreshMetadata view identity).session.roster.get? other =
      (session.roster.get? other).map fun entry =>
        if identity = other then ((session.truth? view identity).map entry.withMetadata).getD entry
        else entry := by
  rw [session_refreshMetadata]
  exact get?_refresh session.roster _ (fun snapshot entry => entry.withMetadata snapshot)
    (fun snapshot entry => entry.withMetadata_id snapshot) identity other

/-- Seen as a list, a roster has the entry of one identity changed by what is known of it. -/
private theorem toList_refresh (roster : Roster Remote) (known? : Option (Media.Snapshot Remote))
    (change : Media.Snapshot Remote → Participant Remote → Participant Remote)
    (keeps : ∀ snapshot participant, (change snapshot participant).id = participant.id)
    (identity : String) :
    (known?.elim roster fun snapshot =>
        roster.update identity (change snapshot) (keeps snapshot)).toList =
      roster.toList.map fun entry =>
        if entry.id = identity then (known?.map (change · entry)).getD entry else entry := by
  cases known? with
  | none => simp
  | some snapshot => exact Roster.toList_update roster identity (change snapshot) (keeps snapshot)

theorem participants_refreshMedia (identity : String) :
    (session.refreshMedia view identity).session.participants =
      session.participants.map fun entry =>
        if entry.id = identity then ((session.truth? view identity).map entry.withMedia).getD entry
        else entry := by
  rw [session_refreshMedia]
  exact toList_refresh session.roster _ (fun snapshot entry => entry.withMedia snapshot)
    (fun snapshot entry => entry.withMedia_id snapshot) identity

theorem participants_refreshMetadata (identity : String) :
    (session.refreshMetadata view identity).session.participants =
      session.participants.map fun entry =>
        if entry.id = identity then ((session.truth? view identity).map entry.withMetadata).getD entry
        else entry := by
  rw [session_refreshMetadata]
  exact toList_refresh session.roster _ (fun snapshot entry => entry.withMetadata snapshot)
    (fun snapshot entry => entry.withMetadata_id snapshot) identity

/-- An event that is ignored leaves the session as it is. -/
theorem session_of_ignored {event : Media.Event Remote}
    (ignored : (session.apply view event).result = .ignored) :
    (session.apply view event).session = session := by
  unfold apply at ignored ⊢
  split
  · rename_i inCall
    rw [if_pos inCall] at ignored
    cases event with
    | joined snapshot =>
        dsimp only at ignored ⊢
        unfold join at ignored ⊢
        cases added : session.roster.add? (.ofSnapshot .remote snapshot) with
        | none => rfl
        | some roster => rw [added] at ignored; cases ignored
    | left identity =>
        dsimp only at ignored ⊢
        unfold leave at ignored ⊢
        by_cases own : session.identity = some identity
        · rw [if_pos own]
        · rw [if_neg own] at ignored ⊢
          cases listed : session.roster.contains identity with
          | false => rfl
          | true => rw [listed] at ignored; cases ignored
    | track change identity track =>
        dsimp only at ignored ⊢
        unfold refreshMedia at ignored ⊢
        split at ignored
        · cases ignored
        · rfl
    | metadata identity =>
        dsimp only at ignored ⊢
        unfold refreshMetadata at ignored ⊢
        split at ignored
        · cases ignored
        · rfl
    | reconnecting => cases ignored
    | reconnected => cases ignored
    | disconnected reason => cases ignored
  · rfl

end MeetingRoom.Session
