import MeetingRoom.Proofs.Events
import MeetingRoom.Proofs.Resync

/-!
Events that come again or in another order. An event on a track takes over the flags of an entry
and the handle, one on the metadata takes over name and avatar. Neither touches what the other one
takes over, and each takes over the same however often it comes. So with one view behind all of
them it only matters who is named by the first kind and who by the second. An event of any kind
that is applied twice in a row leaves what it has left the first time.
-/

namespace MeetingRoom

variable {Remote : Type}

namespace Roster

/-- Rosters are the same if they list the same identities in the same order, with the same entries. -/
theorem ext_get? {left right : Roster Remote} (order : left.order = right.order)
    (entries : ∀ identity, left.get? identity = right.get? identity) : left = right := by
  apply ext_toList
  rw [toList, toList, order, funext entries]

theorem add_of_taken {roster : Roster Remote} {participant : Participant Remote}
    (taken : roster.contains participant.id = true) : roster.add participant = roster := by
  rw [add, add?_eq_none_iff.mpr taken, Option.getD_none]

theorem add_add (roster : Roster Remote) (participant : Participant Remote) :
    (roster.add participant).add participant = roster.add participant := by
  apply add_of_taken
  rw [contains_iff_get?, get?_add, if_pos rfl]
  cases roster.get? participant.id with
  | none => exact ⟨participant, rfl⟩
  | some present => exact ⟨present, rfl⟩

theorem remove_remove (roster : Roster Remote) (identity : String) :
    (roster.remove identity).remove identity = roster.remove identity := by
  apply remove_of_free
  apply Bool.eq_false_iff.mpr
  intro listed
  obtain ⟨participant, found⟩ := contains_iff_get?.mp listed
  rw [get?_remove, if_pos rfl] at found
  cases found

end Roster

/-! ### What an entry takes over -/

/-- What becomes of an entry that takes over the media state of what is known of it, or the
metadata, or both, or neither. -/
def Participant.refreshed (known? : Option (Media.Snapshot Remote)) (media metadata : Bool)
    (entry : Participant Remote) : Participant Remote :=
  match known? with
  | none => entry
  | some snapshot =>
      let turned := if media then entry.withMedia snapshot else entry
      if metadata then turned.withMetadata snapshot else turned

theorem Participant.refreshed_media (known? : Option (Media.Snapshot Remote)) (media : Bool)
    (entry : Participant Remote) :
    entry.refreshed known? media false =
      if media then (known?.map entry.withMedia).getD entry else entry := by
  cases known? <;> cases media <;> rfl

theorem Participant.refreshed_metadata (known? : Option (Media.Snapshot Remote)) (metadata : Bool)
    (entry : Participant Remote) :
    entry.refreshed known? false metadata =
      if metadata then (known?.map entry.withMetadata).getD entry else entry := by
  cases known? <;> cases metadata <;> rfl

/-- Taking over commutes and does not add up. -/
theorem Participant.refreshed_refreshed (known? : Option (Media.Snapshot Remote))
    (media metadata mediaAgain metadataAgain : Bool) (entry : Participant Remote) :
    (entry.refreshed known? media metadata).refreshed known? mediaAgain metadataAgain =
      entry.refreshed known? (media || mediaAgain) (metadata || metadataAgain) := by
  cases known? with
  | none => rfl
  | some snapshot =>
      have twice : (entry.withMedia snapshot).withMedia snapshot = entry.withMedia snapshot := by
        unfold withMedia
        by_cases remote : entry.kind = .remote
        · simp only [if_pos remote]
        · simp only [if_neg remote]
      have across : ∀ any : Participant Remote, (any.withMetadata snapshot).withMedia snapshot =
          (any.withMedia snapshot).withMetadata snapshot := fun _any => rfl
      have renamed : ∀ any : Participant Remote, (any.withMetadata snapshot).withMetadata snapshot =
          any.withMetadata snapshot := fun _any => rfl
      unfold refreshed
      cases media <;> cases metadata <;> cases mediaAgain <;> cases metadataAgain <;>
        simp [twice, across, renamed]

namespace Session

/-- The entries of some participants have taken over their media state and those of some their
metadata, and nothing else has changed. -/
structure Refreshes (view : Media.View Remote) (session : Session Remote)
    (media metadata : String → Bool) (after : Session Remote) : Prop where
  rest : after = { session with roster := after.roster }
  order : after.roster.order = session.roster.order
  entries : ∀ identity, after.roster.get? identity =
    (session.roster.get? identity).map
      (Participant.refreshed (session.truth? view identity) (media identity) (metadata identity))

namespace Refreshes

variable {view : Media.View Remote} {session after later : Session Remote}
  {media metadata : String → Bool}

theorem unique (left : session.Refreshes view media metadata after)
    (right : session.Refreshes view media metadata later) : after = later := by
  have roster : after.roster = later.roster := by
    apply Roster.ext_get? (left.order.trans right.order.symm)
    intro identity
    rw [left.entries, right.entries]
  rw [left.rest, right.rest, roster]

theorem none (view : Media.View Remote) (session : Session Remote) :
    session.Refreshes view (fun _ => false) (fun _ => false) session := by
  refine ⟨rfl, rfl, ?_⟩
  intro identity
  have same : Participant.refreshed (session.truth? view identity) false false = id :=
    funext (Participant.refreshed_media _ false)
  rw [same, Option.map_id, id]

theorem trans {mediaAgain metadataAgain : String → Bool}
    (first : session.Refreshes view media metadata after)
    (second : after.Refreshes view mediaAgain metadataAgain later) :
    session.Refreshes view (fun identity => media identity || mediaAgain identity)
      (fun identity => metadata identity || metadataAgain identity) later := by
  have known : ∀ identity, after.truth? view identity = session.truth? view identity := by
    intro identity
    rw [truth?, first.rest, truth?]
  refine ⟨?_, second.order.trans first.order, ?_⟩
  · rw [second.rest, first.rest]
  · intro identity
    rw [second.entries, first.entries, known, Option.map_map]
    congr 1
    funext entry
    exact entry.refreshed_refreshed _ _ _ _ _

/-- The second time makes no difference. -/
theorem again (first : session.Refreshes view media metadata after)
    (second : after.Refreshes view media metadata later) : later = after := by
  have both := first.trans second
  simp only [Bool.or_self] at both
  exact both.unique first

end Refreshes

variable (view : Media.View Remote) (session : Session Remote)

theorem refreshes_media (named : String) :
    session.Refreshes view (fun identity => named = identity) (fun _ => false)
      (session.refreshMedia view named).session := by
  refine ⟨?_, ?_, ?_⟩
  · rw [session_refreshMedia]
  · rw [session_refreshMedia]
    cases session.truth? view named with
    | none => rfl
    | some snapshot => rfl
  · intro identity
    rw [get?_refreshMedia]
    congr 1
    funext entry
    rw [Participant.refreshed_media]
    by_cases same : named = identity
    · subst same
      simp
    · simp [same]

theorem refreshes_metadata (named : String) :
    session.Refreshes view (fun _ => false) (fun identity => named = identity)
      (session.refreshMetadata view named).session := by
  refine ⟨?_, ?_, ?_⟩
  · rw [session_refreshMetadata]
  · rw [session_refreshMetadata]
    cases session.truth? view named with
    | none => rfl
    | some snapshot => rfl
  · intro identity
    rw [get?_refreshMetadata]
    congr 1
    funext entry
    rw [Participant.refreshed_metadata]
    by_cases same : named = identity
    · subst same
      simp
    · simp [same]

/-! ### Several events -/

end Session

def Media.Event.onTrack? : Media.Event Remote → Option String
  | .track _ identity _ => some identity
  | _ => none

def Media.Event.onMetadata? : Media.Event Remote → Option String
  | .metadata identity => some identity
  | _ => none

def Media.Event.isRefresh (event : Media.Event Remote) : Bool :=
  event.onTrack?.isSome || event.onMetadata?.isSome

namespace Session

def follow : Session Remote → List (Media.View Remote × Media.Event Remote) → Session Remote
  | session, [] => session
  | session, (view, event) :: rest => (session.apply view event).session.follow rest

variable {view : Media.View Remote} {session : Session Remote}

theorem apply_of_outside (outside : session.inCall = false) (event : Media.Event Remote) :
    (session.apply view event).session = session := by
  unfold apply
  rw [if_neg (Bool.eq_false_iff.mp outside)]
  rfl

theorem follow_of_outside (outside : session.inCall = false)
    (history : List (Media.View Remote × Media.Event Remote)) : session.follow history = session := by
  induction history with
  | nil => rfl
  | cons moment rest ih =>
      rw [follow, apply_of_outside outside]
      exact ih

theorem refreshes_apply (inCall : session.inCall = true) {event : Media.Event Remote}
    (refresh : event.isRefresh = true) :
    session.Refreshes view (fun identity => event.onTrack? = some identity)
      (fun identity => event.onMetadata? = some identity) (session.apply view event).session := by
  cases event with
  | track change named track =>
      have applied : session.apply view (.track change named track) =
          session.refreshMedia view named := if_pos inCall
      rw [applied]
      simpa [Media.Event.onTrack?, Media.Event.onMetadata?] using refreshes_media view session named
  | metadata named =>
      have applied : session.apply view (.metadata named) =
          session.refreshMetadata view named := if_pos inCall
      rw [applied]
      simpa [Media.Event.onTrack?, Media.Event.onMetadata?] using
        refreshes_metadata view session named
  | _ => cases refresh

/-- What a list of such events does to a session in call is told by who is named in it. -/
theorem refreshes_follow (inCall : session.inCall = true) {events : List (Media.Event Remote)}
    (refreshes : ∀ event ∈ events, event.isRefresh = true) :
    session.Refreshes view (fun identity => identity ∈ events.filterMap (·.onTrack?))
      (fun identity => identity ∈ events.filterMap (·.onMetadata?))
      (session.follow (events.map (view, ·))) := by
  induction events generalizing session with
  | nil => simpa [follow] using Refreshes.none view session
  | cons event rest ih =>
      have first := @refreshes_apply Remote view session inCall event
        (refreshes event List.mem_cons_self)
      have calling : (session.apply view event).session.inCall = true := by
        rw [first.rest]
        exact inCall
      have both := first.trans
        (ih calling fun other member => refreshes other (List.mem_cons_of_mem event member))
      simpa [follow, List.mem_filterMap, or_and_right, exists_or] using both

/-- It does not matter in which order such events come or how often, only who is named by them. -/
theorem follow_congr {left right : List (Media.Event Remote)}
    (leftRefresh : ∀ event ∈ left, event.isRefresh = true)
    (rightRefresh : ∀ event ∈ right, event.isRefresh = true)
    (tracks : ∀ identity,
      identity ∈ left.filterMap (·.onTrack?) ↔ identity ∈ right.filterMap (·.onTrack?))
    (metadata : ∀ identity,
      identity ∈ left.filterMap (·.onMetadata?) ↔ identity ∈ right.filterMap (·.onMetadata?)) :
    session.follow (left.map (view, ·)) = session.follow (right.map (view, ·)) := by
  cases inCall : session.inCall with
  | false => rw [follow_of_outside inCall, follow_of_outside inCall]
  | true =>
      have first := @refreshes_follow Remote view session inCall left leftRefresh
      simp only [tracks, metadata] at first
      exact first.unique (refreshes_follow inCall rightRefresh)

/-! ### The same event again -/

/-- Where an event comes to one change of a session in call, applying it twice comes to this change
made twice. -/
private theorem apply_again {event : Media.Event Remote} (change : Session Remote → Session Remote)
    (applied : ∀ any : Session Remote, any.inCall = true →
      (any.apply view event).session = change any)
    (inCall : session.inCall = true) (calling : (change session).inCall = true)
    (again : change (change session) = change session) :
    ((session.apply view event).session.apply view event).session =
      (session.apply view event).session := by
  rw [applied session inCall, applied _ calling, again]

/-- The first resync fixes the own identity, and the second one finds it fixed to the same. -/
theorem resync_again : resync view (resync view session) = resync view session := by
  unfold resync ownSnapshot
  cases view.own with
  | none => simp only [Option.map_none, Option.or_none]
  | some own =>
      cases session.identity with
      | none => rfl
      | some identity => rfl

/-- An event that is applied twice in a row leaves what it has left the first time. -/
theorem apply_idempotent (view : Media.View Remote) (session : Session Remote)
    (event : Media.Event Remote) :
    ((session.apply view event).session.apply view event).session =
      (session.apply view event).session := by
  cases inCall : session.inCall with
  | false => rw [apply_of_outside inCall, apply_of_outside inCall]
  | true =>
      cases event with
      | joined snapshot =>
          refine apply_again (fun any => (any.join snapshot).session) ?_ inCall ?_ ?_
          · intro any calling
            exact congrArg After.session (if_pos calling)
          · rw [session_join]
            exact inCall
          · rw [session_join, session_join, Roster.add_add]
      | left identity =>
          refine apply_again (fun any => (any.leave identity).session) ?_ inCall ?_ ?_
          · intro any calling
            exact congrArg After.session (if_pos calling)
          · rw [session_leave]
            exact inCall
          · rw [session_leave, session_leave]
            by_cases own : session.identity = some identity
            · simp only [if_pos own]
            · simp only [if_neg own, Roster.remove_remove]
      | track change identity track =>
          refine apply_again (fun any => (any.refreshMedia view identity).session) ?_ inCall ?_ ?_
          · intro any calling
            exact congrArg After.session (if_pos calling)
          · rw [session_refreshMedia]
            exact inCall
          · exact (refreshes_media view session identity).again (refreshes_media view _ identity)
      | metadata identity =>
          refine apply_again (fun any => (any.refreshMetadata view identity).session) ?_ inCall ?_ ?_
          · intro any calling
            exact congrArg After.session (if_pos calling)
          · rw [session_refreshMetadata]
            exact inCall
          · exact (refreshes_metadata view session identity).again
              (refreshes_metadata view _ identity)
      | reconnecting =>
          refine apply_again (fun any => any.suspend.session) ?_ inCall rfl rfl
          intro any calling
          exact congrArg After.session (if_pos calling)
      | reconnected =>
          refine apply_again (fun any => (any.resume view).session) ?_ inCall rfl ?_
          · intro any calling
            exact congrArg After.session (if_pos calling)
          · exact @resync_again Remote view { session with call := .connected }
      | disconnected reason =>
          have lost : (session.apply view (.disconnected reason)).session =
              (session.lose reason).session := congrArg After.session (if_pos inCall)
          rw [lost]
          exact apply_of_outside rfl _

end Session

end MeetingRoom
