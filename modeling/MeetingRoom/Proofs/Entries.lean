import MeetingRoom.Proofs.Feed

/-!
What the session does to the entry of one identity. An event does to it exactly what can be
foreseen from the view, a resync makes it what the view shows, and the own participant is never
taken off the roster.
-/

namespace MeetingRoom

variable {Remote : Type}

def Participant.flags (participant : Participant Remote) : Bool × Bool :=
  (participant.audio, participant.video)

namespace Session

def entry (session : Session Remote) (identity : String) : Feed.Entry :=
  (session.roster.get? identity).map (·.flags)

structure Knows (session : Session Remote) (feed : Feed Remote) : Prop where
  identity : session.identity = some feed.own.identity
  own : (session.entry feed.own.identity).isSome = true

variable {feed : Feed Remote} {session : Session Remote} {identity : String}

/-! ### Resyncs -/

theorem find?_map_ofSnapshot (kind : Participant.Kind) (snapshots : List (Media.Snapshot Remote))
    (identity : String) :
    (snapshots.map (Participant.ofSnapshot kind)).find? (·.id = identity) =
      (snapshots.find? (·.identity = identity)).map (Participant.ofSnapshot kind) :=
  List.find?_map

private theorem ownSnapshot_identity
    (known : session.identity = none ∨ session.identity = some feed.own.identity) :
    (session.ownSnapshot feed.own).identity = feed.own.identity := by
  rcases known with unknown | known
  · rw [ownSnapshot, unknown]
    rfl
  · rw [ownSnapshot, known]
    rfl

theorem resync_entry (remote : identity ≠ feed.own.identity)
    (known : session.identity = none ∨ session.identity = some feed.own.identity) :
    (resync feed.view session).entry identity = feed.seen identity := by
  have own := ownSnapshot_identity known
  have first : (Participant.ofSnapshot .own (session.ownSnapshot feed.own)).id ≠ identity := by
    intro same
    exact remote (same.symm.trans own)
  rw [entry, resync, Roster.get?_ofList, Feed.seen]
  change ((Participant.ofSnapshot .own (session.ownSnapshot feed.own) ::
    feed.remotes.map (Participant.ofSnapshot .remote)).find? _).map _ = _
  rw [List.find?_cons_of_neg (by simpa using first), find?_map_ofSnapshot, Option.map_map]
  rfl

theorem knows_resync
    (known : session.identity = none ∨ session.identity = some feed.own.identity) :
    (resync feed.view session).Knows feed := by
  have own := ownSnapshot_identity known
  constructor
  · rcases known with unknown | known
    · rw [resync, unknown]
      rfl
    · rw [resync, known]
      rfl
  · have first : (Participant.ofSnapshot .own (session.ownSnapshot feed.own)).id =
        feed.own.identity := own
    rw [entry, resync, Roster.get?_ofList]
    change (((Participant.ofSnapshot .own (session.ownSnapshot feed.own) ::
      feed.remotes.map (Participant.ofSnapshot .remote)).find? _).map _).isSome = true
    rw [List.find?_cons_of_pos (by simpa using first)]
    rfl

/-! ### Events -/

theorem join_entry (snapshot : Media.Snapshot Remote) :
    (session.join snapshot).session.entry identity =
      if snapshot.identity = identity then (session.entry identity).or (some snapshot.flags)
      else session.entry identity := by
  rw [entry, session_join]
  change ((session.roster.add (.ofSnapshot .remote snapshot)).get? identity).map _ = _
  rw [Roster.get?_add, Option.map_or]
  by_cases same : snapshot.identity = identity
  · rw [if_pos same, if_pos (show (Participant.ofSnapshot .remote snapshot).id = identity from same)]
    rfl
  · rw [if_neg same,
      if_neg (show ¬(Participant.ofSnapshot .remote snapshot).id = identity from same)]
    exact Option.or_none

private theorem leave_entry {own : String} (known : session.identity = some own)
    (gone : String) :
    (session.leave gone).session.entry identity =
      if gone = identity then if gone = own then session.entry identity else none
      else session.entry identity := by
  rw [entry, session_leave]
  dsimp only
  by_cases self : gone = own
  · rw [if_pos (by rw [known, self]), if_pos self, ite_self]
    rfl
  · have other : session.identity ≠ some gone := by
      intro same
      rw [known] at same
      exact self (Option.some.inj same).symm
    rw [if_neg other, if_neg self, Roster.get?_remove]
    by_cases same : gone = identity
    · rw [if_pos same, if_pos same]
      rfl
    · rw [if_neg same, if_neg same]
      rfl

private theorem truth?_of_remote (known : session.identity = some feed.own.identity)
    (remote : identity ≠ feed.own.identity) :
    (session.truth? feed.view identity).map (·.flags) = feed.seen identity := by
  have stranger : session.identity ≠ some identity := by
    intro same
    rw [known] at same
    exact remote (Option.some.inj same).symm
  have other : feed.own.identity ≠ identity := Ne.symm remote
  rw [truth?, if_neg stranger, Media.View.find?]
  change ((feed.own :: feed.remotes).find? (·.identity == identity)).map _ = _
  rw [List.find?_cons_of_neg (by simpa using other), Feed.seen]
  rfl

theorem refreshMedia_call (view : Media.View Remote) (other : String) :
    (session.refreshMedia view other).session.call = session.call := by
  rw [session_refreshMedia]

theorem refreshMedia_entry_other (view : Media.View Remote) {other : String}
    (apart : other ≠ identity) :
    (session.refreshMedia view other).session.entry identity = session.entry identity := by
  rw [entry, get?_refreshMedia]
  simp only [if_neg apart, Option.map_id']
  rfl

private theorem refreshMedia_entry (known : session.identity = some feed.own.identity)
    (remote : identity ≠ feed.own.identity) :
    (session.refreshMedia feed.view identity).session.entry identity =
      (session.entry identity).map (feed.seen identity).getD := by
  rw [← truth?_of_remote known remote, entry, get?_refreshMedia, entry, Option.map_map,
    Option.map_map]
  congr 1
  funext listed
  rw [Function.comp_apply, if_pos rfl]
  cases session.truth? feed.view identity with
  | none => rfl
  | some snapshot => rfl

theorem refreshMetadata_entry (view : Media.View Remote) (other : String) :
    (session.refreshMetadata view other).session.entry identity = session.entry identity := by
  rw [entry, get?_refreshMetadata, entry, Option.map_map]
  congr 1
  funext listed
  rw [Function.comp_apply]
  split
  · cases session.truth? view other with
    | none => rfl
    | some snapshot => rfl
  · rfl

/-- An event does to the call and to the entry of a remote identity what can be foreseen. -/
theorem apply_foresee (known : session.identity = some feed.own.identity)
    (remote : identity ≠ feed.own.identity) (event : Media.Event Remote) :
    ((session.apply feed.view event).session.call,
        (session.apply feed.view event).session.entry identity) =
      Feed.foresee (feed.seen identity) identity (session.call, session.entry identity) event := by
  unfold apply Feed.foresee Call.after
  by_cases inCall : session.call = .connected ∨ session.call = .reconnecting
  · have inside : session.inCall = true := by simpa [Session.inCall] using inCall
    rw [if_pos inside, if_pos inCall, if_pos inCall]
    cases event with
    | joined snapshot =>
        dsimp only
        rw [join_entry, session_join]
    | left gone =>
        dsimp only
        rw [leave_entry known]
        rw [session_leave]
        dsimp only
        by_cases same : gone = identity
        · rw [if_pos same, if_pos same, if_neg (same ▸ remote)]
        · rw [if_neg same, if_neg same]
    | track change other track =>
        dsimp only
        rw [refreshMedia_call]
        by_cases same : other = identity
        · subst same
          rw [if_pos rfl, refreshMedia_entry known remote]
        · rw [if_neg same, refreshMedia_entry_other feed.view same]
    | metadata other =>
        dsimp only
        rw [refreshMetadata_entry, session_refreshMetadata]
    | reconnecting => rfl
    | reconnected =>
        have synced := @resync_entry Remote feed { session with call := .connected } identity remote
          (Or.inr known)
        dsimp only [resume]
        rw [synced]
        rfl
    | disconnected reason =>
        dsimp only [lose, close, entry]
        rw [Roster.get?_empty]
        rfl
  · have outside : session.inCall = false := by simpa [Session.inCall] using inCall
    rw [outside, if_neg inCall, if_neg inCall]
    rfl

/-- A refresh takes nobody off the roster. -/
theorem Knows.refreshMedia (knows : session.Knows feed) (other : String) :
    (session.refreshMedia feed.view other).session.Knows feed := by
  constructor
  · rw [session_refreshMedia]
    exact knows.identity
  · have own := knows.own
    rw [entry, Option.isSome_map] at own
    rw [entry, Option.isSome_map, get?_refreshMedia, Option.isSome_map]
    exact own

/-- The own participant stays known for as long as the session goes on. -/
theorem Knows.apply (knows : session.Knows feed) {event : Media.Event Remote}
    (goesOn : event.endsSession = false) :
    (session.apply feed.view event).session.Knows feed := by
  unfold Session.apply
  split
  · cases event with
    | joined snapshot =>
        constructor
        · dsimp only
          rw [session_join]
          exact knows.identity
        · dsimp only
          rw [join_entry]
          split
          · rw [Option.isSome_or, knows.own, Bool.true_or]
          · exact knows.own
    | left gone =>
        constructor
        · dsimp only
          rw [session_leave]
          exact knows.identity
        · dsimp only
          rw [leave_entry knows.identity]
          split <;> exact knows.own
    | track change other track =>
        exact knows.refreshMedia other
    | metadata other =>
        constructor
        · dsimp only
          rw [session_refreshMetadata]
          exact knows.identity
        · dsimp only
          rw [refreshMetadata_entry]
          exact knows.own
    | reconnecting => exact ⟨knows.identity, knows.own⟩
    | reconnected => exact knows_resync (Or.inr knows.identity)
    | disconnected reason => cases goesOn
  · exact knows

end Session

end MeetingRoom
