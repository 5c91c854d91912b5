import MeetingRoom.Proofs.Entries
import MeetingRoom.Proofs.Orderly

/-!
What is shown of a participant after an event that names it. Such an event reads the view anew, as a
resync does, but only a resync gives the own participant the identity that the session has started
with. So as long as the transport keeps to that identity, an event on a track brings the own tile up
to date and one on the metadata gives everybody the name and the avatar of a resync. Once the
transport calls the own participant by another identity, the first kind does not reach the own tile
any more, and the second kind takes the avatar from the new identity if there is no other.
-/

namespace MeetingRoom

variable {Remote : Type}

namespace Session

variable {session : Session Remote} {view : Media.View Remote} {identity : String}

theorem apply_track (inCall : session.call = .connected ∨ session.call = .reconnecting)
    (change : Media.TrackChange) (identity : String) (track : Media.Track) :
    session.apply view (.track change identity track) = session.refreshMedia view identity := by
  rw [apply, if_pos (inCall_iff.mpr (live_iff.mpr inCall))]

/-! ### The own tile -/

def ownEntry? (session : Session Remote) : Option (Participant Remote) :=
  session.participants.find? (·.isOwn)

theorem ownEntry?_refreshMedia (view : Media.View Remote) (identity : String) :
    (session.refreshMedia view identity).session.ownEntry? =
      session.ownEntry?.map fun entry =>
        if entry.id = identity then ((session.truth? view identity).map entry.withMedia).getD entry
        else entry := by
  -- Who is the own participant does not depend on flags.
  have kinds : ((·.isOwn) ∘ fun entry : Participant Remote =>
      if entry.id = identity then ((session.truth? view identity).map entry.withMedia).getD entry
      else entry) = (·.isOwn) := by
    funext entry
    rw [Function.comp_apply]
    cases session.truth? view identity <;> split <;> rfl
  unfold ownEntry?
  rw [participants_refreshMedia, List.find?_map, kinds]

/-- The own participant is listed by the identity that the session has started with. -/
theorem Orderly.identity_eq (orderly : session.Orderly) {entry : Participant Remote}
    (listed : session.ownEntry? = some entry) : session.identity = some entry.id := by
  have own : entry.isOwn = true := List.find?_some listed
  exact (orderly.seated.own entry (List.mem_of_find?_eq_some listed) (of_decide_eq_true own)).2.1

end Session

namespace Room

/-- In every room that can be reached and in a call, after an event on a track of the own
participant, by the identity that the transport has for it, the own tile shows the present flags
exactly if the session has started with that identity or the flags were shown already. -/
theorem own_tile_current_iff {limit : Duration} {actions : List (Action Remote)}
    {room : Room Remote} (ran : (Room.new limit).run? actions = some room)
    (inCall : room.session.call = .connected ∨ room.session.call = .reconnecting)
    {entry : Participant Remote} (listed : room.session.ownEntry? = some entry)
    {view : Media.View Remote} {own : Media.Snapshot Remote} (shown : view.own = some own)
    (change : Media.TrackChange) (track : Media.Track) :
    ∃ after, (room.session.apply view (.track change own.identity track)).session.ownEntry? =
        some after ∧
      (after.flags = own.flags ↔
        room.session.identity = some own.identity ∨ entry.flags = own.flags) := by
  have named := (orderly_run ran).2.identity_eq listed
  rw [Session.apply_track inCall, Session.ownEntry?_refreshMedia, listed,
    Option.map_some]
  refine ⟨_, rfl, ?_⟩
  -- The entry keeps the first identity, and the event is looked up by the present one.
  by_cases same : entry.id = own.identity
  · have known : room.session.identity = some own.identity := named.trans (congrArg some same)
    rw [if_pos same, Session.truth?, if_pos known, shown]
    exact iff_of_true rfl (Or.inl known)
  · have other : room.session.identity ≠ some own.identity := by
      intro known
      exact same (Option.some.inj (named.symm.trans known))
    rw [if_neg same, or_iff_right other]

def renamedRoom : Room Unit :=
  ((Room.new (.ofSeconds 15 0)).run? (renamedMeanwhile ++ renamedAgain)).get rfl

theorem renamedRoom_reached :
    (Room.new (.ofSeconds 15 0)).run? (renamedMeanwhile ++ renamedAgain) = some renamedRoom := rfl

def speakingAs (identity : String) : Media.View Unit :=
  { own := some (Session.bare identity), remotes := [] }

theorem own_tile_current_under_first_identity :
    ∃ room after, (Room.new (.ofSeconds 15 0)).run? renamedMeanwhile = some room ∧
      room.session.call = .reconnecting ∧
      (room.session.apply (speakingAs "alex") (.track .unmuted "alex" .audio)).session.ownEntry? =
        some after ∧
      after.flags = (Session.bare "alex").flags := by
  obtain ⟨after, found, current⟩ := @own_tile_current_iff Unit (.ofSeconds 15 0) renamedMeanwhile _
    rfl (Or.inr rfl) _ rfl (speakingAs "alex") _ rfl .unmuted .audio
  exact ⟨_, after, rfl, rfl, found, current.mpr (Or.inl rfl)⟩

/-- After a reconnect under another identity the own tile does not hear of its tracks any more. -/
theorem own_tile_stale_after_renaming :
    (Room.new (.ofSeconds 15 0)).run? (renamedMeanwhile ++ renamedAgain) = some renamedRoom ∧
      renamedRoom.session.call = .connected ∧
      ∃ entry, renamedRoom.session.ownEntry? = some entry ∧
        (renamedRoom.session.apply (speakingAs "alex-3")
          (.track .unmuted "alex-3" .audio)).session.ownEntry? = some entry ∧
        entry.flags ≠ (Session.bare "alex-3").flags := by
  refine ⟨renamedRoom_reached, rfl, _, rfl, rfl, ?_⟩
  decide

end Room

/-! ### Names and avatars -/

def Participant.face (participant : Participant Remote) : String × String :=
  (participant.name, participant.avatar)

theorem Participant.face_eq_face_iff {left right : Participant Remote} :
    left.face = right.face ↔ left.name = right.name ∧ left.avatar = right.avatar := by
  rw [face, face, Prod.mk.injEq]

namespace Media.Snapshot

def face (snapshot : Snapshot Remote) : String × String :=
  let metadata := Participant.Metadata.read snapshot.metadata
  (Participant.displayName metadata snapshot.name,
    Participant.displayAvatar metadata snapshot.identity)

def hasAvatar (snapshot : Snapshot Remote) : Bool :=
  ((Participant.Metadata.read snapshot.metadata).avatar.bind Text.content?).isSome

/-- Under another identity a participant has the same face only with an avatar of its own. -/
theorem face_eq_iff (snapshot : Snapshot Remote) (identity : String) :
    snapshot.face = { snapshot with identity := identity }.face ↔
      snapshot.identity = identity ∨ snapshot.hasAvatar = true := by
  unfold face hasAvatar Participant.displayAvatar Participant.fallbackAvatar
  dsimp only
  rw [Prod.mk.injEq, and_iff_right rfl]
  cases (Participant.Metadata.read snapshot.metadata).avatar.bind Text.content? with
  | none => simp
  | some avatar => simp

end Media.Snapshot

theorem Participant.face_withMetadata (participant : Participant Remote)
    (snapshot : Media.Snapshot Remote) :
    (participant.withMetadata snapshot).face = snapshot.face := rfl

namespace Session

variable {session : Session Remote} {view : Media.View Remote} {identity : String}

theorem apply_metadata (inCall : session.call = .connected ∨ session.call = .reconnecting)
    (identity : String) :
    session.apply view (.metadata identity) = session.refreshMetadata view identity := by
  rw [apply, if_pos (inCall_iff.mpr (live_iff.mpr inCall))]

/-- The snapshot from which a resync takes the entry of an identity. -/
def source? (view : Media.View Remote) (session : Session Remote) (identity : String) :
    Option (Media.Snapshot Remote) :=
  ((view.own.map session.ownSnapshot).toList ++ view.remotes).find? (·.identity = identity)

theorem face_resync (view : Media.View Remote) (session : Session Remote) (identity : String) :
    ((resync view session).roster.get? identity).map (·.face) =
      (session.source? view identity).map (·.face) := by
  rw [resync, Roster.get?_ofList, source?, List.find?_append, List.find?_append,
    find?_map_ofSnapshot, find?_map_ofSnapshot, Option.map_or, Option.map_or, Option.map_map,
    Option.map_map]
  rfl

theorem source?_of_own {own : Media.Snapshot Remote} (known : session.identity = some identity)
    (shown : view.own = some own) :
    session.source? view identity = some { own with identity := identity } := by
  have named : session.ownSnapshot own = { own with identity := identity } := by
    rw [ownSnapshot, known]
    rfl
  rw [source?, shown, Option.map_some, Option.toList_some, List.singleton_append, named,
    List.find?_cons_of_pos (by simp)]

/-- Whatever else a resync lists, an event takes from the same snapshot. -/
theorem truth?_of_source? (distinct : ((view.own.toList ++ view.remotes).map (·.identity)).Nodup)
    (other : session.identity ≠ some identity) {snapshot : Media.Snapshot Remote}
    (source : session.source? view identity = some snapshot) :
    session.truth? view identity = some snapshot := by
  have member := List.mem_of_find?_eq_some source
  have named : snapshot.identity = identity := by simpa using List.find?_some source
  have present : snapshot ∈ view.own.toList ++ view.remotes := by
    rcases List.mem_append.mp member with first | remote
    · obtain ⟨own, shown, renamed⟩ := Option.map_eq_some_iff.mp (Option.mem_toList.mp first)
      cases known : session.identity with
      | none =>
          rw [ownSnapshot, known] at renamed
          rw [shown, ← renamed]
          exact List.mem_append_left _ (List.mem_singleton_self own)
      | some pinned =>
          rw [ownSnapshot, known] at renamed
          rw [← renamed] at named
          exact absurd (known.trans (congrArg some named)) other
    · exact List.mem_append_right _ remote
  rw [truth?, if_neg other]
  exact (find?_eq_some_iff_of_nodup distinct).mpr ⟨present, named⟩

/-- In a call, an event on the metadata of somebody who stays listed gives the name and the avatar
of a resync, unless it is the identity that the session has started with: then the own participant
must go by it or have an avatar, and if there is none, what is shown must be right already. -/
theorem metadata_agrees_with_resync_iff
    (inCall : session.call = .connected ∨ session.call = .reconnecting)
    (distinct : ((view.own.toList ++ view.remotes).map (·.identity)).Nodup)
    {entry kept : Participant Remote} (listed : session.roster.get? identity = some entry)
    (keeps : (session.apply view .reconnected).session.roster.get? identity = some kept) :
    ∃ after, (session.apply view (.metadata identity)).session.roster.get? identity = some after ∧
      ((after.name = kept.name ∧ after.avatar = kept.avatar) ↔
        (session.identity = some identity →
          (∀ own, view.own = some own → own.identity = identity ∨ own.hasAvatar = true) ∧
            (view.own = none → entry.name = kept.name ∧ entry.avatar = kept.avatar))) := by
  have resynced : some kept.face = (session.source? view identity).map (·.face) := by
    rw [apply_reconnected (inCall_iff.mpr (live_iff.mpr inCall))] at keeps
    have face := face_resync view { session with call := .connected } identity
    change ((session.resume view).session.roster.get? identity).map _ = _ at face
    rw [keeps] at face
    exact face
  -- The snapshot from which the resync takes the entry, to be held against the one of the event.
  obtain ⟨snapshot, source, face⟩ := Option.map_eq_some_iff.mp resynced.symm
  rw [apply_metadata inCall, get?_refreshMetadata, listed, Option.map_some, if_pos rfl]
  refine ⟨_, rfl, ?_⟩
  rw [← Participant.face_eq_face_iff, ← Participant.face_eq_face_iff, ← face]
  by_cases pinned : session.identity = some identity
  · rw [truth?, if_pos pinned]
    cases shown : view.own with
    -- The event changes nothing, so the entry is right only if it was right before.
    | none => simp [pinned]
    | some own =>
        rw [source?_of_own pinned shown] at source
        cases source
        rw [Option.map_some, Option.getD_some, Participant.face_withMetadata,
          Media.Snapshot.face_eq_iff]
        simp [pinned]
  · rw [truth?_of_source? distinct pinned source]
    exact iff_of_true rfl fun same => absurd same pinned

end Session

namespace Room

def renamedShown (metadata : Option String) : Media.View Unit :=
  { own := some { Session.bare "alex-3" with metadata := metadata }
    remotes := [Session.bare "guest"] }

def pictured : Option String := some "\x7b\"name\":\"Al\",\"avatarUrl\":\"https://cdn/al.png\"\x7d"

theorem own_avatar_kept_after_renaming :
    ∃ after kept,
      (renamedRoom.session.apply (renamedShown pictured) (.metadata "alex")).session.roster.get?
        "alex" = some after ∧
      (renamedRoom.session.apply (renamedShown pictured) .reconnected).session.roster.get?
        "alex" = some kept ∧
      after.name = kept.name ∧ after.avatar = kept.avatar := by
  have distinct : (((renamedShown pictured).own.toList ++ (renamedShown pictured).remotes).map
      (·.identity)).Nodup := by decide
  have avatar : ({ Session.bare "alex-3" with metadata := pictured } :
      Media.Snapshot Unit).hasAvatar = true := by decide +kernel
  obtain ⟨after, found, agrees⟩ := @Session.metadata_agrees_with_resync_iff Unit
    renamedRoom.session (renamedShown pictured) "alex" (Or.inl rfl) distinct _ _ rfl rfl
  refine ⟨after, _, found, rfl, agrees.mpr ?_⟩
  intro _pinned
  constructor
  · rintro own ⟨⟩
    exact Or.inr avatar
  · rintro ⟨⟩

/-- After a reconnect under another identity an event on the metadata gives the own participant the
avatar of that identity, while a resync gives it the avatar of the first one. -/
theorem own_avatar_differs_after_renaming :
    (Room.new (.ofSeconds 15 0)).run? (renamedMeanwhile ++ renamedAgain) = some renamedRoom ∧
      renamedRoom.session.call = .connected ∧
      (((renamedShown none).own.toList ++ (renamedShown none).remotes).map (·.identity)).Nodup ∧
      ∃ after kept,
        (renamedRoom.session.apply (renamedShown none) (.metadata "alex")).session.roster.get?
          "alex" = some after ∧
        (renamedRoom.session.apply (renamedShown none) .reconnected).session.roster.get?
          "alex" = some kept ∧
        after.avatar = "https://avatar.vercel.sh/alex-3" ∧
        kept.avatar = "https://avatar.vercel.sh/alex" := by
  refine ⟨renamedRoom_reached, rfl, ?_, _, _, rfl, rfl, rfl, rfl⟩
  decide

end Room

end MeetingRoom
