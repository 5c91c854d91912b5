import MeetingRoom.Proofs.Orderly

/-!
Who is on the stage. Beside the main tile there are the first participants, as many as the stage can
place, whatever the layout. The main tile goes to the host whenever there is a voice, while the list
that is shown keeps the host away where a participant goes by that identity. So nobody is on the
stage twice exactly if none of those placed goes by the identity of the host, and stage and list
agree on the host exactly if nobody on the roster does.
-/

namespace MeetingRoom

variable {Remote : Type}

/-! ### The tiles beside the main one -/

theorem Layout.clampHeads_eq_one_iff (count : Nat) : clampHeads count = 1 ↔ count ≤ 1 := by
  unfold clampHeads minHeads maxHeads
  omega

namespace Stage

def occupants (stage : Stage Remote) : List (Participant Remote) :=
  stage.main.toList ++ (stage.secondary ++ stage.floating.toList)

variable (participants : List (Participant Remote)) (voice? : Option Voice) (screen : Screen)
  (capacity : Nat)

theorem main_compose :
    (compose participants voice? screen capacity).main = voice?.map Voice.host := by
  unfold compose
  dsimp only
  split <;> rfl

/-- One participant floats and two share the group, so that nobody who is placed gets lost. -/
theorem placed_compose :
    (compose participants voice? screen capacity).secondary ++
        (compose participants voice? screen capacity).floating.toList =
      participants.take (holdCapacity capacity) := by
  unfold compose
  generalize participants.take (holdCapacity capacity) = placed
  dsimp only [Layout.compute]
  -- One head or none gives the layout that floats, and any other leaves the floating slot empty.
  by_cases one : Layout.clampHeads placed.length = 1
  · have few := (Layout.clampHeads_eq_one_iff placed.length).mp one
    rw [if_pos one]
    dsimp only [Layout.forOne]
    cases placed with
    | nil => rfl
    | cons first rest =>
        rw [List.length_cons] at few
        have alone : rest = [] := List.eq_nil_of_length_eq_zero (by omega)
        rw [alone]
        rfl
  · rw [if_neg one]
    exact List.append_nil placed

theorem occupants_compose :
    (compose participants voice? screen capacity).occupants =
      (voice?.map Voice.host).toList ++ participants.take (holdCapacity capacity) := by
  rw [occupants, main_compose, placed_compose]

variable {participants}

/-- Only the host can be there a second time, as a participant who goes by that identity. -/
theorem nodup_occupants_iff (distinct : (participants.map (·.id)).Nodup) :
    ((compose participants voice? screen capacity).occupants.map (·.id)).Nodup ↔
      voice? = none ∨ Voice.identity ∉ (participants.take (holdCapacity capacity)).map (·.id) := by
  have placed : ((participants.take (holdCapacity capacity)).map (·.id)).Nodup :=
    distinct.sublist ((List.take_sublist _ participants).map _)
  rw [occupants_compose]
  cases voice? with
  | none => exact iff_of_true placed (Or.inl rfl)
  | some voice =>
      change (Voice.identity :: (participants.take (holdCapacity capacity)).map (·.id)).Nodup ↔ _
      rw [List.nodup_cons, and_iff_left placed, or_iff_right (Option.some_ne_none voice)]

theorem hosted_iff :
    (∃ host, (compose participants voice? screen capacity).main = some host ∧
      host.kind = .synthetic) ↔ voice? ≠ none := by
  rw [main_compose]
  cases voice? with
  | none => simp
  | some voice => exact iff_of_true ⟨voice.host, rfl, rfl⟩ (Option.some_ne_none voice)

end Stage

/-! ### The host in the list that is shown -/

/-- The list has the host in it if there is a voice and the identity is free. -/
theorem Voice.overlay_hosted_iff {roster : Roster Remote}
    (natural : ∀ participant ∈ roster.toList, participant.kind ≠ .synthetic)
    (voice? : Option Voice) :
    (∃ participant ∈ overlay roster voice?, participant.kind = .synthetic) ↔
      voice? ≠ none ∧ roster.contains identity = false := by
  have unhosted : ¬∃ participant ∈ roster.toList, participant.kind = .synthetic := by
    rintro ⟨participant, member, synthetic⟩
    exact natural participant member synthetic
  cases voice? with
  | none => exact iff_of_false unhosted fun both => both.1 rfl
  | some voice =>
      rw [overlay]
      cases taken : roster.contains identity with
      | true =>
          refine iff_of_false unhosted ?_
          intro both
          cases both.2
      | false =>
          refine iff_of_true ⟨voice.host, ?_, rfl⟩ ⟨Option.some_ne_none voice, rfl⟩
          exact List.mem_append_right _ (List.mem_singleton_self _)

namespace Room

/-- In every room that can be reached, on every screen and with every capacity: nobody is on the
stage twice exactly if there is no voice or none of those placed goes by the identity of the host,
and the host has the main tile exactly if the list shows it, provided that there is no voice or
nobody on the roster goes by that identity. -/
theorem nobody_on_stage_twice_iff {limit : Duration} {actions : List (Action Remote)}
    {room : Room Remote} (ran : (Room.new limit).run? actions = some room) (screen : Screen)
    (capacity : Nat) :
    (((room.session.stage screen capacity).occupants.map (·.id)).Nodup ↔
        room.session.voice = none ∨
          Voice.identity ∉
            (room.session.participants.take (Stage.holdCapacity capacity)).map (·.id)) ∧
      (((∃ host, (room.session.stage screen capacity).main = some host ∧ host.kind = .synthetic) ↔
          ∃ participant ∈ room.session.shown, participant.kind = .synthetic) ↔
        room.session.voice = none ∨ room.session.roster.contains Voice.identity = false) := by
  have natural := (orderly_run ran).2.seated.natural
  constructor
  · exact Stage.nodup_occupants_iff room.session.voice screen capacity (Roster.nodup_map_id _)
  · rw [Session.stage, Stage.hosted_iff, Session.shown, Voice.overlay_hosted_iff natural]
    cases room.session.voice with
    | none => simp
    | some voice => simp

def quietRequest : Session.Request :=
  { url := "wss://media", token := "token", audio := false, video := false }

def hostedMeeting (guest : String) : List (Action Unit) :=
  [.voice (some "Aurora · Calm"), .call (.join quietRequest), .work (.call 0) .empty,
    .work (.call 0) .empty, .work (.call 0) .empty, .ask (.call 0), .answer (.call 0) .done,
    .work (.call 0) (viewOf "alex"), .work (.call 0) (viewOf "alex"),
    .event (viewOf "alex") (.joined (Session.bare guest))]

theorem host_between_others_is_there_once :
    ∃ room, (Room.new (.ofSeconds 15 0)).run? (hostedMeeting "guest") = some room ∧
      (room.session.stage .desktop 2).occupants.map (·.id) = ["ai", "alex", "guest"] ∧
      ((room.session.stage .desktop 2).occupants.map (·.id)).Nodup ∧
      ∃ participant ∈ room.session.shown, participant.kind = .synthetic := by
  refine ⟨_, rfl, rfl, ?_⟩
  obtain ⟨once, agree⟩ :=
    @nobody_on_stage_twice_iff Unit (.ofSeconds 15 0) (hostedMeeting "guest") _ rfl .desktop 2
  constructor
  · apply once.mpr
    right
    decide
  · apply (agree.mpr (Or.inr rfl)).mp
    exact ⟨_, rfl, rfl⟩

/-- A participant who takes the identity of the host is on the stage beside it. -/
theorem guest_on_stage_beside_host :
    ∃ room, (Room.new (.ofSeconds 15 0)).run? (hostedMeeting "ai") = some room ∧
      (room.session.stage .desktop 2).occupants.map (·.id) = ["ai", "alex", "ai"] ∧
      ¬((room.session.stage .desktop 2).occupants.map (·.id)).Nodup ∧
      (∃ host, (room.session.stage .desktop 2).main = some host ∧ host.kind = .synthetic) ∧
      ¬∃ participant ∈ room.session.shown, participant.kind = .synthetic := by
  refine ⟨_, rfl, rfl, ?_, ⟨_, rfl, rfl⟩, ?_⟩
  · decide
  · decide

end Room

end MeetingRoom
