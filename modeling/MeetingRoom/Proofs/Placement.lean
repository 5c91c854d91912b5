import MeetingRoom.Document.Record
import MeetingRoom.Proofs.Seating

/-!
Which tiles the first participants get. How many are placed is decided once, by the capacity that
the stage can hold, and a second time by the layout, which counts the heads it is given. The two
agree: where two are placed the layout is the one with a group, and where fewer are it is the one
with a floating tile. So nobody is placed without a tile to go to, and no tile is written that
nobody has.
-/

namespace MeetingRoom

variable {Remote : Type}

/-! ### Written layouts -/

namespace Layout

/-- What a layout is written under that not every layout has. -/
def ownKeys : List String :=
  ["variant", "secondaryContainerClass", "secondaryTileClass", "floatingSelfWrapperClass",
    "floatingSelfTileClass"]

def WritesGroup (layout : Layout) : Prop :=
  ∃ container tile, container ≠ "" ∧ tile ≠ "" ∧
    layout.toDocument.slots? ownKeys =
      some [.given (.text "double"), .given (.text container), .given (.text tile), .missing, .missing]

def WritesFloating (layout : Layout) : Prop :=
  ∃ wrapper tile, wrapper ≠ "" ∧ tile ≠ "" ∧
    layout.toDocument.slots? ownKeys =
      some [.given (.text "single"), .missing, .missing, .given (.text wrapper), .given (.text tile)]

theorem writesGroup_forTwo : forTwo.WritesGroup :=
  ⟨_, _, by decide, by decide, rfl⟩

theorem writesFloating_forOne (screen : Screen) : (forOne screen).WritesFloating := by
  cases screen with
  | mobile => exact ⟨_, _, by decide, by decide, rfl⟩
  | tablet => exact ⟨_, _, by decide, by decide, rfl⟩
  | desktop => exact ⟨_, _, by decide, by decide, rfl⟩

theorem WritesGroup.not_writesFloating {layout : Layout} (group : layout.WritesGroup) :
    ¬layout.WritesFloating := by
  rintro ⟨wrapper, tile, _wrapped, _tiled, single⟩
  obtain ⟨container, groupTile, _contained, _groupTiled, double⟩ := group
  rw [double] at single
  simp at single

end Layout

/-! ### Slots -/

namespace Stage

variable (participants : List (Participant Remote)) (voice? : Option Voice) (screen : Screen)
  (capacity : Nat)

theorem holdCapacity_eq : holdCapacity capacity = max 1 (min capacity 2) := rfl

def placed : List (Participant Remote) := participants.take (holdCapacity capacity)

theorem length_placed :
    (placed participants capacity).length = min (max 1 (min capacity 2)) participants.length := by
  rw [placed, List.length_take, holdCapacity_eq]

theorem length_placed_le_two : (placed participants capacity).length ≤ 2 := by
  rw [length_placed]
  omega

theorem head?_placed : (placed participants capacity).head? = participants.head? := by
  have room : holdCapacity capacity ≠ 0 := by
    rw [holdCapacity_eq]
    omega
  rw [placed, List.head?_take, if_neg room]

variable {participants capacity}

theorem compose_of_two (two : (placed participants capacity).length = 2) :
    compose participants voice? screen capacity =
      { layout := .forTwo
        main := voice?.map Voice.host
        secondary := placed participants capacity
        floating := none } := by
  have layout : Layout.compute (participants.take (holdCapacity capacity)).length screen =
      .forTwo := by
    rw [← placed, two]
    rfl
  rw [compose, layout]
  rfl

theorem compose_of_few (few : (placed participants capacity).length ≠ 2) :
    compose participants voice? screen capacity =
      { layout := .forOne screen
        main := voice?.map Voice.host
        secondary := []
        floating := participants.head? } := by
  have one : Layout.clampHeads (placed participants capacity).length = 1 := by
    rw [Layout.clampHeads_eq_one_iff]
    have most := length_placed_le_two participants capacity
    omega
  have layout : Layout.compute (participants.take (holdCapacity capacity)).length screen =
      .forOne screen := by
    rw [← placed, Layout.compute, if_pos one]
  rw [compose, layout, ← head?_placed participants capacity]
  rfl

/-- Who is first on the roster has the only tile, or the first one. -/
theorem first_has_tile {first : Participant Remote} (head : participants.head? = some first) :
    (compose participants voice? screen capacity).floating = some first ∨
      (compose participants voice? screen capacity).secondary.head? = some first := by
  by_cases two : (placed participants capacity).length = 2
  · rw [compose_of_two voice? screen two]
    exact Or.inr ((head?_placed participants capacity).trans head)
  · rw [compose_of_few voice? screen two]
    exact Or.inl head

/-- A voice decides on the main tile only. -/
theorem compose_voice (other? : Option Voice) :
    compose participants other? screen capacity =
      { compose participants voice? screen capacity with main := other?.map Voice.host } := by
  by_cases two : (placed participants capacity).length = 2
  · rw [compose_of_two voice? screen two, compose_of_two other? screen two]
  · rw [compose_of_few voice? screen two, compose_of_few other? screen two]

end Stage

namespace Room

/-- In every room that can be reached, on every screen and with every capacity: the tiles beside the
main one hold the first participants of the roster, in its order and nobody twice, two if the capacity
and the roster allow it and otherwise one; the layout is written with a group exactly if there are
two of them, who share it, and else with a floating tile, which is empty only if the roster is; the
own participant has a tile, the first one; and a voice decides on the main tile and on nothing else. -/
theorem first_on_roster_have_tiles {limit : Duration} {actions : List (Action Remote)}
    {room : Room Remote} (ran : (Room.new limit).run? actions = some room) (screen : Screen)
    (capacity : Nat) :
    let stage := room.session.stage screen capacity
    let heads := min (max 1 (min capacity 2)) room.session.participants.length
    (stage.secondary ++ stage.floating.toList = room.session.participants.take heads ∧
      (stage.secondary ++ stage.floating.toList).length = heads ∧
      ((stage.secondary ++ stage.floating.toList).map (·.id)).Nodup) ∧
    ((stage.layout.WritesGroup ↔ heads = 2) ∧ (stage.layout.WritesFloating ↔ heads ≠ 2) ∧
      (heads = 2 → stage.secondary.length = 2 ∧ stage.floating = none) ∧
      (heads ≠ 2 → stage.secondary = [] ∧
        (stage.floating = none ↔ room.session.participants = []))) ∧
    (∀ own ∈ room.session.participants, own.kind = .own →
      stage.floating = some own ∨ stage.secondary.head? = some own) ∧
    ∀ voice? : Option Voice,
      Stage.compose room.session.participants voice? screen capacity =
        { stage with main := voice?.map Voice.host } := by
  have seated := (orderly_run ran).2.seated
  have distinct : (room.session.participants.map (·.id)).Nodup := Roster.nodup_map_id _
  intro stage heads
  have length := Stage.length_placed room.session.participants capacity
  have placed : stage.secondary ++ stage.floating.toList =
      room.session.participants.take heads := by
    have held := Stage.placed_compose room.session.participants room.session.voice screen capacity
    rw [List.take_eq_take_min] at held
    exact held
  refine ⟨⟨placed, ?_, ?_⟩, ?_, ?_, ?_⟩
  · rw [placed, List.length_take]
    exact Nat.min_eq_left (Nat.min_le_right _ _)
  · rw [placed]
    exact distinct.sublist ((List.take_sublist _ _).map _)
  · by_cases two : (Stage.placed room.session.participants capacity).length = 2
    · have composed : stage = _ := Stage.compose_of_two room.session.voice screen two
      have both : heads = 2 := length.symm.trans two
      rw [composed]
      refine ⟨iff_of_true Layout.writesGroup_forTwo both, ?_, fun _both => ⟨two, rfl⟩,
        fun few => absurd both few⟩
      exact iff_of_false Layout.writesGroup_forTwo.not_writesFloating fun few => few both
    · have composed : stage = _ := Stage.compose_of_few room.session.voice screen two
      have few : heads ≠ 2 := fun both => two (length.trans both)
      have floating := Layout.writesFloating_forOne screen
      rw [composed]
      refine ⟨iff_of_false (fun group => group.not_writesFloating floating) few,
        iff_of_true floating few, fun both => absurd both few, fun _few => ⟨rfl, ?_⟩⟩
      exact List.head?_eq_none_iff
  · intro own listed kind
    exact Stage.first_has_tile room.session.voice screen (seated.own own listed kind).1
  · exact Stage.compose_voice room.session.voice screen

/-- The guest takes the second tile of two, and with room for one only `alex` is left, who floats. -/
theorem host_leaves_both_tiles :
    ∃ room, (Room.new (.ofSeconds 15 0)).run? (hostedMeeting "guest") = some room ∧
      (room.session.stage .tablet 18446744073709551615).secondary.map (·.id) = ["alex", "guest"] ∧
      (room.session.stage .tablet 18446744073709551615).layout.WritesGroup ∧
      (room.session.stage .tablet 0).floating.map (·.id) = some "alex" ∧
      (room.session.stage .tablet 0).layout.WritesFloating := by
  refine ⟨_, rfl, rfl, ?_, rfl, ?_⟩
  · have wide := @first_on_roster_have_tiles Unit (.ofSeconds 15 0) (hostedMeeting "guest") _ rfl
      .tablet 18446744073709551615
    exact wide.2.1.1.mpr (by decide)
  · have narrow := @first_on_roster_have_tiles Unit (.ofSeconds 15 0) (hostedMeeting "guest") _ rfl
      .tablet 0
    exact narrow.2.1.2.1.mpr (by decide)

end Room

end MeetingRoom
