import MeetingRoom.Participant
import Std.Data.ExtTreeMap

/-!
Rosters: participants in order of arrival, at most one for each identity. A roster keeps the order
of the identities and, apart from it, an entry for each of them. Seen as a list it is what one
expects: whoever comes is put at the end unless the identity is taken, whoever goes leaves the
order of the others as it was, and two rosters with the same list are the same.
-/

namespace MeetingRoom

structure Roster (Remote : Type) where
  order : List String
  entries : Std.ExtTreeMap String (Participant Remote)
  distinct : order.Nodup
  covered : ∀ identity, identity ∈ order ↔ identity ∈ entries
  keyed : ∀ (identity : String) (participant : Participant Remote),
    entries[identity]? = some participant → participant.id = identity

namespace Roster

variable {Remote : Type}

def empty : Roster Remote :=
  { order := []
    entries := ∅
    distinct := List.nodup_nil
    covered := by simp
    keyed := by simp }

def get? (roster : Roster Remote) (identity : String) : Option (Participant Remote) :=
  roster.entries[identity]?

def contains (roster : Roster Remote) (identity : String) : Bool := roster.entries.contains identity

def size (roster : Roster Remote) : Nat := roster.order.length

def isEmpty (roster : Roster Remote) : Bool := roster.order.isEmpty

def toList (roster : Roster Remote) : List (Participant Remote) :=
  roster.order.filterMap roster.get?

theorem mem_order_iff {roster : Roster Remote} {identity : String} :
    identity ∈ roster.order ↔ ∃ participant, roster.get? identity = some participant := by
  rw [roster.covered, Std.ExtTreeMap.mem_iff_isSome_getElem?, Option.isSome_iff_exists]
  rfl

theorem contains_iff {roster : Roster Remote} {identity : String} :
    roster.contains identity = true ↔ identity ∈ roster.order := by
  rw [roster.covered, contains, Std.ExtTreeMap.contains_iff_mem]

/-- Puts a participant at the end; a taken identity is refused. -/
def add? (roster : Roster Remote) (participant : Participant Remote) : Option (Roster Remote) :=
  if taken : roster.contains participant.id then none
  else
    some
      { order := roster.order ++ [participant.id]
        entries := roster.entries.insert participant.id participant
        distinct := by
          rw [contains_iff] at taken
          rw [List.nodup_append]
          refine ⟨roster.distinct, by simp, ?_⟩
          intro left leftMember right rightMember same
          rw [List.mem_singleton] at rightMember
          exact taken (rightMember ▸ same ▸ leftMember)
        covered := by
          intro identity
          rw [List.mem_append, List.mem_singleton, Std.ExtTreeMap.mem_insert, roster.covered,
            Std.LawfulEqCmp.compare_eq_iff_eq]
          constructor
          · rintro (old | new)
            · exact Or.inr old
            · exact Or.inl new.symm
          · rintro (new | old)
            · exact Or.inr new.symm
            · exact Or.inl old
        keyed := by
          intro identity found present
          rw [Std.ExtTreeMap.getElem?_insert] at present
          split at present
          · rename_i same
            cases present
            exact Std.LawfulEqCmp.compare_eq_iff_eq.mp same
          · exact roster.keyed identity found present }

/-- Leaves the roster as it is if the identity is taken. -/
def add (roster : Roster Remote) (participant : Participant Remote) : Roster Remote :=
  (roster.add? participant).getD roster

def remove (roster : Roster Remote) (identity : String) : Roster Remote :=
  { order := roster.order.filter (· ≠ identity)
    entries := roster.entries.erase identity
    distinct := roster.distinct.filter _
    covered := by
      intro other
      rw [List.mem_filter, Std.ExtTreeMap.mem_erase, roster.covered, decide_eq_true_iff,
        and_comm, ne_comm, ne_eq, ne_eq, Std.LawfulEqCmp.compare_eq_iff_eq]
    keyed := by
      intro other found present
      rw [Std.ExtTreeMap.getElem?_erase] at present
      split at present
      · cases present
      · exact roster.keyed other found present }

/-- Changes the entry of an identity, if there is one. The change may not touch the identity. -/
def update (roster : Roster Remote) (identity : String)
    (change : Participant Remote → Participant Remote)
    (keeps : ∀ participant, (change participant).id = participant.id) : Roster Remote :=
  { order := roster.order
    entries := roster.entries.modify identity change
    distinct := roster.distinct
    covered := by
      intro other
      rw [Std.ExtTreeMap.mem_modify, roster.covered]
    keyed := by
      intro other found present
      rw [Std.ExtTreeMap.getElem?_modify] at present
      split at present
      · rename_i same
        have same := Std.LawfulEqCmp.compare_eq_iff_eq.mp same
        subst same
        obtain ⟨before, stored, rfl⟩ := Option.map_eq_some_iff.mp present
        rw [keeps]
        exact roster.keyed identity before stored
      · exact roster.keyed other found present }

/-- Takes over the media state of a snapshot for the entry of an identity. -/
def refreshMedia (roster : Roster Remote) (identity : String) (snapshot : Media.Snapshot Remote) :
    Roster Remote :=
  roster.update identity (·.withMedia snapshot) (Participant.withMedia_id · snapshot)

def refreshMetadata (roster : Roster Remote) (identity : String)
    (snapshot : Media.Snapshot Remote) : Roster Remote :=
  roster.update identity (·.withMetadata snapshot) (Participant.withMetadata_id · snapshot)

/-- The first participant of each identity stays. -/
def ofList (participants : List (Participant Remote)) : Roster Remote :=
  participants.foldl add empty

theorem id_of_get? {roster : Roster Remote} {identity : String}
    {participant : Participant Remote} (found : roster.get? identity = some participant) :
    participant.id = identity :=
  roster.keyed identity participant found

theorem map_id_toList (roster : Roster Remote) : roster.toList.map (·.id) = roster.order := by
  have each : ∀ identities : List String, (∀ identity ∈ identities, identity ∈ roster.order) →
      (identities.filterMap roster.get?).map (·.id) = identities := by
    intro identities
    induction identities with
    | nil => intro _; rfl
    | cons identity rest ih =>
        intro inside
        obtain ⟨participant, found⟩ := mem_order_iff.mp (inside identity List.mem_cons_self)
        rw [List.filterMap_cons_some found, List.map_cons, id_of_get? found,
          ih fun other member => inside other (List.mem_cons_of_mem _ member)]
  exact each roster.order fun _ member => member

theorem length_toList (roster : Roster Remote) : roster.toList.length = roster.size := by
  rw [size, ← map_id_toList, List.length_map]

theorem mem_toList_iff {roster : Roster Remote} {participant : Participant Remote} :
    participant ∈ roster.toList ↔ roster.get? participant.id = some participant := by
  rw [toList, List.mem_filterMap]
  constructor
  · rintro ⟨identity, _member, found⟩
    rw [id_of_get? found, found]
  · intro found
    exact ⟨participant.id, mem_order_iff.mpr ⟨participant, found⟩, found⟩

/-- A roster is determined by its list. -/
theorem ext_toList {left right : Roster Remote} (same : left.toList = right.toList) :
    left = right := by
  have order : left.order = right.order := by
    rw [← map_id_toList, ← map_id_toList, same]
  have entries : left.entries = right.entries := by
    apply Std.ExtTreeMap.ext_getElem?
    intro identity
    apply Option.ext
    intro participant
    constructor
    · intro found
      have key := left.keyed identity participant found
      subst key
      exact mem_toList_iff.mp (same ▸ mem_toList_iff.mpr found)
    · intro found
      have key := right.keyed identity participant found
      subst key
      exact mem_toList_iff.mp (same ▸ mem_toList_iff.mpr found)
  cases left
  cases right
  simp only at order entries
  subst order entries
  rfl

instance [DecidableEq Remote] : DecidableEq (Roster Remote) := fun left right =>
  decidable_of_iff (left.toList = right.toList)
    ⟨ext_toList, fun same => congrArg toList same⟩

end Roster

end MeetingRoom
