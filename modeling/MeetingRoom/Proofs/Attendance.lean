import MeetingRoom.Proofs.Resync

/-!
A roster keeps an order of identities and, apart from it, an entry for each of them. Whoever uses
it cannot tell it from a plain list, on which whoever comes is put at the end unless the identity is
there already, and whoever goes is taken off. Every operation gives the reply that it would give on
the list, and whatever the roster is asked afterwards it answers as the list does.
-/

namespace MeetingRoom

variable {Remote : Type}

inductive Roster.Operation (Remote : Type) where
  | add (participant : Participant Remote)
  | remove (identity : String)
  | clear
  /-- A new roster, whatever there was before. -/
  | collect (participants : List (Participant Remote))
  | refreshMedia (identity : String) (snapshot : Media.Snapshot Remote)
  | refreshMetadata (identity : String) (snapshot : Media.Snapshot Remote)

inductive Roster.Reply (Remote : Type) where
  | added (accepted : Bool)
  | removed (participant? : Option (Participant Remote))
  | done

namespace Roster

def perform (roster : Roster Remote) : Operation Remote → Roster Remote × Reply Remote
  | .add participant =>
      match roster.add? participant with
      | some added => (added, .added true)
      | none => (roster, .added false)
  | .remove identity => (roster.remove identity, .removed (roster.get? identity))
  | .clear => (empty, .done)
  | .collect participants => (ofList participants, .done)
  | .refreshMedia identity snapshot => (roster.refreshMedia identity snapshot, .done)
  | .refreshMetadata identity snapshot => (roster.refreshMetadata identity snapshot, .done)

def Operation.run {State : Type} (perform : State → Operation Remote → State × Reply Remote) :
    State → List (Operation Remote) → State × List (Reply Remote)
  | state, [] => (state, [])
  | state, operation :: rest =>
      let after := perform state operation
      let last := run perform after.1 rest
      (last.1, after.2 :: last.2)

end Roster

/-! ### Plain lists -/

namespace Attendance

variable {list : List (Participant Remote)}

def revise (list : List (Participant Remote)) (identity : String)
    (change : Participant Remote → Participant Remote) : List (Participant Remote) :=
  list.map fun participant =>
    if participant.id = identity then change participant else participant

/-- What an operation does to a plain list, and what it tells of it. -/
def perform (list : List (Participant Remote)) :
    Roster.Operation Remote → List (Participant Remote) × Roster.Reply Remote
  | .add participant =>
      if list.any (·.id = participant.id) then (list, .added false)
      else (list ++ [participant], .added true)
  | .remove identity =>
      (list.eraseP (·.id = identity), .removed (list.find? (·.id = identity)))
  | .clear => ([], .done)
  | .collect participants => (firsts (·.id) [] participants, .done)
  | .refreshMedia identity snapshot => (revise list identity (·.withMedia snapshot), .done)
  | .refreshMetadata identity snapshot => (revise list identity (·.withMetadata snapshot), .done)

def Distinct (list : List (Participant Remote)) : Prop := (list.map (·.id)).Nodup

private theorem map_id_revise {change : Participant Remote → Participant Remote}
    (keeps : ∀ participant, (change participant).id = participant.id) (identity : String) :
    (revise list identity change).map (·.id) = list.map (·.id) := by
  rw [revise, List.map_map]
  apply List.map_congr_left
  intro participant _member
  rw [Function.comp_apply]
  split
  · exact keeps participant
  · rfl

private theorem eraseP_eq_filter (distinct : Distinct list) (identity : String) :
    list.eraseP (·.id = identity) = list.filter (·.id ≠ identity) := by
  induction list with
  | nil => rfl
  | cons first rest ih =>
      rw [Distinct, List.map_cons, List.nodup_cons] at distinct
      by_cases same : first.id = identity
      -- The first to go by the identity is the only one, so the filter keeps all the others.
      · have others : rest.filter (·.id ≠ identity) = rest := by
          rw [List.filter_eq_self]
          intro participant member
          rw [decide_eq_true_eq]
          intro again
          have twice := List.mem_map_of_mem (f := fun other : Participant Remote => other.id) member
          rw [again, ← same] at twice
          exact distinct.1 twice
        rw [List.eraseP_cons_of_pos (by simpa using same),
          List.filter_cons_of_neg (by simpa using same), others]
      · rw [List.eraseP_cons_of_neg (by simpa using same),
          List.filter_cons_of_pos (by simpa using same), ih distinct.2]

/-- No operation lists anybody twice. -/
theorem Distinct.perform (distinct : Distinct list) (operation : Roster.Operation Remote) :
    Distinct (Attendance.perform list operation).1 := by
  cases operation with
  | add participant =>
      rw [Attendance.perform]
      by_cases listed : list.any (·.id = participant.id) = true
      · rw [if_pos listed]
        exact distinct
      · rw [if_neg listed, Distinct, List.map_append, List.map_singleton, List.nodup_append]
        refine ⟨distinct, List.pairwise_singleton _ _, ?_⟩
        intro identity before other new same
        rw [List.mem_singleton] at new
        obtain ⟨present, member, named⟩ := List.mem_map.mp before
        apply listed
        rw [List.any_eq_true]
        exact ⟨present, member, decide_eq_true (named.trans (same.trans new))⟩
  | remove identity =>
      exact distinct.sublist (List.Sublist.map _ List.eraseP_sublist)
  | clear => exact List.nodup_nil
  | collect participants =>
      rw [Attendance.perform, Distinct, ← Roster.toList_ofList]
      exact Roster.nodup_map_id _
  | refreshMedia identity snapshot =>
      rw [Distinct, Attendance.perform,
        map_id_revise (Participant.withMedia_id · snapshot)]
      exact distinct
  | refreshMetadata identity snapshot =>
      rw [Distinct, Attendance.perform,
        map_id_revise (Participant.withMetadata_id · snapshot)]
      exact distinct

theorem Distinct.run (distinct : Distinct list) (operations : List (Roster.Operation Remote)) :
    Distinct (Roster.Operation.run Attendance.perform list operations).1 := by
  induction operations generalizing list with
  | nil => exact distinct
  | cons operation rest ih => exact ih (distinct.perform operation)

end Attendance

/-! ### Rosters -/

namespace Roster

/-- Whatever a roster is asked, it answers as a list does. -/
structure Shows (roster : Roster Remote) (list : List (Participant Remote)) : Prop where
  size : roster.size = list.length
  isEmpty : roster.isEmpty = list.isEmpty
  contains : ∀ identity, roster.contains identity = list.any (·.id = identity)
  get? : ∀ identity, roster.get? identity = list.find? (·.id = identity)
  order : roster.order = list.map (·.id)
  toList : roster.toList = list

structure Consistent (roster : Roster Remote) : Prop where
  distinct : roster.order.Nodup
  covered : ∀ identity, identity ∈ roster.order ↔ identity ∈ roster.entries
  keyed : ∀ (identity : String) (participant : Participant Remote),
    roster.entries[identity]? = some participant → participant.id = identity

theorem shows_toList (roster : Roster Remote) : roster.Shows roster.toList := by
  have length := length_toList roster
  refine
    { size := length.symm
      isEmpty := ?_
      contains := contains_eq_any roster
      get? := get?_eq_find? roster
      order := (map_id_toList roster).symm
      toList := rfl }
  rw [Roster.isEmpty, ← map_id_toList, List.isEmpty_map]

/-- One operation on a roster is the same operation on its list. -/
theorem toList_perform (roster : Roster Remote) (operation : Operation Remote) :
    (roster.perform operation).1.toList = (Attendance.perform roster.toList operation).1 ∧
      (roster.perform operation).2 = (Attendance.perform roster.toList operation).2 := by
  cases operation with
  | add participant =>
      -- Both look for the identity first, the one among the entries, the other on the list.
      rw [perform, Attendance.perform, ← contains_eq_any]
      cases success : roster.add? participant with
      | none =>
          rw [if_pos (add?_eq_none_iff.mp success)]
          exact ⟨rfl, rfl⟩
      | some added =>
          have free : ¬roster.contains participant.id = true := by
            intro taken
            rw [add?_eq_none_iff.mpr taken] at success
            cases success
          rw [if_neg free]
          exact ⟨toList_add? success, rfl⟩
  | remove identity =>
      constructor
      · change (roster.remove identity).toList = roster.toList.eraseP (·.id = identity)
        rw [toList_remove, Attendance.eraseP_eq_filter (nodup_map_id roster)]
      · exact congrArg Reply.removed (get?_eq_find? roster identity)
  | clear => exact ⟨rfl, rfl⟩
  | collect participants => exact ⟨toList_ofList participants, rfl⟩
  | refreshMedia identity snapshot =>
      refine ⟨?_, rfl⟩
      exact toList_update roster identity (·.withMedia snapshot) (Participant.withMedia_id · snapshot)
  | refreshMetadata identity snapshot =>
      refine ⟨?_, rfl⟩
      exact toList_update roster identity (·.withMetadata snapshot)
        (Participant.withMetadata_id · snapshot)

theorem toList_run (roster : Roster Remote) (operations : List (Operation Remote)) :
    (Operation.run perform roster operations).1.toList =
        (Operation.run Attendance.perform roster.toList operations).1 ∧
      (Operation.run perform roster operations).2 =
        (Operation.run Attendance.perform roster.toList operations).2 := by
  -- The roster is general, since the rest goes on from what the first operation makes of it.
  induction operations generalizing roster with
  | nil => exact ⟨rfl, rfl⟩
  | cons operation rest ih =>
      obtain ⟨list, reply⟩ := toList_perform roster operation
      obtain ⟨lists, replies⟩ := ih (roster.perform operation).1
      rw [list] at lists replies
      refine ⟨lists, ?_⟩
      rw [Operation.run, Operation.run, reply, replies]

/-- Whatever is done to a roster, it replies as a plain list would on which nobody is listed twice,
and in the end it answers as that list does. Its order and its entries never fall apart, so its size
is the number of participants that it lists. -/
theorem roster_refines_list (operations : List (Operation Remote)) :
    let roster := (Operation.run perform (empty : Roster Remote) operations).1
    let list := (Operation.run Attendance.perform [] operations).1
    (Operation.run perform (empty : Roster Remote) operations).2 =
        (Operation.run Attendance.perform [] operations).2 ∧
      Attendance.Distinct list ∧ roster.Shows list ∧ roster.Consistent ∧
      roster.size = roster.toList.length := by
  intro roster list
  obtain ⟨same, replies⟩ := toList_run (empty : Roster Remote) operations
  have shows : roster.Shows list := by
    have shown := shows_toList roster
    rw [same] at shown
    exact shown
  have nobody : Attendance.Distinct ([] : List (Participant Remote)) := List.nodup_nil
  have consistent : roster.Consistent := ⟨roster.distinct, roster.covered, roster.keyed⟩
  exact ⟨replies, nobody.run operations, shows, consistent, (length_toList roster).symm⟩

end Roster

end MeetingRoom
