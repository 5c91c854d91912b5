import MeetingRoom.Roster

/-!
What each operation on a roster does to its list.
-/

namespace MeetingRoom

/-- Where every key is there once, an item is found by its key exactly if it is there. -/
theorem find?_eq_some_iff_of_nodup {Item Key : Type} [DecidableEq Key] {key : Item → Key}
    {items : List Item} (distinct : (items.map key).Nodup) {wanted : Key} {item : Item} :
    items.find? (key · = wanted) = some item ↔ item ∈ items ∧ key item = wanted := by
  induction items with
  | nil => simp
  | cons first rest ih =>
      rw [List.map_cons, List.nodup_cons] at distinct
      by_cases same : key first = wanted
      · rw [List.find?_cons_of_pos (by simpa using same), Option.some.injEq]
        constructor
        · intro found
          subst found
          exact ⟨List.mem_cons_self, same⟩
        · intro present
          rcases List.mem_cons.mp present.1 with found | other
          · exact found.symm
          · have again := List.mem_map_of_mem (f := key) other
            rw [present.2, ← same] at again
            exact absurd again distinct.1
      · rw [List.find?_cons_of_neg (by simpa using same), ih distinct.2, List.mem_cons]
        constructor
        · intro present
          exact ⟨Or.inr present.1, present.2⟩
        · intro present
          refine ⟨?_, present.2⟩
          rcases present.1 with found | other
          · rw [found] at present
            exact absurd present.2 same
          · exact other

namespace Roster

variable {Remote : Type}

theorem toList_empty : (empty : Roster Remote).toList = [] := rfl

theorem contains_iff_get? {roster : Roster Remote} {identity : String} :
    roster.contains identity = true ↔ ∃ participant, roster.get? identity = some participant := by
  rw [contains_iff, mem_order_iff]

theorem contains_iff_mem_toList {roster : Roster Remote} {identity : String} :
    roster.contains identity = true ↔ ∃ participant ∈ roster.toList, participant.id = identity := by
  rw [contains_iff, ← map_id_toList, List.mem_map]

theorem get?_eq_some_iff {roster : Roster Remote} {identity : String}
    {participant : Participant Remote} :
    roster.get? identity = some participant ↔
      participant ∈ roster.toList ∧ participant.id = identity := by
  constructor
  · intro found
    have key := id_of_get? found
    subst key
    exact ⟨mem_toList_iff.mpr found, rfl⟩
  · rintro ⟨member, rfl⟩
    exact mem_toList_iff.mp member

theorem nodup_map_id (roster : Roster Remote) : (roster.toList.map (·.id)).Nodup := by
  rw [map_id_toList]
  exact roster.distinct

theorem contains_eq_any (roster : Roster Remote) (identity : String) :
    roster.contains identity = roster.toList.any (·.id = identity) := by
  rw [Bool.eq_iff_iff, contains_iff_mem_toList, List.any_eq_true]
  simp only [decide_eq_true_eq]

theorem get?_eq_find? (roster : Roster Remote) (identity : String) :
    roster.get? identity = roster.toList.find? (·.id = identity) := by
  apply Option.ext
  intro participant
  rw [get?_eq_some_iff, find?_eq_some_iff_of_nodup (nodup_map_id roster)]

theorem get?_add? {roster added : Roster Remote} {participant : Participant Remote}
    (success : roster.add? participant = some added) (identity : String) :
    added.get? identity =
      if participant.id = identity then some participant else roster.get? identity := by
  unfold add? at success
  split at success
  · cases success
  · cases success
    simp only [get?, Std.ExtTreeMap.getElem?_insert, Std.LawfulEqCmp.compare_eq_iff_eq]

theorem add?_eq_none_iff {roster : Roster Remote} {participant : Participant Remote} :
    roster.add? participant = none ↔ roster.contains participant.id = true := by
  unfold add?
  split
  · rename_i taken; simpa using taken
  · rename_i free; simpa using free

theorem toList_add? {roster added : Roster Remote} {participant : Participant Remote}
    (success : roster.add? participant = some added) :
    added.toList = roster.toList ++ [participant] := by
  have free : participant.id ∉ roster.order := by
    intro member
    have taken := add?_eq_none_iff.mpr (contains_iff.mpr member)
    rw [taken] at success
    cases success
  have order : added.order = roster.order ++ [participant.id] := by
    unfold add? at success
    split at success
    · cases success
    · cases success; rfl
  have old : ∀ identities : List String, participant.id ∉ identities →
      identities.filterMap added.get? = identities.filterMap roster.get? := by
    intro identities
    induction identities with
    | nil => intro _; rfl
    | cons identity rest ih =>
        intro absent
        rw [List.mem_cons, not_or] at absent
        rw [List.filterMap_cons, List.filterMap_cons, get?_add? success, if_neg absent.1,
          ih absent.2]
  rw [toList, order, List.filterMap_append, old roster.order free]
  simp [toList, get?_add? success]

theorem toList_add (roster : Roster Remote) (participant : Participant Remote) :
    (roster.add participant).toList =
      if roster.contains participant.id = true then roster.toList
      else roster.toList ++ [participant] := by
  unfold add
  cases success : roster.add? participant with
  | none => rw [if_pos (add?_eq_none_iff.mp success), Option.getD_none]
  | some added =>
      rw [if_neg, Option.getD_some, toList_add? success]
      intro taken
      rw [add?_eq_none_iff.mpr taken] at success
      cases success

theorem get?_empty (identity : String) : (empty : Roster Remote).get? identity = none := by
  simp [empty, get?]

theorem get?_add (roster : Roster Remote) (participant : Participant Remote)
    (identity : String) :
    (roster.add participant).get? identity =
      (roster.get? identity).or (if participant.id = identity then some participant else none) := by
  unfold add
  cases success : roster.add? participant with
  | none =>
      obtain ⟨present, found⟩ := contains_iff_get?.mp (add?_eq_none_iff.mp success)
      rw [Option.getD_none]
      by_cases same : participant.id = identity
      · rw [← same, found]
        rfl
      · rw [if_neg same, Option.or_none]
  | some added =>
      rw [Option.getD_some, get?_add? success]
      by_cases same : participant.id = identity
      · rw [if_pos same, if_pos same, ← same]
        cases found : roster.get? participant.id with
        | none => rfl
        | some present =>
            rw [add?_eq_none_iff.mpr (contains_iff_get?.mpr ⟨present, found⟩)] at success
            cases success
      · rw [if_neg same, if_neg same, Option.or_none]

/-- Who comes first goes by the identity. -/
theorem get?_ofList (participants : List (Participant Remote)) (identity : String) :
    (ofList participants).get? identity = participants.find? (·.id = identity) := by
  have onto : ∀ roster : Roster Remote, (participants.foldl add roster).get? identity =
      (roster.get? identity).or (participants.find? (·.id = identity)) := by
    induction participants with
    | nil =>
        intro roster
        rw [List.find?_nil, Option.or_none]
        rfl
    | cons participant rest ih =>
        intro roster
        rw [List.foldl_cons, ih, get?_add, Option.or_assoc]
        by_cases same : participant.id = identity
        · rw [if_pos same, List.find?_cons_of_pos (by simpa using same)]
          rfl
        · rw [if_neg same, List.find?_cons_of_neg (by simpa using same)]
          rfl
  rw [ofList, onto, get?_empty]
  rfl

theorem get?_remove (roster : Roster Remote) (identity other : String) :
    (roster.remove identity).get? other = if identity = other then none else roster.get? other := by
  simp only [remove, get?, Std.ExtTreeMap.getElem?_erase, Std.LawfulEqCmp.compare_eq_iff_eq]

theorem toList_remove (roster : Roster Remote) (identity : String) :
    (roster.remove identity).toList = roster.toList.filter (·.id ≠ identity) := by
  have each : ∀ identities : List String,
      (identities.filter (· ≠ identity)).filterMap (roster.remove identity).get? =
        (identities.filterMap roster.get?).filter (·.id ≠ identity) := by
    intro identities
    induction identities with
    | nil => rfl
    | cons other rest ih =>
        by_cases same : other = identity
        · rw [List.filter_cons_of_neg (by simpa using same), ih]
          cases found : roster.get? other with
          | none => rw [List.filterMap_cons_none found]
          | some participant =>
              have key := id_of_get? found
              rw [List.filterMap_cons_some found, List.filter_cons_of_neg]
              simpa [key] using same
        · rw [List.filter_cons_of_pos (by simpa using same)]
          have kept : (roster.remove identity).get? other = roster.get? other := by
            rw [get?_remove, if_neg fun equal => same equal.symm]
          cases found : roster.get? other with
          | none =>
              rw [List.filterMap_cons_none (kept.trans found), List.filterMap_cons_none found, ih]
          | some participant =>
              have key := id_of_get? found
              rw [List.filterMap_cons_some (kept.trans found), List.filterMap_cons_some found,
                List.filter_cons_of_pos (by simpa [key] using same), ih]
  exact each roster.order

theorem remove_of_free {roster : Roster Remote} {identity : String}
    (free : roster.contains identity = false) : roster.remove identity = roster := by
  apply ext_toList
  rw [toList_remove, List.filter_eq_self]
  intro participant member
  rw [decide_eq_true_eq]
  intro same
  rw [contains_iff_mem_toList.mpr ⟨participant, member, same⟩] at free
  cases free

theorem get?_update (roster : Roster Remote) (identity : String)
    (change : Participant Remote → Participant Remote)
    (keeps : ∀ participant, (change participant).id = participant.id) (other : String) :
    (roster.update identity change keeps).get? other =
      if identity = other then (roster.get? other).map change else roster.get? other := by
  simp only [update, get?, Std.ExtTreeMap.getElem?_modify, Std.LawfulEqCmp.compare_eq_iff_eq]
  split
  · rename_i same; rw [same]
  · rfl

theorem toList_update (roster : Roster Remote) (identity : String)
    (change : Participant Remote → Participant Remote)
    (keeps : ∀ participant, (change participant).id = participant.id) :
    (roster.update identity change keeps).toList =
      roster.toList.map fun participant =>
        if participant.id = identity then change participant else participant := by
  have pointwise : (roster.update identity change keeps).get? = fun other =>
      (roster.get? other).map fun participant =>
        if participant.id = identity then change participant else participant := by
    funext other
    rw [get?_update]
    cases found : roster.get? other with
    | none => split <;> rfl
    | some participant =>
        have key := id_of_get? found
        by_cases same : identity = other
        · simp [same, key]
        · simp [same, key, Ne.symm same]
  have order : (roster.update identity change keeps).order = roster.order := rfl
  rw [toList, pointwise, order, toList, List.map_filterMap]

theorem update_of_free {roster : Roster Remote} {identity : String}
    (free : roster.contains identity = false)
    (change : Participant Remote → Participant Remote)
    (keeps : ∀ participant, (change participant).id = participant.id) :
    roster.update identity change keeps = roster := by
  apply ext_toList
  rw [toList_update, List.map_congr_left, List.map_id]
  intro participant member
  rw [if_neg, id]
  intro same
  rw [contains_iff_mem_toList.mpr ⟨participant, member, same⟩] at free
  cases free

end Roster

end MeetingRoom
