import Mathlib.Data.List.Nodup
import MeetingRoom.Document.Record

/-!
What counts in a record. One record can be worded in many ways: keys that nobody asks for may stand
in it, keys that have a default may be left out of it, and it may be an array of its values or an
object. All of them give the same slots, up to defaults that are written out, so what is read from
the slots does not depend on the wording. A record that is written out in full has one wording.
-/

namespace MeetingRoom.Document

/-! ### Members of an object -/

section Members

variable {key : String} {front back : List (Option String × Document)}

theorem occurrences_eq_count (key : String) (members : List (Option String × Document)) :
    occurrences key members = (members.map (·.1)).count (some key) := by
  rw [List.count, List.countP_map]
  rfl

theorem slotOf_of_absent {members : List (Option String × Document)}
    (absent : ∀ member ∈ members, member.1 ≠ some key) : slotOf members key = .missing := by
  have none : members.find? (·.1 == some key) = none :=
    List.find?_eq_none.mpr fun member among => by simpa using absent member among
  rw [slotOf, none]

theorem occurrences_of_absent {members : List (Option String × Document)}
    (absent : ∀ member ∈ members, member.1 ≠ some key) : occurrences key members = 0 :=
  List.countP_eq_zero.mpr fun member among => by simpa using absent member among

/-- Members of another key do not count. -/
theorem occurrences_of_other {other : String} (apart : other ≠ key) (value : Document) :
    occurrences key (front ++ (some other, value) :: back) = occurrences key (front ++ back) := by
  simp [occurrences, List.countP_append, apart]

theorem slotOf_of_other {other : String} (apart : other ≠ key) (value : Document) :
    slotOf (front ++ (some other, value) :: back) key = slotOf (front ++ back) key := by
  simp [slotOf, List.find?_append, apart]

theorem slotOf_middle (absent : ∀ member ∈ front, member.1 ≠ some key) (value : Document) :
    slotOf (front ++ (some key, value) :: back) key = .given value := by
  have none : front.find? (·.1 == some key) = none :=
    List.find?_eq_none.mpr fun member among => by simpa using absent member among
  rw [slotOf, List.find?_append, none, Option.none_or, List.find?_cons_of_pos (by simp)]

end Members

/-! ### Records in full -/

/-- Written out as an object that has these keys, in this order, and no others. -/
def IsRecord (keys : List String) (document : Document) : Prop :=
  ∃ members, document = .object members ∧ members.map (·.1) = keys.map some

section Records

variable {keys : List String} {members : List (Option String × Document)}

/-- Among keys that do not repeat, a member is found by its key. -/
theorem slotOf_of_mem (distinct : (members.map (·.1)).Nodup) {key : String} {value : Document}
    (member : (some key, value) ∈ members) : slotOf members key = .given value := by
  obtain ⟨front, back, rfl⟩ := List.append_of_mem member
  apply slotOf_middle
  intro other among same
  rw [List.map_append, List.map_cons, List.nodup_append] at distinct
  exact distinct.2.2 _ (List.mem_map_of_mem among) _ List.mem_cons_self same

/-- The slots of a record that is written out in full are its values. -/
theorem slots?_of_record (distinct : keys.Nodup) (full : members.map (·.1) = keys.map some) :
    (Document.object members).slots? keys = some (members.map fun member => .given member.2) := by
  have apart : (members.map (·.1)).Nodup := by
    rw [full]
    exact List.Pairwise.map some
      (fun _left _right other same => other (Option.some.inj same)) distinct
  have known : members.all (·.1.isSome) = true := by
    rw [List.all_eq_true]
    intro member inside
    have listed : member.1 ∈ keys.map some := full ▸ List.mem_map_of_mem inside
    obtain ⟨key, _known, same⟩ := List.mem_map.mp listed
    rw [← same]
    rfl
  have once : keys.all (occurrences · members ≤ 1) = true := by
    rw [List.all_eq_true]
    intro key _known
    rw [decide_eq_true_eq, occurrences_eq_count]
    exact List.nodup_iff_count.mp apart (some key)
  rw [slots?, known, once, Bool.and_self, if_pos rfl]
  -- Both lists are taken over the members, each with its own key.
  let slot : Option String → Slot := fun key? => key?.elim .missing (slotOf members)
  have overKeys : keys.map (slotOf members) = (keys.map some).map slot := by
    rw [List.map_map]
    rfl
  rw [overKeys, ← full, List.map_map]
  congr 1
  apply List.map_congr_left
  rintro ⟨key?, value⟩ inside
  cases key? with
  | none => cases List.all_eq_true.mp known _ inside
  | some key => exact slotOf_of_mem apart inside

end Records

/-! ### Wordings -/

/-- A key of a record, the value that it has where it is left out, if it may be, and the changes of
its value that do not count. -/
structure Field where
  key : String
  default? : Option Document
  Same : Document → Document → Prop

def Field.plain (key : String) (default? : Option Document) : Field :=
  { key := key, default? := default?, Same := fun _old _new => False }

def Field.record (key : String) (Same : Document → Document → Prop) : Field :=
  { key := key, default? := none, Same := Same }

inductive ChangesItem (Same : Document → Document → Prop) : Document → Document → Prop where
  | item {front back : List Document} {old new : Document} (same : Same old new) :
      ChangesItem Same (.array (front ++ old :: back)) (.array (front ++ new :: back))

def Field.records (key : String) (Same : Document → Document → Prop) : Field :=
  { key := key, default? := some (.array []), Same := ChangesItem Same }

variable {fields : List Field} {field : Field} {old new : Document}

/-- One step from a wording of a record towards the one that is written out in full. -/
inductive Rewords (fields : List Field) : Document → Document → Prop where
  | unknown {front back : List (Option String × Document)} {key : String} {value : Document}
      (foreign : ∀ field ∈ fields, field.key ≠ key) :
      Rewords fields (.object (front ++ (some key, value) :: back)) (.object (front ++ back))
  | missing {members : List (Option String × Document)} {field : Field} {default : Document}
      (listed : field ∈ fields) (defaulted : field.default? = some default)
      (absent : ∀ member ∈ members, member.1 ≠ some field.key) :
      Rewords fields (.object members) (.object (members ++ [(some field.key, default)]))
  | cutOff {items : List Document} {front back : List Field} {field : Field} {default : Document}
      (listed : fields = front ++ field :: back) (defaulted : field.default? = some default)
      (short : items.length = front.length) :
      Rewords fields (.array items) (.array (items ++ [default]))
  | array {items : List Document} (whole : items.length = fields.length) :
      Rewords fields (.array items) (.object ((fields.map fun field => some field.key).zip items))
  | inside {front back : List (Option String × Document)} {field : Field} {old new : Document}
      (listed : field ∈ fields) (same : field.Same old new) :
      Rewords fields (.object (front ++ (some field.key, old) :: back))
        (.object (front ++ (some field.key, new) :: back))

def RewordsText (fields : List Field) (text other : String) : Prop :=
  ∃ old new, read text = some old ∧ read other = some new ∧ Rewords fields old new

theorem RewordsText.bind_read {Value : Type} {take : Document → Option Value}
    (same : ∀ {old new}, Rewords fields old new → take old = take new) {text other : String}
    (rewords : RewordsText fields text other) : (read text).bind take = (read other).bind take := by
  obtain ⟨old, new, held, heldOther, step⟩ := rewords
  rw [held, heldOther]
  exact same step

/-! ### Slots of a wording -/

namespace Slot

/-- A slot is as before, or what is in it has been worded in another way, or its default has been
written out. -/
inductive Agrees (field : Field) : Slot → Slot → Prop where
  | same (slot : Slot) : Agrees field slot slot
  | given {old new : Document} (same : field.Same old new) : Agrees field (.given old) (.given new)
  | missing {default : Document} (defaulted : field.default? = some default) :
      Agrees field .missing (.given default)
  | cutOff {default : Document} (defaulted : field.default? = some default) :
      Agrees field .cutOff (.given default)

inductive AgreeAll : List Field → List Slot → List Slot → Prop where
  | cons {field : Field} {fields : List Field} {left right : Slot} {lefts rights : List Slot}
      (agrees : Agrees field left right) (agreeAll : AgreeAll fields lefts rights) :
      AgreeAll (field :: fields) (left :: lefts) (right :: rights)
  | nil : AgreeAll [] [] []

variable {left right : Slot} {Value : Type} {read : Document → Option Value}

theorem Agrees.required_eq (agrees : Agrees field left right) (needed : field.default? = none)
    (reads : ∀ old new, field.Same old new → read old = read new) :
    left.required? read = right.required? read := by
  cases agrees with
  | same slot => rfl
  | given same => exact reads _ _ same
  | missing defaulted => cases needed.symm.trans defaulted
  | cutOff defaulted => cases needed.symm.trans defaulted

theorem Agrees.defaulted_eq {written : Document} {default : Value} (agrees : Agrees field left right)
    (optional : field.default? = some written) (defaults : read written = some default)
    (reads : ∀ old new, field.Same old new → read old = read new) :
    left.defaulted? default read = right.defaulted? default read := by
  cases agrees with
  | same slot => rfl
  | given same => exact reads _ _ same
  | missing defaulted =>
      cases optional.symm.trans defaulted
      exact defaults.symm
  | cutOff defaulted =>
      cases optional.symm.trans defaulted
      exact defaults.symm

theorem Agrees.plain_eq {key : String} (agrees : Agrees (.plain key none) left right) :
    left.required? read = right.required? read :=
  agrees.required_eq rfl nofun

theorem Agrees.text_eq {key chars : String}
    (agrees : Agrees (.plain key (some (.text chars))) left right) :
    left.defaulted? chars Document.text? = right.defaulted? chars Document.text? :=
  agrees.defaulted_eq rfl rfl nofun

theorem Agrees.textOrNull_eq {key : String} (agrees : Agrees (.plain key (some .null)) left right) :
    left.defaulted? none (orNull? Document.text?) =
      right.defaulted? none (orNull? Document.text?) :=
  agrees.defaulted_eq rfl rfl nofun

theorem Agrees.record_eq {key : String} {Same : Document → Document → Prop}
    (agrees : Agrees (.record key Same) left right)
    (reads : ∀ old new, Same old new → read old = read new) :
    left.required? read = right.required? read :=
  agrees.required_eq rfl reads

theorem Agrees.records_eq {key : String} {Same : Document → Document → Prop}
    (agrees : Agrees (.records key Same) left right)
    (reads : ∀ old new, Same old new → read old = read new) :
    left.defaulted? [] (list? read) = right.defaulted? [] (list? read) := by
  refine agrees.defaulted_eq rfl rfl ?_
  rintro _ _ ⟨same⟩
  simp only [list?, List.mapM_append, List.mapM_cons, reads _ _ same]

theorem agreeAll_map {left right : Field → Slot}
    (agree : ∀ field ∈ fields, Agrees field (left field) (right field)) :
    AgreeAll fields (fields.map left) (fields.map right) := by
  induction fields with
  | nil => exact .nil
  | cons field rest ih =>
      obtain ⟨here, later⟩ := List.forall_mem_cons.mp agree
      exact .cons here (ih later)

theorem agreeAll_same {slots : List Slot} (whole : slots.length = fields.length) :
    AgreeAll fields slots slots := by
  induction fields generalizing slots with
  | nil => rw [List.eq_nil_of_length_eq_zero whole]; exact .nil
  | cons field rest ih =>
      cases slots with
      | nil => cases whole
      | cons slot others => exact .cons (.same slot) (ih (Nat.succ.inj whole))

theorem AgreeAll.append {front back : List Field} {lefts rights moreLefts moreRights : List Slot}
    (first : AgreeAll front lefts rights) (more : AgreeAll back moreLefts moreRights) :
    AgreeAll (front ++ back) (lefts ++ moreLefts) (rights ++ moreRights) := by
  induction first with
  | nil => exact more
  | cons agrees _agreeAll ih => exact .cons agrees ih

end Slot

open Slot (Agrees AgreeAll)

theorem rel_slots?_object {left right : List (Option String × Document)}
    (legible : left.all (·.1.isSome) = right.all (·.1.isSome))
    (once : ∀ field ∈ fields,
      (occurrences field.key left ≤ 1 ↔ occurrences field.key right ≤ 1))
    (agree : ∀ field ∈ fields, Agrees field (slotOf left field.key) (slotOf right field.key)) :
    Option.Rel (AgreeAll fields) ((Document.object left).slots? (fields.map (·.key)))
      ((Document.object right).slots? (fields.map (·.key))) := by
  have counted : (fields.map (·.key)).all (occurrences · left ≤ 1) =
      (fields.map (·.key)).all (occurrences · right ≤ 1) := by
    rw [List.all_map, List.all_map, Bool.eq_iff_iff, List.all_eq_true, List.all_eq_true]
    simp only [Function.comp_apply, decide_eq_true_eq]
    exact forall₂_congr once
  rw [slots?, slots?, legible, counted]
  split
  · rw [List.map_map, List.map_map]
    exact .some (Slot.agreeAll_map agree)
  · exact .none

namespace Rewords

variable (distinct : (fields.map (·.key)).Nodup)
include distinct

theorem rel_of_missing {members : List (Option String × Document)} {default : Document}
    (listed : field ∈ fields) (defaulted : field.default? = some default)
    (absent : ∀ member ∈ members, member.1 ≠ some field.key) :
    Option.Rel (AgreeAll fields) ((Document.object members).slots? (fields.map (·.key)))
      ((Document.object (members ++ [(some field.key, default)])).slots? (fields.map (·.key))) := by
  have single : occurrences field.key (members ++ [(some field.key, default)]) = 1 := by
    have before : members.countP (·.1 == some field.key) = 0 := occurrences_of_absent absent
    rw [occurrences, List.countP_append, before, List.countP_singleton]
    simp
  refine rel_slots?_object (by simp) ?_ ?_
  · intro other among
    by_cases same : other.key = field.key
    · rw [same, occurrences_of_absent absent, single]
      decide
    · rw [occurrences_of_other (Ne.symm same) default, List.append_nil]
  · intro other among
    by_cases same : other.key = field.key
    · obtain rfl := List.inj_on_of_nodup_map distinct among listed same
      rw [slotOf_of_absent absent, slotOf_middle absent]
      exact .missing defaulted
    · rw [slotOf_of_other (Ne.symm same) default, List.append_nil]
      exact .same _

theorem rel_of_inside {front back : List (Option String × Document)} (listed : field ∈ fields)
    (same : field.Same old new) :
    Option.Rel (AgreeAll fields)
      ((Document.object (front ++ (some field.key, old) :: back)).slots? (fields.map (·.key)))
      ((Document.object (front ++ (some field.key, new) :: back)).slots? (fields.map (·.key))) := by
  refine rel_slots?_object (by simp) ?_ ?_
  · intro other among
    simp [occurrences, List.countP_append, List.countP_cons]
  · intro other among
    by_cases equal : other.key = field.key
    · obtain rfl := List.inj_on_of_nodup_map distinct among listed equal
      by_cases absent : ∀ member ∈ front, member.1 ≠ some other.key
      · rw [slotOf_middle absent, slotOf_middle absent]
        exact .given same
      · -- The first member of this key stands before the one that is worded in another way.
        simp only [not_forall, not_not] at absent
        obtain ⟨member, inFront, named⟩ := absent
        have some : (front.find? (·.1 == some other.key)).isSome = true :=
          List.find?_isSome.mpr ⟨member, inFront, by simpa using named⟩
        rw [slotOf, slotOf, List.find?_append, List.find?_append, Option.or_of_isSome some,
          Option.or_of_isSome some]
        exact .same _
    · rw [slotOf_of_other (Ne.symm equal) old, slotOf_of_other (Ne.symm equal) new]
      exact .same _

omit distinct in
theorem rel_of_cutOff {items : List Document} {front back : List Field} {default : Document}
    (defaulted : field.default? = some default) (short : items.length = front.length) :
    Option.Rel (AgreeAll (front ++ field :: back))
      ((Document.array items).slots? ((front ++ field :: back).map (·.key)))
      ((Document.array (items ++ [default])).slots? ((front ++ field :: back).map (·.key))) := by
  have left : (front ++ field :: back).length - items.length = back.length + 1 := by
    simp [short]
  have leftThen : (front ++ field :: back).length - (items ++ [default]).length = back.length := by
    simp only [List.length_append, List.length_cons, List.length_nil, short]
    omega
  rw [slots?, slots?, List.length_map, if_pos (by simp [short]), if_pos (by simp [short]), left,
    leftThen, List.replicate_succ, List.map_append, List.append_assoc]
  refine .some (.append (Slot.agreeAll_same ?_) (.cons (.cutOff defaulted) ?_))
  · rw [List.length_map, short]
  · exact Slot.agreeAll_same List.length_replicate

theorem rel_of_array {items : List Document} (whole : items.length = fields.length) :
    Option.Rel (AgreeAll fields) ((Document.array items).slots? (fields.map (·.key)))
      ((Document.object ((fields.map fun field => some field.key).zip items)).slots?
        (fields.map (·.key))) := by
  have keyed : ((fields.map fun field => some field.key).zip items).map (·.1) =
      (fields.map (·.key)).map some := by
    rw [List.map_fst_zip (by simp [whole]), List.map_map]
    rfl
  have values := congrArg (List.map Slot.given)
    (@List.map_snd_zip _ _ (fields.map fun field => some field.key) items (by simp [whole]))
  rw [List.map_map] at values
  have nothing : (fields.map (·.key)).length - items.length = 0 := by simp [whole]
  rw [slots?_of_record distinct keyed, slots?, if_pos (by simp [whole]), nothing,
    List.replicate_zero, List.append_nil]
  refine .some ?_
  rw [← values]
  exact Slot.agreeAll_same (by simp [whole])

/-- The slots of two wordings agree, if there are any. -/
theorem rel_slots? (rewords : Rewords fields old new) :
    Option.Rel (AgreeAll fields) (old.slots? (fields.map (·.key)))
      (new.slots? (fields.map (·.key))) := by
  cases rewords with
  | @unknown front back key value foreign =>
      refine rel_slots?_object (by simp) ?_ ?_
      · intro field among
        rw [occurrences_of_other (Ne.symm (foreign field among))]
      · intro field among
        rw [slotOf_of_other (Ne.symm (foreign field among))]
        exact .same _
  | missing listed defaulted absent => exact rel_of_missing distinct listed defaulted absent
  | cutOff listed defaulted short =>
      subst listed
      exact rel_of_cutOff defaulted short
  | array whole => exact rel_of_array distinct whole
  | inside listed same => exact rel_of_inside distinct listed same

theorem bind_slots? (rewords : Rewords fields old new) {Value : Type}
    {build : List Slot → Option Value}
    (same : ∀ lefts rights, AgreeAll fields lefts rights → build lefts = build rights) :
    (old.slots? (fields.map (·.key))).bind build =
      (new.slots? (fields.map (·.key))).bind build := by
  have slots := rewords.rel_slots? distinct
  generalize old.slots? (fields.map (·.key)) = lefts at slots ⊢
  generalize new.slots? (fields.map (·.key)) = rights at slots ⊢
  cases slots with
  | none => rfl
  | some agreeAll => exact same _ _ agreeAll

end Rewords

end MeetingRoom.Document
