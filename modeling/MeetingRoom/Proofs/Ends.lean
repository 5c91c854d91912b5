import Mathlib.Data.List.DropRight
import MeetingRoom.Text.Blank

/-!
The ends of a text: what is dropped from them, what stays in front of a first stop, and what lies
between cuts. An end whose last character fails a test loses nothing to it.
-/

namespace MeetingRoom.Text

variable {test : Char → Bool} {chars front rest : List Char}

/-! ### Ends that fail a test -/

theorem any_head?_append (present : front ≠ []) (fails : ∀ char ∈ front, test char = false)
    (rest : List Char) : (front ++ rest).head?.any test = false := by
  rw [List.head?_append, List.head?_eq_some_head present]
  exact fails _ (List.head_mem present)

theorem any_getLast?_append {back : List Char} (present : back ≠ [])
    (fails : ∀ char ∈ back, test char = false) (front : List Char) :
    (front ++ back).getLast?.any test = false := by
  rw [List.getLast?_append, List.getLast?_eq_some_getLast present]
  exact fails _ (List.getLast_mem present)

/-! ### What is in front -/

theorem dropWhile_of_front (front : chars.head?.any test = false) :
    chars.dropWhile test = chars := by
  cases chars with
  | nil => rfl
  | cons first rest => exact List.dropWhile_cons_of_neg (Bool.eq_false_iff.mp front)

theorem takeWhile_append_cons (passes : ∀ char ∈ front, test char = true) {stop : Char}
    (fails : test stop = false) (rest : List Char) :
    (front ++ stop :: rest).takeWhile test = front := by
  rw [List.takeWhile_append_of_pos passes,
    List.takeWhile_cons_of_neg (Bool.eq_false_iff.mp fails), List.append_nil]

/-! ### What is dropped behind -/

theorem rdropWhile_eq_self_iff_getLast? :
    chars.rdropWhile test = chars ↔ chars.getLast?.any test = false := by
  rw [List.rdropWhile_eq_self_iff]
  rcases List.eq_nil_or_concat chars with rfl | ⟨front, last, rfl⟩
  · simp
  · simp

theorem getLast?_rdropWhile (test : Char → Bool) (chars : List Char) :
    (chars.rdropWhile test).getLast?.any test = false :=
  rdropWhile_eq_self_iff_getLast?.mp (List.rdropWhile_idempotent test chars)

theorem rdropWhile_append_of_all (all : ∀ char ∈ rest, test char = true) (front : List Char) :
    (front ++ rest).rdropWhile test = front.rdropWhile test := by
  have passes : ∀ char ∈ rest.reverse, test char = true := fun char member =>
    all char (List.mem_reverse.mp member)
  rw [List.rdropWhile, List.reverse_append, List.dropWhile_append_of_pos passes, List.rdropWhile]

theorem rdropWhile_append_of_back (back : front.getLast?.any test = false) (rest : List Char) :
    (front ++ rest).rdropWhile test = front ++ rest.rdropWhile test := by
  have stays : front.reverse.dropWhile test = front.reverse :=
    dropWhile_of_front (by rwa [List.head?_reverse])
  rw [List.rdropWhile, List.reverse_append, List.dropWhile_append]
  split
  · rename_i nothing
    rw [List.rdropWhile, stays, List.isEmpty_iff.mp nothing, List.reverse_reverse]
    exact (List.append_nil front).symm
  · rw [List.reverse_append, List.reverse_reverse]
    rfl

/-! ### What is left of a trimmed text -/

theorem toList_trim (text : String) :
    (trim text).toList = (text.toList.dropWhile isBlank).rdropWhile isBlank :=
  String.toList_ofList

theorem trim_eq_empty_iff {text : String} : trim text = "" ↔ allBlank text = true := by
  rw [← String.toList_inj, toList_trim]
  have nothing : (text.toList.dropWhile isBlank).rdropWhile isBlank = [] ↔
      text.toList.dropWhile isBlank = [] := by
    rw [List.rdropWhile_eq_nil_iff]
    constructor
    · intro all
      -- The first character that is kept in front is not blank.
      cases kept : text.toList.dropWhile isBlank with
      | nil => rfl
      | cons first others =>
          have stops := List.head?_dropWhile_not isBlank text.toList
          rw [kept] at all stops
          exact absurd (all first List.mem_cons_self) (Bool.eq_false_iff.mp stops)
    · intro none char member
      rw [none] at member
      cases member
  rw [allBlank, List.all_eq_true, ← List.dropWhile_eq_nil_iff]
  exact nothing

/-! ### Pieces between cuts -/

/-- What is in front of the first cut belongs to the first piece. -/
theorem splitOnP_append {cuts : Char → Bool} (whole : ∀ char ∈ front, cuts char = false)
    (rest : List Char) :
    (front ++ rest).splitOnP cuts = (rest.splitOnP cuts).modifyHead (front ++ ·) := by
  induction front with
  | nil => exact (congrFun List.modifyHead_id _).symm
  | cons char more ih =>
      obtain ⟨uncut, wholeMore⟩ := List.forall_mem_cons.mp whole
      rw [List.cons_append, List.splitOnP_cons_eq_if_modifyHead,
        if_neg (Bool.eq_false_iff.mp uncut), ih wholeMore, List.modifyHead_modifyHead]
      rfl

theorem of_mem_splitOnP {cuts : Char → Bool} {piece : List Char}
    (member : piece ∈ chars.splitOnP cuts) {char : Char} (held : char ∈ piece) :
    char ∈ chars ∧ cuts char = false := by
  induction chars generalizing piece with
  | nil =>
      rw [List.splitOnP_nil, List.mem_singleton] at member
      subst member
      cases held
  | cons first rest ih =>
      have later : ∀ {other}, other ∈ rest.splitOnP cuts → char ∈ other →
          char ∈ first :: rest ∧ cuts char = false := by
        intro other among inside
        exact (ih among inside).imp_left (List.mem_cons_of_mem first)
      rw [List.splitOnP_cons_eq_if_modifyHead] at member
      split at member
      · rcases List.mem_cons.mp member with rfl | among
        · cases held
        · exact later among held
      · rename_i uncut
        obtain ⟨piece, others, found⟩ :=
          List.exists_cons_of_ne_nil (List.splitOnP_ne_nil cuts rest)
        rw [found] at later
        rw [found, List.modifyHead_cons] at member
        rcases List.mem_cons.mp member with rfl | among
        · rcases List.mem_cons.mp held with rfl | inside
          · exact ⟨List.mem_cons_self, Bool.eq_false_iff.mpr uncut⟩
          · exact later List.mem_cons_self inside
        · exact later (List.mem_cons_of_mem piece among) held

end MeetingRoom.Text
