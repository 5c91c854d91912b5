import MeetingRoom.Meeting.Target
import MeetingRoom.Proofs.Ends

/-!
How targets come out of addresses. Writing a segment by its bytes leaves slashes and marks alone and
keeps what the segment spells, so it loses nothing where there is no percent sign; and settled
folders stay in front of whatever comes behind them, as long as nothing there goes back.
-/

namespace MeetingRoom

namespace Text

/-! ### Bytes of a text -/

theorem utf8EncodeChar_ne_nil (char : Char) : String.utf8EncodeChar char ≠ [] := by
  apply List.ne_nil_of_length_pos
  rw [String.length_utf8EncodeChar]
  exact char.utf8Size_pos

/-- Different texts have different bytes. -/
theorem flatMap_utf8EncodeChar_inj {chars others : List Char}
    (same : chars.flatMap String.utf8EncodeChar = others.flatMap String.utf8EncodeChar) :
    chars = others := by
  have encoded : chars.utf8Encode = others.utf8Encode := congrArg List.toByteArray same
  have first : chars <+: others :=
    List.isPrefix_of_utf8Encode_append_eq_utf8Encode ByteArray.empty
      (ByteArray.append_empty.trans encoded)
  have second : others <+: chars :=
    List.isPrefix_of_utf8Encode_append_eq_utf8Encode ByteArray.empty
      (ByteArray.append_empty.trans encoded.symm)
  exact first.eq_of_length (Nat.le_antisymm first.length_le second.length_le)

/-- The bytes that a text spells: a percent sign with two digits of base sixteen behind it is the
byte of this number, and any other character has its own bytes. -/
def spelledBytes : List Char → List UInt8
  | '%' :: first :: second :: rest =>
      match hexDigit? first, hexDigit? second with
      | some high, some low => UInt8.ofNat (high * 16 + low) :: spelledBytes rest
      | _, _ => String.utf8EncodeChar '%' ++ spelledBytes (first :: second :: rest)
  | char :: rest => String.utf8EncodeChar char ++ spelledBytes rest
  | [] => []

def StartsWithByte (chars : List Char) : Prop :=
  ∃ first second rest high low, chars = first :: second :: rest ∧
    hexDigit? first = some high ∧ hexDigit? second = some low

theorem spelledBytes_cons {char : Char} {rest : List Char}
    (single : char = '%' → ¬StartsWithByte rest) :
    spelledBytes (char :: rest) = String.utf8EncodeChar char ++ spelledBytes rest := by
  rw [spelledBytes.eq_def (char :: rest)]
  split
  · rename_i first second others same
    cases same
    split
    · rename_i high low firstDigit secondDigit
      exact absurd ⟨first, second, others, high, low, rfl, firstDigit, secondDigit⟩ (single rfl)
    · rfl
  · rename_i same
    cases same
    rfl
  · contradiction

theorem spelledBytes_of_not_mem {chars : List Char} (unsigned : '%' ∉ chars) :
    spelledBytes chars = chars.flatMap String.utf8EncodeChar := by
  induction chars with
  | nil => rfl
  | cons char rest ih =>
      obtain ⟨differs, absent⟩ := not_or.mp (mt List.mem_cons.mpr unsigned)
      rw [spelledBytes_cons fun sign => absurd sign.symm differs, ih absent, List.flatMap_cons]

end Text

namespace Meeting.Target

open Text (hexDigit? upperHexDigit spelledBytes StartsWithByte)

/-! ### Segments by their bytes -/

def standsAsItIs (char : Char) : Bool :=
  !(isForeign char || ['"', '<', '>', '\x60', '\x7b', '\x7d'].contains char)

def written (char : Char) : List Char := if standsAsItIs char then [char] else byBytes char

theorem encodeSegment_eq (segment : List Char) :
    encodeSegment segment = segment.flatMap written := by
  unfold encodeSegment written standsAsItIs
  congr 1
  funext char
  cases isForeign char || ['"', '<', '>', '\x60', '\x7b', '\x7d'].contains char <;> rfl

theorem encodeSegment_cons (char : Char) (rest : List Char) :
    encodeSegment (char :: rest) = written char ++ encodeSegment rest := by
  rw [encodeSegment_eq, List.flatMap_cons, ← encodeSegment_eq]

theorem byBytes_eq_cons (char : Char) : ∃ rest, byBytes char = '%' :: rest := by
  cases bytes : String.utf8EncodeChar char with
  | nil => exact absurd bytes (Text.utf8EncodeChar_ne_nil char)
  | cons byte more =>
      rw [byBytes, bytes, List.flatMap_cons]
      exact ⟨_, rfl⟩

theorem written_ne_nil (char : Char) : written char ≠ [] := by
  unfold written
  split
  · exact List.cons_ne_nil char []
  · obtain ⟨rest, same⟩ := byBytes_eq_cons char
    rw [same]
    exact List.cons_ne_nil '%' rest

theorem spelledBytes_byBytes (char : Char) (rest : List Char) :
    spelledBytes (byBytes char ++ rest) = String.utf8EncodeChar char ++ spelledBytes rest := by
  unfold byBytes
  induction String.utf8EncodeChar char with
  | nil => rfl
  | cons byte more ih =>
      have high : byte.toNat / 16 < 16 := by
        have small : byte.toNat < 256 := byte.toNat_lt
        omega
      have low : byte.toNat % 16 < 16 := Nat.mod_lt _ (by decide)
      have whole : UInt8.ofNat (byte.toNat / 16 * 16 + byte.toNat % 16) = byte := by
        rw [Nat.div_add_mod', UInt8.ofNat_toNat]
      rw [List.flatMap_cons, List.append_assoc]
      simp only [List.cons_append, List.nil_append, spelledBytes,
        Text.hexDigit?_upperHexDigit _ high, Text.hexDigit?_upperHexDigit _ low, whole, ih]

theorem standsAsItIs_of_hexDigit? {char : Char} {digit : Nat}
    (read : hexDigit? char = some digit) : standsAsItIs char = true := by
  have range : 32 < char.toNat ∧ char.toNat < 127 := by
    unfold hexDigit? at read
    by_cases low : 32 < char.toNat <;> by_cases high : char.toNat < 127 <;> grind
  have native : isForeign char = false := by
    simp only [isForeign, Bool.or_eq_false_iff, decide_eq_false_iff_not]
    omega
  have usual : ['"', '<', '>', '\x60', '\x7b', '\x7d'].contains char = false := by
    apply Bool.eq_false_iff.mpr
    intro contained
    have member := List.contains_iff_mem.mp contained
    simp only [List.mem_cons, List.not_mem_nil, or_false] at member
    rcases member with rfl | rfl | rfl | rfl | rfl | rfl <;> cases read
  rw [standsAsItIs, native, usual]
  rfl

theorem of_encodeSegment_eq_cons {segment rest : List Char} {first : Char} {digit : Nat}
    (same : encodeSegment segment = first :: rest) (read : hexDigit? first = some digit) :
    ∃ others, segment = first :: others ∧ encodeSegment others = rest := by
  cases segment with
  | nil => cases same
  | cons char others =>
      rw [encodeSegment_cons, written] at same
      split at same
      · cases same
        exact ⟨others, rfl, rfl⟩
      · obtain ⟨bytes, sign⟩ := byBytes_eq_cons char
        rw [sign] at same
        cases same
        cases read

theorem startsWithByte_of_encodeSegment {segment : List Char}
    (starts : StartsWithByte (encodeSegment segment)) : StartsWithByte segment := by
  obtain ⟨first, second, rest, high, low, same, firstDigit, secondDigit⟩ := starts
  obtain ⟨others, rfl, behind⟩ := of_encodeSegment_eq_cons same firstDigit
  obtain ⟨more, rfl, _last⟩ := of_encodeSegment_eq_cons behind secondDigit
  exact ⟨first, second, more, high, low, rfl, firstDigit, secondDigit⟩

theorem spelledBytes_encodeSegment_cons {char : Char} {rest : List Char}
    (single : char = '%' → ¬StartsWithByte rest)
    (same : spelledBytes (encodeSegment rest) = spelledBytes rest) :
    spelledBytes (encodeSegment (char :: rest)) =
      String.utf8EncodeChar char ++ spelledBytes rest := by
  rw [encodeSegment_cons, written, ← same]
  split
  · exact Text.spelledBytes_cons fun sign => mt startsWithByte_of_encodeSegment (single sign)
  · exact spelledBytes_byBytes char (encodeSegment rest)

/-- A segment spells the same bytes before and after. -/
theorem spelledBytes_encodeSegment (segment : List Char) :
    spelledBytes (encodeSegment segment) = spelledBytes segment := by
  fun_induction spelledBytes segment with
  | case1 first second rest high low firstDigit secondDigit ih =>
      rw [encodeSegment_cons, encodeSegment_cons, encodeSegment_cons, written, written, written,
        if_pos (by decide), if_pos (standsAsItIs_of_hexDigit? firstDigit),
        if_pos (standsAsItIs_of_hexDigit? secondDigit)]
      simp only [List.cons_append, List.nil_append, spelledBytes, firstDigit, secondDigit, ih]
  | case2 first second rest single ih =>
      apply spelledBytes_encodeSegment_cons _ ih
      rintro - ⟨_, _, _, high, low, ⟨⟩, firstDigit, secondDigit⟩
      exact single high low firstDigit secondDigit
  | case3 char rest single ih =>
      apply spelledBytes_encodeSegment_cons _ ih
      rintro sign ⟨first, second, others, _high, _low, digits, _firstDigit, _secondDigit⟩
      exact single first second others sign digits
  | case4 => rfl

theorem encodeSegment_eq_nil_iff {segment : List Char} :
    encodeSegment segment = [] ↔ segment = [] := by
  cases segment with
  | nil => exact iff_of_true rfl rfl
  | cons char rest =>
      rw [encodeSegment_cons]
      exact iff_of_false (List.append_ne_nil_of_left_ne_nil (written_ne_nil char) _)
        (List.cons_ne_nil char rest)

/-- Without percent signs, nothing of a segment is lost. -/
theorem encodeSegment_inj {segment other : List Char} (unsigned : '%' ∉ segment)
    (unsignedOther : '%' ∉ other) (same : encodeSegment segment = encodeSegment other) :
    segment = other := by
  apply Text.flatMap_utf8EncodeChar_inj
  rw [← Text.spelledBytes_of_not_mem unsigned, ← Text.spelledBytes_of_not_mem unsignedOther,
    ← spelledBytes_encodeSegment, same, spelledBytes_encodeSegment]

/-- Whoever drops characters of a segment also shortens what is written. -/
theorem eq_or_shorter_of_sublist {kept segment : List Char} (fewer : kept.Sublist segment) :
    kept = segment ∨ (encodeSegment kept).length < (encodeSegment segment).length := by
  induction fewer with
  | slnil => exact .inl rfl
  | @cons kept segment char _fewer ih =>
      have more := List.length_pos_iff.mpr (written_ne_nil char)
      right
      rw [encodeSegment_cons, List.length_append]
      rcases ih with rfl | shorter <;> omega
  | @cons_cons kept segment char _fewer ih =>
      rcases ih with rfl | shorter
      · exact .inl rfl
      · right
        rw [encodeSegment_cons, encodeSegment_cons, List.length_append, List.length_append]
        omega

/-! ### Where a segment ends -/

def endsSegment (char : Char) : Bool := isSlash char || isMark char

theorem endsSegment_iff {char : Char} :
    endsSegment char = true ↔ char ∈ ['/', '\\', '?', '#'] := by
  simp [endsSegment, isSlash, isMark, or_assoc]

theorem not_endsSegment_of_mem_byBytes {char other : Char} (member : char ∈ byBytes other) :
    endsSegment char = false := by
  have digits : ∀ digit < 16, endsSegment (upperHexDigit digit) = false := by decide
  obtain ⟨byte, _ofOther, among⟩ := List.mem_flatMap.mp member
  simp only [List.mem_cons, List.not_mem_nil, or_false] at among
  rcases among with rfl | rfl | rfl
  · rfl
  · apply digits
    have small : byte.toNat < 256 := byte.toNat_lt
    omega
  · exact digits _ (Nat.mod_lt _ (by decide))

theorem mem_encodeSegment_iff {char : Char} (ends : endsSegment char = true)
    (segment : List Char) : char ∈ encodeSegment segment ↔ char ∈ segment := by
  have stands : standsAsItIs char = true := by
    have all : ['/', '\\', '?', '#'].all standsAsItIs = true := by decide
    exact List.all_eq_true.mp all char (endsSegment_iff.mp ends)
  rw [encodeSegment_eq, List.mem_flatMap]
  constructor
  · rintro ⟨other, member, among⟩
    unfold written at among
    split at among
    · rwa [List.mem_singleton.mp among]
    · rw [not_endsSegment_of_mem_byBytes among] at ends
      cases ends
  · intro member
    refine ⟨char, member, ?_⟩
    rw [written, if_pos stands]
    exact List.mem_singleton_self char

theorem encodeSegment_whole_iff {segment : List Char} :
    (∀ char ∈ encodeSegment segment, endsSegment char = false) ↔
      ∀ char ∈ segment, endsSegment char = false := by
  constructor
  · intro whole char member
    cases ends : endsSegment char with
    | false => rfl
    | true => exact ends.symm.trans (whole char ((mem_encodeSegment_iff ends segment).mpr member))
  · intro whole char member
    cases ends : endsSegment char with
    | false => rfl
    | true => exact ends.symm.trans (whole char ((mem_encodeSegment_iff ends segment).mp member))

/-! ### Folders -/

/-- A character that neither ends a segment nor is ever dropped. -/
def isPlain (char : Char) : Bool := !isSpaceOrControl char && !endsSegment char

structure IsFolder (segment : List Char) : Prop where
  present : segment ≠ []
  plain : ∀ char ∈ segment, isPlain char = true
  moves : staysHere segment = false
  advances : goesBack segment = false

instance (segment : List Char) : Decidable (IsFolder segment) :=
  decidable_of_iff
    (segment ≠ [] ∧ segment.all isPlain = true ∧ staysHere segment = false ∧
      goesBack segment = false)
    ⟨fun all => ⟨all.1, List.all_eq_true.mp all.2.1, all.2.2.1, all.2.2.2⟩,
      fun folder =>
        ⟨folder.present, List.all_eq_true.mpr folder.plain, folder.moves, folder.advances⟩⟩

theorem isPlain_iff {char : Char} :
    isPlain char = true ↔ isSpaceOrControl char = false ∧ endsSegment char = false := by
  simp [isPlain]

theorem not_isSlash_of_isPlain {char : Char} (plain : isPlain char = true) :
    isSlash char = false :=
  (Bool.or_eq_false_iff.mp (isPlain_iff.mp plain).2).1

theorem not_isMark_of_isPlain {char : Char} (plain : isPlain char = true) :
    isMark char = false :=
  (Bool.or_eq_false_iff.mp (isPlain_iff.mp plain).2).2

def pathOf (folders : List (List Char)) : List Char := folders.flatMap ('/' :: ·)

theorem pathOf_cons_append (folder : List Char) (folders : List (List Char)) (rest : List Char) :
    pathOf (folder :: folders) ++ rest = '/' :: (folder ++ (pathOf folders ++ rest)) := by
  rw [pathOf, List.flatMap_cons, ← pathOf, List.append_assoc, List.cons_append]

/-- What is true of no slash and of no plain character is true nowhere along a path. -/
theorem pathOf_fails {test : Char → Bool} (slash : test '/' = false)
    (plainly : ∀ char, isPlain char = true → test char = false) {folders : List (List Char)}
    (settled : ∀ folder ∈ folders, IsFolder folder) :
    ∀ char ∈ pathOf folders, test char = false := by
  intro char member
  obtain ⟨folder, among, inside⟩ := List.mem_flatMap.mp member
  cases inside with
  | head => exact slash
  | tail _ held => exact plainly char ((settled folder among).plain char held)

theorem pathOf_unmarked {folders : List (List Char)}
    (settled : ∀ folder ∈ folders, IsFolder folder) :
    ∀ char ∈ pathOf folders, isMark char = false :=
  pathOf_fails rfl (fun _char => not_isMark_of_isPlain) settled

theorem pathOf_visible {folders : List (List Char)}
    (settled : ∀ folder ∈ folders, IsFolder folder) :
    ∀ char ∈ pathOf folders, isSpaceOrControl char = false :=
  pathOf_fails rfl (fun _char plain => (isPlain_iff.mp plain).1) settled

theorem pathOf_append_slash (folders : List (List Char)) (rest : List Char) :
    ∃ path, pathOf folders ++ '/' :: rest = '/' :: path := by
  cases folders with
  | nil => exact ⟨rest, rfl⟩
  | cons folder others => exact ⟨_, pathOf_cons_append folder others ('/' :: rest)⟩

theorem splitOnP_append_pathOf {chars rest : List Char} {folders others : List (List Char)}
    (whole : ∀ char ∈ chars, isSlash char = false)
    (settled : ∀ folder ∈ folders, IsFolder folder)
    (found : rest.splitOnP isSlash = [] :: others) :
    (chars ++ (pathOf folders ++ rest)).splitOnP isSlash = chars :: (folders ++ others) := by
  induction folders generalizing chars with
  | nil =>
      rw [Text.splitOnP_append whole]
      change (rest.splitOnP isSlash).modifyHead (chars ++ ·) = chars :: others
      rw [found, List.modifyHead_cons, List.append_nil]
  | cons folder more ih =>
      obtain ⟨kept, settledMore⟩ := List.forall_mem_cons.mp settled
      have next := ih (fun char member => not_isSlash_of_isPlain (kept.plain char member))
        settledMore
      rw [pathOf_cons_append, List.splitOnP_append_cons_of_forall_mem whole '/' rfl, next]
      rfl

theorem resolve_cons_of_folder {folder : List Char} (kept : IsFolder folder)
    (done : List (List Char)) {rest : List (List Char)} (more : rest ≠ []) :
    resolve done (folder :: rest) = resolve (encodeSegment folder :: done) rest := by
  rw [resolve, kept.moves, kept.advances]
  · rfl
  · exact more

/-- Folders in front of a path are settled, whatever comes behind them. -/
theorem resolve_folders_append {folders : List (List Char)}
    (settled : ∀ folder ∈ folders, IsFolder folder) (done : List (List Char))
    {rest : List (List Char)} (more : rest ≠ []) :
    resolve done (folders ++ rest) =
      resolve ((folders.map encodeSegment).reverse ++ done) rest := by
  induction folders generalizing done with
  | nil => rfl
  | cons folder others ih =>
      obtain ⟨kept, settledOthers⟩ := List.forall_mem_cons.mp settled
      rw [List.cons_append, resolve_cons_of_folder kept done (List.append_ne_nil_of_right_ne_nil
        others more), ih settledOthers, List.map_cons, List.reverse_cons, List.append_assoc]
      rfl

theorem resolve_folders {folders : List (List Char)}
    (settled : ∀ folder ∈ folders, IsFolder folder) (done : List (List Char))
    (present : folders ≠ []) :
    resolve done folders = done.reverse ++ folders.map encodeSegment := by
  rcases List.eq_nil_or_concat folders with rfl | ⟨front, last, rfl⟩
  · exact absurd rfl present
  · rw [List.concat_eq_append] at settled ⊢
    have kept : IsFolder last := settled last (List.mem_append_right front List.mem_cons_self)
    have settledFront : ∀ folder ∈ front, IsFolder folder := fun folder member =>
      settled folder (List.mem_append_left [last] member)
    rw [resolve_folders_append settledFront done (List.cons_ne_nil last []), resolve,
      kept.moves, kept.advances]
    simp

theorem ofPath_pathOf {folders : List (List Char)}
    (settled : ∀ folder ∈ folders, IsFolder folder) (rest : List Char) :
    ofPath (pathOf folders ++ '/' :: rest) =
      resolve (folders.map encodeSegment).reverse (rest.splitOnP isSlash) := by
  obtain ⟨path, starts⟩ := pathOf_append_slash folders rest
  have opening : ∀ rest, ('/' :: rest).splitOnP isSlash = [] :: rest.splitOnP isSlash :=
    List.splitOnP_append_cons_of_forall_mem (List.forall_mem_nil _) '/' rfl
  have pieced := splitOnP_append_pathOf (List.forall_mem_nil _) settled (opening rest)
  rw [List.nil_append, starts, opening, List.cons_inj_right] at pieced
  rw [starts, ofPath, pieced,
    resolve_folders_append settled [] (List.splitOnP_ne_nil isSlash rest), List.append_nil]

/-- What holds of no characters at all, of every settled segment and of every other one as it is
written, holds of all segments in the end. -/
theorem forall_mem_resolve {holds : List Char → Prop} (empty : holds [])
    {done rest : List (List Char)} (settled : ∀ segment ∈ done, holds segment)
    (written : ∀ piece ∈ rest, holds (encodeSegment piece)) :
    ∀ segment ∈ resolve done rest, holds segment := by
  have fewer : ∀ {done : List (List Char)}, (∀ segment ∈ done, holds segment) →
      ∀ segment ∈ done.tail, holds segment := fun settled segment member =>
    settled segment (List.mem_of_mem_tail member)
  fun_induction resolve done rest with
  | case1 done =>
      intro segment member
      exact settled segment (List.mem_reverse.mp member)
  | case2 done piece _back =>
      intro segment member
      exact List.forall_mem_cons.mpr ⟨empty, fewer settled⟩ segment (List.mem_reverse.mp member)
  | case3 done piece _on _here =>
      intro segment member
      exact List.forall_mem_cons.mpr ⟨empty, settled⟩ segment (List.mem_reverse.mp member)
  | case4 done piece _on _away =>
      intro segment member
      exact List.forall_mem_cons.mpr ⟨written piece List.mem_cons_self, settled⟩ segment
        (List.mem_reverse.mp member)
  | case5 done piece rest _more _back ih =>
      exact ih (fewer settled) (List.forall_mem_cons.mp written).2
  | case6 done piece rest _more _on _here ih =>
      exact ih settled (List.forall_mem_cons.mp written).2
  | case7 done piece rest _more _on _away ih =>
      obtain ⟨first, others⟩ := List.forall_mem_cons.mp written
      exact ih (List.forall_mem_cons.mpr ⟨first, settled⟩) others

/-- No segment of a path has a character at which segments end, if the path has no marks. -/
theorem whole_of_mem_resolve {done : List (List Char)} {path : List Char}
    (settled : ∀ segment ∈ done, ∀ char ∈ segment, endsSegment char = false)
    (unmarked : ∀ char ∈ path, isMark char = false) {segment : List Char}
    (member : segment ∈ resolve done (path.splitOnP isSlash)) :
    ∀ char ∈ segment, endsSegment char = false := by
  refine forall_mem_resolve (List.forall_mem_nil _) settled ?_ segment member
  intro piece among
  apply encodeSegment_whole_iff.mpr
  intro char held
  obtain ⟨inPath, uncut⟩ := Text.of_mem_splitOnP among held
  exact Bool.or_eq_false_iff.mpr ⟨uncut, unmarked char inPath⟩

/-- What is written of folders at the end. A path that ends with dots ends with nothing. -/
def closing (folders : List (List Char)) : List (List Char) :=
  if folders = [] then [[]] else folders.map encodeSegment

theorem resolve_piece_folders {ending : List (List Char)}
    (folders : ∀ folder ∈ ending, IsFolder folder) (done : List (List Char))
    (piece : List Char) :
    resolve done (piece :: ending) =
      if goesBack piece then done.tail.reverse ++ closing ending
      else if staysHere piece then done.reverse ++ closing ending
      else done.reverse ++ encodeSegment piece :: ending.map encodeSegment := by
  cases ending with
  | nil =>
      rw [resolve, closing, if_pos rfl, List.reverse_cons, List.reverse_cons, List.reverse_cons]
      rfl
  | cons folder others =>
      have more : folder :: others ≠ [] := List.cons_ne_nil folder others
      rw [resolve, resolve_folders folders _ more, resolve_folders folders _ more,
        resolve_folders folders _ more, closing, if_neg more, List.reverse_cons,
        List.append_assoc, List.singleton_append]
      exact more

theorem eq_of_encodeSegment_eq {piece segment : List Char} (fewer : piece.Sublist segment)
    (same : encodeSegment piece = encodeSegment segment) : piece = segment := by
  rcases eq_or_shorter_of_sublist fewer with whole | shorter
  · exact whole
  · rw [same] at shorter
    exact absurd shorter (Nat.lt_irrefl _)

/-- Behind settled segments and in front of folders, a piece of a segment comes out like the
segment exactly if it is all of it and no dots. -/
theorem resolve_keeps_iff {done ending : List (List Char)} {piece segment : List Char}
    (deep : done ≠ []) (folders : ∀ folder ∈ ending, IsFolder folder)
    (fewer : piece.Sublist segment) :
    resolve done (piece :: ending) =
        done.reverse ++ encodeSegment segment :: ending.map encodeSegment ↔
      piece = segment ∧ staysHere segment = false ∧ goesBack segment = false := by
  rw [resolve_piece_folders folders]
  constructor
  · intro same
    split at same
    · exfalso
      have lengths := congrArg List.length same
      have some_done := List.length_pos_iff.mpr deep
      unfold closing at lengths
      split at lengths <;> simp at lengths <;> omega
    · rename_i on
      split at same
      · rename_i here
        exfalso
        have closed := List.append_cancel_left same
        unfold closing at closed
        split at closed
        · obtain ⟨nothing, _ending⟩ := List.cons.inj closed
          rw [encodeSegment_eq_nil_iff.mp nothing.symm] at fewer
          rw [List.sublist_nil.mp fewer] at here
          cases here
        · have lengths := congrArg List.length closed
          rw [List.length_cons] at lengths
          omega
      · rename_i away
        have whole : piece = segment :=
          eq_of_encodeSegment_eq fewer (List.cons.inj (List.append_cancel_left same)).1
        subst whole
        exact ⟨rfl, Bool.eq_false_iff.mpr away, Bool.eq_false_iff.mpr on⟩
  · rintro ⟨rfl, away, on⟩
    rw [away, on]
    rfl

/-! ### Tidied addresses -/

theorem isBreak_visible {char : Char} (visible : isSpaceOrControl char = false) :
    isBreak char = false := by
  apply Bool.eq_false_iff.mpr
  intro breaks
  simp only [isBreak, Bool.or_eq_true, decide_eq_true_eq] at breaks
  rcases breaks with (rfl | rfl) | rfl <;> cases visible

theorem tidy_append {front : List Char} (present : front ≠ [])
    (visible : ∀ char ∈ front, isSpaceOrControl char = false) (rest : List Char) :
    tidy (front ++ rest) =
      front ++ (rest.rdropWhile isSpaceOrControl).filter (!isBreak ·) := by
  have first : (front ++ rest).head?.any isSpaceOrControl = false :=
    Text.any_head?_append present visible rest
  have last : front.getLast?.any isSpaceOrControl = false :=
    Text.any_getLast?_append present visible []
  have unbroken : front.filter (!isBreak ·) = front := by
    apply List.filter_eq_self.mpr
    intro char member
    rw [isBreak_visible (visible char member)]
    rfl
  have kept : Text.trimWhile isSpaceOrControl (front ++ rest) =
      front ++ rest.rdropWhile isSpaceOrControl := by
    rw [← Text.rdropWhile_append_of_back last, Text.trimWhile, Text.dropWhile_of_front first]
    rfl
  rw [tidy, kept, List.filter_append, unbroken]

end Meeting.Target

end MeetingRoom
