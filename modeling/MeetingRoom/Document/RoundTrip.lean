import MeetingRoom.Document.Basic

/-!
What is written reads back. A document is complete if nothing in it was read from a literal without
a text or from a number that is not natural; every complete document is read back from its text.
The three layers are taken one by one: characters to literals, literals to tokens, tokens to a
document, each with an arbitrary rest behind it.
-/

namespace MeetingRoom.Document

namespace Literal

theorem unitPiece?_control : ∀ code < 32,
    unitPiece? '0' '0' (Text.lowerHexDigit (code / 16)) (Text.lowerHexDigit (code % 16)) =
      some (.char (Char.ofNat code)) := by
  decide

theorem scan_shortEscape {escape value : Char} (known : shortEscape? escape = some value)
    (other : escape ≠ 'u') (rest : List Char) :
    scan ('\\' :: escape :: rest) =
      (scan rest).map fun (pieces, after) => (.char value :: pieces, after) := by
  rw [scan]
  · rw [known]
    cases scan rest <;> rfl
  · intro first second third fourth tail same
    exact absurd same other

theorem scan_plain {char : Char} (notControl : ¬ char.toNat < 32) (notMark : char ≠ '"')
    (notSlash : char ≠ '\\') (rest : List Char) :
    scan (char :: rest) = (scan rest).map fun (pieces, after) => (.char char :: pieces, after) := by
  rw [scan]
  · rw [if_neg notControl, if_neg notSlash]
    cases scan rest <;> rfl
  · exact notMark
  · intro first second third fourth tail same _
    exact notSlash same
  · intro escape tail same _
    exact notSlash same

theorem scan_control {char : Char} (control : char.toNat < 32) (rest : List Char) :
    scan ('\\' :: 'u' :: '0' :: '0' :: Text.lowerHexDigit (char.toNat / 16) ::
        Text.lowerHexDigit (char.toNat % 16) :: rest) =
      (scan rest).map fun (pieces, after) => (.char char :: pieces, after) := by
  have piece := unitPiece?_control char.toNat control
  rw [Char.ofNat_toNat] at piece
  rw [scan, piece]
  cases scan rest <;> rfl

theorem scan_encodeChar (char : Char) (rest : List Char) :
    scan (encodeChar char ++ rest) =
      (scan rest).map fun (pieces, after) => (.char char :: pieces, after) := by
  unfold encodeChar
  by_cases mark : char = '"'
  · subst mark; exact scan_shortEscape rfl (by decide) rest
  by_cases slash : char = '\\'
  · subst slash; exact scan_shortEscape rfl (by decide) rest
  by_cases back : char = '\x08'
  · subst back; exact scan_shortEscape rfl (by decide) rest
  by_cases feed : char = '\x0c'
  · subst feed; exact scan_shortEscape rfl (by decide) rest
  by_cases line : char = '\n'
  · subst line; exact scan_shortEscape rfl (by decide) rest
  by_cases carriage : char = '\r'
  · subst carriage; exact scan_shortEscape rfl (by decide) rest
  by_cases tab : char = '\t'
  · subst tab; exact scan_shortEscape rfl (by decide) rest
  rw [if_neg mark, if_neg slash, if_neg back, if_neg feed, if_neg line, if_neg carriage,
    if_neg tab]
  by_cases control : char.toNat < 32
  · rw [if_pos control]; exact scan_control control rest
  · rw [if_neg control]; exact scan_plain control mark slash rest

theorem scan_encode (chars rest : List Char) :
    scan (chars.flatMap encodeChar ++ '"' :: rest) = some (chars.map Piece.char, rest) := by
  induction chars with
  | nil => rw [List.flatMap_nil, List.nil_append, scan]; rfl
  | cons char tail ih =>
      rw [List.flatMap_cons, List.append_assoc, scan_encodeChar, ih]
      rfl

theorem join_chars (chars : List Char) : join (chars.map Piece.char) = some chars := by
  induction chars with
  | nil => rfl
  | cons char tail ih => rw [List.map_cons, join, ih]; rfl

end Literal

namespace Token

/-- A number that is not natural, or a literal without a text, is not written as it was read. -/
def isComplete : Token → Bool
  | number _ => false
  | text none => false
  | _ => true

def isPunctuation : Token → Bool
  | openArray | closeArray | openObject | closeObject | comma | colon => true
  | _ => false

/-- What is behind a number does not go on with it. -/
def EndsNumber (rest : List Char) : Prop :=
  ∀ char tail, rest = char :: tail →
    char.isDigit = false ∧ char ≠ '.' ∧ char ≠ 'e' ∧ char ≠ 'E'

theorem digitChar_eq_zero : ∀ digit < 10, Nat.digitChar digit = '0' → digit = 0 := by
  decide

theorem head_toDigits (number : Nat) : ∀ first rest,
    Nat.toDigits 10 number = first :: rest → first = '0' → number = 0 := by
  induction number using Nat.strongRecOn with
  | ind number ih =>
      intro first rest written zero
      rw [Nat.toDigits_eq_if (by decide)] at written
      split at written
      · rename_i small
        exact digitChar_eq_zero number small ((List.cons.inj written).1.trans zero)
      · rename_i large
        cases inner : Nat.toDigits 10 (number / 10) with
        | nil => exact absurd inner Nat.toDigits_ne_nil
        | cons head tail =>
            rw [inner, List.cons_append] at written
            have same := (List.cons.inj written).1
            have := ih (number / 10) (by omega) head tail inner (same.trans zero)
            omega

theorem isWhole_toDigits (number : Nat) : isWhole (Nat.toDigits 10 number) = true := by
  cases written : Nat.toDigits 10 number with
  | nil => exact absurd written Nat.toDigits_ne_nil
  | cons first rest =>
      cases rest with
      | nil => rfl
      | cons second others =>
          rw [isWhole, decide_eq_true_iff]
          · intro zero
            have none := head_toDigits number first _ written zero
            subst none
            cases written
          · simp

theorem takeWhile_digits {digits rest : List Char} (all : ∀ char ∈ digits, char.isDigit = true)
    (ends : EndsNumber rest) :
    (digits ++ rest).takeWhile Char.isDigit = digits ∧
      (digits ++ rest).dropWhile Char.isDigit = rest := by
  rw [List.takeWhile_append_of_pos all, List.dropWhile_append_of_pos all]
  cases rest with
  | nil => simp
  | cons char tail =>
      have other := (ends char tail rfl).1
      simp [other]

theorem scanNumber_toDigits (number : Nat) {rest : List Char} (ends : EndsNumber rest) :
    scanNumber (Nat.toDigits 10 number ++ rest) = some (natural number, rest) := by
  have all : ∀ char ∈ Nat.toDigits 10 number, char.isDigit = true := fun char member =>
    Nat.isDigit_of_mem_toDigits (by decide) (by decide) member
  have sign : takeSign (Nat.toDigits 10 number ++ rest) = ([], Nat.toDigits 10 number ++ rest) := by
    cases written : Nat.toDigits 10 number with
    | nil => exact absurd written Nat.toDigits_ne_nil
    | cons first others =>
        rw [List.cons_append, takeSign]
        intro tail same
        have digit := all first (written ▸ List.mem_cons_self)
        rw [(List.cons.inj same).1] at digit
        cases digit
  obtain ⟨taken, dropped⟩ := takeWhile_digits all ends
  have whole : scanWhole (Nat.toDigits 10 number ++ rest) = some (Nat.toDigits 10 number, rest) := by
    simp only [scanWhole, taken, dropped, isWhole_toDigits, if_true]
  have fraction : scanFraction rest = some ([], rest) := by
    unfold scanFraction
    split
    · rename_i tail
      exact absurd rfl (ends '.' tail rfl).2.1
    · rfl
  have exponent : scanExponent rest = some ([], rest) := by
    cases rest with
    | nil => rfl
    | cons char tail =>
        obtain ⟨_, _, lower, upper⟩ := ends char tail rfl
        simp only [scanExponent, lower, upper, or_self, if_false]
  simp only [scanNumber, sign, whole, fraction, exponent, Option.bind_eq_bind, Option.bind_some,
    Option.pure_def, ofNumber, and_self, if_true]
  rw [Nat.ofDigitChars_toDigits (by decide) (by decide)]

theorem scan_toDigits (number : Nat) {rest : List Char} (ends : EndsNumber rest) :
    scan (Nat.toDigits 10 number ++ rest) = some (natural number, rest) := by
  rw [← scanNumber_toDigits number ends]
  cases written : Nat.toDigits 10 number with
  | nil => exact absurd written Nat.toDigits_ne_nil
  | cons first others =>
      have digit : first.isDigit = true :=
        Nat.isDigit_of_mem_toDigits (by decide) (by decide) (written ▸ List.mem_cons_self)
      rw [List.cons_append, scan]
      · intro nothing
        cases nothing
      all_goals
        intro tail same
        rw [(List.cons.inj same).1] at digit
        cases digit

theorem scan_render {token : Token} (complete : token.isComplete = true) {rest : List Char}
    (ends : (∃ number, token = natural number) → EndsNumber rest) :
    scan (token.render ++ rest) = some (token, rest) := by
  cases token with
  | natural number => exact scan_toDigits number (ends ⟨number, rfl⟩)
  | number lexeme => cases complete
  | bool value => cases value <;> rfl
  | text value? =>
      cases value? with
      | none => cases complete
      | some value =>
          have read := Literal.scan_encode value.toList rest
          simp only [render, Literal.encode, Option.getD_some, List.cons_append,
            List.append_assoc, List.nil_append]
          rw [scan, read, Option.map_some]
          simp only [Literal.join_chars, Option.map_some, String.ofList_toList]
  | _ => rfl

/-- The first character of a token that is written is no space. -/
theorem render_starts {token : Token} (complete : token.isComplete = true) :
    ∃ first tail, token.render = first :: tail ∧ isSpace first = false := by
  cases token with
  | natural number =>
      cases written : Nat.toDigits 10 number with
      | nil => exact absurd written Nat.toDigits_ne_nil
      | cons first others =>
          refine ⟨first, others, written, ?_⟩
          have digit : first.isDigit = true :=
            Nat.isDigit_of_mem_toDigits (by decide) (by decide) (written ▸ List.mem_cons_self)
          have differs : ∀ other : Char, other.isDigit = false → first ≠ other := by
            intro other notDigit same
            rw [same, notDigit] at digit
            cases digit
          simp only [isSpace, differs ' ' rfl, differs '\t' rfl, differs '\n' rfl,
            differs '\r' rfl, decide_false, Bool.or_self]
  | number lexeme => cases complete
  | bool value => cases value <;> exact ⟨_, _, rfl, rfl⟩
  | _ => exact ⟨_, _, rfl, rfl⟩

/-- Every number is followed by punctuation, if by anything. -/
def spaced : List Token → Bool
  | natural _ :: next :: rest => next.isPunctuation && spaced (next :: rest)
  | _ :: rest => spaced rest
  | [] => true

theorem endsNumber_render {tokens : List Token}
    (next : ∀ token rest, tokens = token :: rest → token.isPunctuation = true) :
    EndsNumber (tokens.flatMap render) := by
  intro char tail written
  cases tokens with
  | nil => cases written
  | cons token rest =>
      have mark := next token rest rfl
      rw [List.flatMap_cons] at written
      cases token with
      | null | bool | natural | number | text => cases mark
      | _ => cases written; decide

theorem listAfter_render (tokens : List Token) (found : List Token)
    (complete : ∀ token ∈ tokens, token.isComplete = true) (apart : spaced tokens = true) :
    listAfter found (tokens.flatMap render) = some (found.reverse ++ tokens) := by
  induction tokens generalizing found with
  | nil => rw [List.flatMap_nil, listAfter, List.append_nil]
  | cons token rest ih =>
      have here := complete token List.mem_cons_self
      obtain ⟨first, tail, written, visible⟩ := render_starts here
      have ends : (∃ number, token = natural number) → EndsNumber (rest.flatMap render) := by
        rintro ⟨number, rfl⟩
        apply endsNumber_render
        intro next others same
        subst same
        rw [spaced, Bool.and_eq_true] at apart
        exact apart.1
      have later : spaced rest = true := by
        cases token with
        | natural number =>
            cases rest with
            | nil => rfl
            | cons next others =>
                rw [spaced, Bool.and_eq_true] at apart
                exact apart.2
        | _ => simpa only [spaced] using apart
      have read := scan_render here ends
      rw [List.flatMap_cons]
      rw [written, List.cons_append] at read ⊢
      rw [listAfter, if_neg (by rw [visible]; decide)]
      split
      · rename_i fails
        rw [read] at fails
        cases fails
      · rename_i other after reads
        rw [read] at reads
        cases reads
        rw [ih (token :: found) (fun other member => complete other (List.mem_cons_of_mem _ member))
          later, List.reverse_cons, List.append_assoc, List.singleton_append]

end Token

open Reading (step settle startValue)

/-- The first token of a document opens a value, so it does not close the array around it. -/
theorem tokens_starts (document : Document) (frames : List Frame) :
    ∃ token rest, document.tokens = token :: rest ∧
      step (.firstItem frames) token = step (.value (.array [] :: frames)) token := by
  cases document <;> exact ⟨_, _, by rw [tokens], rfl⟩

mutual
theorem fold_tokens (document : Document) (frames : List Frame) (after : List Token) :
    (document.tokens ++ after).foldlM step (.value frames) =
      after.foldlM step (settle document frames) := by
  match document with
  | .null => rfl
  | .bool _ => rfl
  | .natural _ => rfl
  | .number _ => rfl
  | .text _ => rfl
  | .garbled => rfl
  | .array items =>
      rw [tokens, List.cons_append, List.foldlM_cons]
      exact fold_itemTokens items frames after
  | .object members =>
      rw [tokens, List.cons_append, List.foldlM_cons]
      exact fold_memberTokens members frames after

theorem fold_itemTokens (items : List Document) (frames : List Frame) (after : List Token) :
    (itemTokens items ++ after).foldlM step (.firstItem frames) =
      after.foldlM step (settle (.array items) frames) := by
  match items with
  | [] => rfl
  | item :: rest =>
      have inside := fold_tokens item (.array [] :: frames) (moreItemTokens rest ++ after)
      obtain ⟨token, others, written, same⟩ := tokens_starts item frames
      rw [itemTokens, List.append_assoc]
      rw [written, List.cons_append, List.foldlM_cons] at inside ⊢
      rw [same, inside]
      exact fold_moreItemTokens rest [item] frames after

theorem fold_moreItemTokens (rest items : List Document) (frames : List Frame)
    (after : List Token) :
    (moreItemTokens rest ++ after).foldlM step (.afterItem items frames) =
      after.foldlM step (settle (.array (items.reverse ++ rest)) frames) := by
  match rest with
  | [] => rw [List.append_nil]; rfl
  | item :: others =>
      rw [moreItemTokens, List.cons_append, List.append_assoc, List.foldlM_cons]
      have inside := fold_tokens item (.array items :: frames) (moreItemTokens others ++ after)
      have outside := fold_moreItemTokens others (item :: items) frames after
      rw [List.reverse_cons, List.append_assoc, List.singleton_append] at outside
      exact inside.trans outside

theorem fold_memberTokens (members : List (Option String × Document)) (frames : List Frame)
    (after : List Token) :
    (memberTokens members ++ after).foldlM step (.firstKey frames) =
      after.foldlM step (settle (.object members) frames) := by
  match members with
  | [] => rfl
  | (key, value) :: rest =>
      rw [memberTokens, List.cons_append, List.cons_append, List.append_assoc, List.foldlM_cons]
      have inside := fold_tokens value (.object [] key :: frames) (moreMemberTokens rest ++ after)
      have outside := fold_moreMemberTokens rest [(key, value)] frames after
      exact inside.trans outside

theorem fold_moreMemberTokens (rest members : List (Option String × Document))
    (frames : List Frame) (after : List Token) :
    (moreMemberTokens rest ++ after).foldlM step (.afterMember members frames) =
      after.foldlM step (settle (.object (members.reverse ++ rest)) frames) := by
  match rest with
  | [] => rw [List.append_nil]; rfl
  | (key, value) :: others =>
      rw [moreMemberTokens, List.cons_append, List.cons_append, List.cons_append,
        List.append_assoc, List.foldlM_cons]
      have inside :=
        fold_tokens value (.object members key :: frames) (moreMemberTokens others ++ after)
      have outside := fold_moreMemberTokens others ((key, value) :: members) frames after
      rw [List.reverse_cons, List.append_assoc, List.singleton_append] at outside
      exact inside.trans outside
end

theorem ofTokens?_tokens (document : Document) : ofTokens? document.tokens = some document := by
  have read := fold_tokens document [] []
  rw [List.append_nil] at read
  rw [ofTokens?, read]
  rfl

mutual
/-- Nothing in it was read from a literal without a text or from a number that is not natural. -/
def isComplete : Document → Bool
  | .number _ => false
  | .garbled => false
  | .array items => itemsComplete items
  | .object members => membersComplete members
  | _ => true

def itemsComplete : List Document → Bool
  | [] => true
  | item :: rest => isComplete item && itemsComplete rest

def membersComplete : List (Option String × Document) → Bool
  | [] => true
  | (key, value) :: rest => key.isSome && isComplete value && membersComplete rest
end

/-- Tokens that may follow a number. -/
def StartsWithPunctuation (tokens : List Token) : Prop :=
  ∀ token rest, tokens = token :: rest → token.isPunctuation = true

theorem moreItemTokens_starts (rest : List Document) (after : List Token) :
    StartsWithPunctuation (moreItemTokens rest ++ after) := by
  intro token others same
  cases rest with
  | nil => rw [moreItemTokens] at same; cases same; rfl
  | cons item tail => rw [moreItemTokens] at same; cases same; rfl

theorem moreMemberTokens_starts (rest : List (Option String × Document)) (after : List Token) :
    StartsWithPunctuation (moreMemberTokens rest ++ after) := by
  intro token others same
  cases rest with
  | nil => rw [moreMemberTokens] at same; cases same; rfl
  | cons member tail => rw [moreMemberTokens] at same; cases same; rfl

mutual
theorem spaced_tokens (document : Document) (after : List Token)
    (starts : StartsWithPunctuation after) (apart : Token.spaced after = true) :
    Token.spaced (document.tokens ++ after) = true := by
  match document with
  | .natural _ =>
      cases after with
      | nil => rfl
      | cons token rest =>
          rw [tokens, List.singleton_append, Token.spaced, starts token rest rfl, apart]
          rfl
  | .null => simpa only [tokens, List.singleton_append, Token.spaced] using apart
  | .bool _ => simpa only [tokens, List.singleton_append, Token.spaced] using apart
  | .number _ => simpa only [tokens, List.singleton_append, Token.spaced] using apart
  | .text _ => simpa only [tokens, List.singleton_append, Token.spaced] using apart
  | .garbled => simpa only [tokens, List.singleton_append, Token.spaced] using apart
  | .array items =>
      simpa only [tokens, List.cons_append, Token.spaced] using
        spaced_itemTokens items after apart
  | .object members =>
      simpa only [tokens, List.cons_append, Token.spaced] using
        spaced_memberTokens members after apart

theorem spaced_itemTokens (items : List Document) (after : List Token)
    (apart : Token.spaced after = true) : Token.spaced (itemTokens items ++ after) = true := by
  match items with
  | [] => simpa only [itemTokens, List.singleton_append, Token.spaced] using apart
  | item :: rest =>
      rw [itemTokens, List.append_assoc]
      exact spaced_tokens item _ (moreItemTokens_starts rest after)
        (spaced_moreItemTokens rest after apart)

theorem spaced_moreItemTokens (rest : List Document) (after : List Token)
    (apart : Token.spaced after = true) : Token.spaced (moreItemTokens rest ++ after) = true := by
  match rest with
  | [] => simpa only [moreItemTokens, List.singleton_append, Token.spaced] using apart
  | item :: others =>
      simp only [moreItemTokens, List.cons_append, List.append_assoc, Token.spaced]
      exact spaced_tokens item _ (moreItemTokens_starts others after)
        (spaced_moreItemTokens others after apart)

theorem spaced_memberTokens (members : List (Option String × Document)) (after : List Token)
    (apart : Token.spaced after = true) : Token.spaced (memberTokens members ++ after) = true := by
  match members with
  | [] => simpa only [memberTokens, List.singleton_append, Token.spaced] using apart
  | (key, value) :: rest =>
      simp only [memberTokens, List.cons_append, List.append_assoc, Token.spaced]
      exact spaced_tokens value _ (moreMemberTokens_starts rest after)
        (spaced_moreMemberTokens rest after apart)

theorem spaced_moreMemberTokens (rest : List (Option String × Document)) (after : List Token)
    (apart : Token.spaced after = true) :
    Token.spaced (moreMemberTokens rest ++ after) = true := by
  match rest with
  | [] => simpa only [moreMemberTokens, List.singleton_append, Token.spaced] using apart
  | (key, value) :: others =>
      simp only [moreMemberTokens, List.cons_append, List.append_assoc, Token.spaced]
      exact spaced_tokens value _ (moreMemberTokens_starts others after)
        (spaced_moreMemberTokens others after apart)
end

mutual
theorem complete_tokens (document : Document) (complete : document.isComplete = true) :
    document.tokens.all Token.isComplete = true := by
  match document with
  | .null => rfl
  | .bool _ => rfl
  | .natural _ => rfl
  | .text _ => rfl
  | .array items =>
      rw [isComplete] at complete
      rw [tokens, List.all_cons, complete_itemTokens items complete]
      rfl
  | .object members =>
      rw [isComplete] at complete
      rw [tokens, List.all_cons, complete_memberTokens members complete]
      rfl

theorem complete_itemTokens (items : List Document) (complete : itemsComplete items = true) :
    (itemTokens items).all Token.isComplete = true := by
  match items with
  | [] => rfl
  | item :: rest =>
      rw [itemsComplete, Bool.and_eq_true] at complete
      rw [itemTokens, List.all_append, complete_tokens item complete.1,
        complete_moreItemTokens rest complete.2]
      rfl

theorem complete_moreItemTokens (rest : List Document) (complete : itemsComplete rest = true) :
    (moreItemTokens rest).all Token.isComplete = true := by
  match rest with
  | [] => rfl
  | item :: others =>
      rw [itemsComplete, Bool.and_eq_true] at complete
      rw [moreItemTokens, List.all_cons, List.all_append, complete_tokens item complete.1,
        complete_moreItemTokens others complete.2]
      rfl

theorem complete_memberTokens (members : List (Option String × Document))
    (complete : membersComplete members = true) :
    (memberTokens members).all Token.isComplete = true := by
  match members with
  | [] => rfl
  | (some key, value) :: rest =>
      rw [membersComplete, Bool.and_eq_true, Bool.and_eq_true] at complete
      rw [memberTokens, List.all_cons, List.all_cons, List.all_append,
        complete_tokens value complete.1.2, complete_moreMemberTokens rest complete.2]
      rfl

theorem complete_moreMemberTokens (rest : List (Option String × Document))
    (complete : membersComplete rest = true) :
    (moreMemberTokens rest).all Token.isComplete = true := by
  match rest with
  | [] => rfl
  | (some key, value) :: others =>
      rw [membersComplete, Bool.and_eq_true, Bool.and_eq_true] at complete
      rw [moreMemberTokens, List.all_cons, List.all_cons, List.all_cons, List.all_append,
        complete_tokens value complete.1.2, complete_moreMemberTokens others complete.2]
      rfl
end

/-- A text with the tokens of a document in it holds the document. -/
theorem read_of_tokens {text : String} {document : Document}
    (listed : Token.list? text.toList = some document.tokens) : read text = some document := by
  rw [read, listed]
  exact ofTokens?_tokens document

/-- A complete document is read back from its text. -/
theorem read_render {document : Document} (complete : document.isComplete = true) :
    read document.render = some document := by
  have apart : Token.spaced document.tokens = true := by
    have spaced := spaced_tokens document [] (fun _ _ same => by cases same) rfl
    rwa [List.append_nil] at spaced
  have listed := Token.listAfter_render document.tokens []
    (List.all_eq_true.mp (complete_tokens document complete)) apart
  rw [read, render, String.toList_ofList, Token.list?, listed]
  exact ofTokens?_tokens document

end MeetingRoom.Document
