import MeetingRoom.Text.Width.Table

/-!
Widths: how many columns a text takes where every character has one column, two or none. Emoji
that are joined, tinted or asked for by a selector take two columns together, and an Arabic lam with
the alef it joins takes one. A terminal sequence between an escape and the letter m takes none,
apart from the escape.
-/

namespace MeetingRoom.Text

def charWidth (char : Char) : Nat :=
  if inRanges flatRanges char then 0 else if inRanges wideRanges char then 2 else 1

def isPicture (char : Char) : Bool := inRanges pictureRanges char

def isPicturable (char : Char) : Bool := inRanges picturableRanges char

def isTintable (char : Char) : Bool := inRanges tintableRanges char

def isTint (char : Char) : Bool := 0x1F3FB ≤ char.toNat && char.toNat ≤ 0x1F3FF

def joiner : Char := '\u200D'

def pictureSelector : Char := '\uFE0F'

/-- One emoji without joiners, and what is behind it. -/
def takeEmoji? : List Char → Option (List Char)
  | char :: next :: rest =>
      if next = pictureSelector ∧ (isPicture char ∨ isPicturable char) then some rest
      else if isTint next ∧ isTintable char then some rest
      else if isPicture char then some (next :: rest)
      else none
  | [char] => if isPicture char then some [] else none
  | [] => none

def lams : List (Nat × Nat) :=
  [(0x644, 0x644), (0x6B5, 0x6B8), (0x76A, 0x76A), (0x8A6, 0x8A6), (0x8C7, 0x8C7)]

def alefs : List (Nat × Nat) :=
  [(0x622, 0x623), (0x625, 0x625), (0x627, 0x627), (0x671, 0x673), (0x675, 0x675), (0x773, 0x774),
   (0x870, 0x882)]

/-- Whether the next character with a width is an alef. -/
def meetsAlef (chars : List Char) : Bool :=
  match chars.dropWhile (inRanges flatRanges) with
  | [] => false
  | char :: _ => inRanges alefs char

theorem takeEmoji?_shorter {input after : List Char} (taken : takeEmoji? input = some after) :
    after.length < input.length := by
  unfold takeEmoji? at taken
  split at taken
  · split at taken
    · cases taken
      simp only [List.length_cons]
      omega
    · split at taken
      · cases taken
        simp only [List.length_cons]
        omega
      · split at taken
        · cases taken
          exact Nat.lt_succ_self _
        · cases taken
  · split at taken
    · cases taken
      exact Nat.lt_succ_self _
    · cases taken
  · cases taken

/-- What stands right before: an emoji, an emoji and a joiner, or anything else. -/
inductive Before where
  | other
  | emoji
  | joined
  deriving DecidableEq

/-- An emoji that is joined to the one before it takes no columns of its own. -/
def widthAfter (before : Before) (input : List Char) : Nat :=
  match input with
  | [] => 0
  | char :: rest =>
      match taken : takeEmoji? (char :: rest) with
      | some after =>
          have := takeEmoji?_shorter taken
          (if before = .joined then 0 else 2) + widthAfter .emoji after
      | none =>
          if before = .emoji ∧ char = joiner then widthAfter .joined rest
          else
            (if inRanges lams char && meetsAlef rest then 0 else charWidth char) +
              widthAfter .other rest
termination_by input.length
decreasing_by
  · exact this
  · exact Nat.lt_succ_self _
  · exact Nat.lt_succ_self _

def width (text : List Char) : Nat := widthAfter .other text

/-- Where a reader of terminal sequences is. -/
inductive Escape where
  | outside
  | marked
  | inside

/-- How many characters of terminal sequences come after an escape. -/
def hiddenFrom : Escape → List Char → Nat
  | _, [] => 0
  | .outside, char :: rest =>
      hiddenFrom (if char = '\x1b' then .marked else .outside) rest
  | .marked, char :: rest =>
      if char = '[' then 1 + hiddenFrom .inside rest else hiddenFrom .outside rest
  | .inside, char :: rest =>
      1 + hiddenFrom (if char = 'm' then .outside else .inside) rest

def displayWidth (text : List Char) : Nat := width text - hiddenFrom .outside text

end MeetingRoom.Text
