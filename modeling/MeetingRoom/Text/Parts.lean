/-!
Parts of a text: its lines, and whether another text is a connected part of it. A line ends with a
line feed, or with a carriage return and a line feed; a text that ends with one has no further line,
and a carriage return on its own ends nothing.
-/

namespace MeetingRoom.Text

/-- The characters up to the first line feed, and what is behind it if there is one. -/
def cutLine : List Char → List Char × Option (List Char)
  | [] => ([], none)
  | '\n' :: rest => ([], some rest)
  | char :: rest =>
      let (line, after) := cutLine rest
      (char :: line, after)

theorem cutLine_shorter {input line after : List Char} (cut : cutLine input = (line, some after)) :
    after.length < input.length := by
  induction input generalizing line with
  | nil => cases cut
  | cons char rest ih =>
      unfold cutLine at cut
      split at cut
      · rename_i same; cases same
      · rename_i same; cases same; cases cut; simp
      · rename_i same
        cases same
        cases found : cutLine rest with
        | mk inner next =>
            rw [found] at cut
            cases cut
            have := ih found
            simp only [List.length_cons]
            omega

def dropReturn : List Char → List Char
  | [] => []
  | ['\r'] => []
  | char :: rest => char :: dropReturn rest

def lines (input : List Char) : List (List Char) :=
  match input with
  | [] => []
  | char :: rest =>
      match cut : cutLine (char :: rest) with
      | (line, none) => [line]
      | (line, some after) =>
          have := cutLine_shorter cut
          dropReturn line :: lines after
termination_by input.length
decreasing_by exact this

def holdsChars (part : List Char) : List Char → Bool
  | [] => part.isEmpty
  | char :: rest => part.isPrefixOf (char :: rest) || holdsChars part rest

def holds (part text : String) : Bool := holdsChars part.toList text.toList

theorem holdsChars_iff {part text : List Char} : holdsChars part text = true ↔ part <:+: text := by
  induction text with
  | nil => simp [holdsChars]
  | cons char rest ih =>
      rw [holdsChars, Bool.or_eq_true, List.isPrefixOf_iff_prefix, ih, List.infix_cons_iff]

end MeetingRoom.Text
