import MeetingRoom.Stage
import MeetingRoom.Text.Parts
import MeetingRoom.Text.Width

/-!
Reports: the participants as a table in a frame of characters, and one line on who sits where. A
column of a table is as wide as its widest line and a row as high as its highest cell, one line at
least; there is a rule above the first row and below every row.
-/

namespace MeetingRoom.Report

/-- The lines of a cell. -/
abbrev Cell := List (List Char)

def cell (text : String) : Cell := Text.lines text.toList

namespace Cell

def width (cell : Cell) : Nat := (cell.map Text.displayWidth).foldl max 0

end Cell

/-- The width of every column. -/
def columnWidths (columns : Nat) (rows : List (List Cell)) : List Nat :=
  (List.range columns).map fun column =>
    (rows.map fun row => ((row[column]?).map Cell.width).getD 0).foldl max 0

def rowHeight (row : List Cell) : Nat := (row.map List.length).foldl max 1

def rule (widths : List Nat) : List Char :=
  '+' :: widths.flatMap fun width => List.replicate (width + 2) '-' ++ ['+']

def fill (width : Nat) (line : List Char) : List Char :=
  line ++ List.replicate (width - Text.displayWidth line) ' '

/-- One line of a row. Cells that have no such line are blank in it. -/
def rowLine (widths : List Nat) (row : List Cell) (index : Nat) : List Char :=
  '|' :: (widths.zip row).flatMap fun (width, cell) =>
    ' ' :: fill width ((cell[index]?).getD []) ++ [' ', '|']

def rowLines (widths : List Nat) (row : List Cell) : List (List Char) :=
  (List.range (rowHeight row)).map (rowLine widths row)

/-- The lines of a table, each with a line feed behind it. -/
def render (columns : Nat) (rows : List (List Cell)) : String :=
  let widths := columnWidths columns rows
  let body := rows.flatMap fun row => rowLines widths row ++ [rule widths]
  String.ofList ((rule widths :: body).flatMap (· ++ ['\n']))

variable {Remote : Type}

def heading : List String := ["Identity", "Name", "Label", "Mic", "Camera"]

def onOff (enabled : Bool) : String := if enabled then "on" else "off"

def participantCells (participant : Participant Remote) : List String :=
  [participant.id, participant.name, participant.label, onOff participant.audio,
    onOff participant.video]

/-- The participants under a heading. -/
def rosterRows (participants : List (Participant Remote)) : List (List Cell) :=
  (heading :: participants.map participantCells).map (·.map cell)

def rosterTable (participants : List (Participant Remote)) : String :=
  render heading.length (rosterRows participants)

def variantWord : Layout → String
  | .single .. => "Single"
  | .double .. => "Double"

/-- An empty place is shown as a dash. -/
def place (participant? : Option (Participant Remote)) : String :=
  (participant?.map (·.id)).getD "-"

def summary (stage : Stage Remote) : String :=
  variantWord stage.layout ++ " layout: main [" ++ place stage.main ++ "], secondary [" ++
    ", ".intercalate (stage.secondary.map (·.id)) ++ "], floating [" ++ place stage.floating ++ "]"

end MeetingRoom.Report
