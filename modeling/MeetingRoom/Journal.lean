/-!
The journal: what the library reports of its work, oldest entry first. Only what a reader of the
log file is meant to see is in it.
-/

namespace MeetingRoom.Journal

inductive Level where
  | error
  | warn
  | info
  deriving DecidableEq

def Level.name : Level → String
  | error => "ERROR"
  | warn => "WARN"
  | info => "INFO"

structure Entry where
  level : Level
  message : String
  deriving DecidableEq

/-- A message may have several lines; it stays one entry. -/
def Entry.line (entry : Entry) : String := "[" ++ entry.level.name ++ "] - " ++ entry.message

def error (message : String) : Entry := ⟨.error, message⟩

def warn (message : String) : Entry := ⟨.warn, message⟩

def info (message : String) : Entry := ⟨.info, message⟩

end MeetingRoom.Journal
