import MeetingRoom.Duration
import MeetingRoom.Journal
import MeetingRoom.Stage
import MeetingRoom.Text.Blank
import MeetingRoom.Text.Quoted

/-!
Configuration from named variables. Whatever the variables hold there is a configuration: a blank
one counts as not set, a number that cannot be read gives the default with a warning, and a capacity
beyond what a stage can place is held to it, also with a warning.
-/

namespace MeetingRoom

structure Config where
  backendUrl : String
  accessToken : Option String
  mediaUrl : Option String
  connectTimeout : Duration
  stageCapacity : Nat
  logFile : Option String
  deriving DecidableEq

namespace Config

def defaultBackendUrl : String := "http://localhost:8080"

def defaultTimeoutMillis : Nat := 10000

def default : Config :=
  { backendUrl := defaultBackendUrl
    accessToken := none
    mediaUrl := none
    connectTimeout := Duration.ofMillis defaultTimeoutMillis
    stageCapacity := Layout.maxHeads
    logFile := none }

/-- A plus sign may stand in front of the digits. -/
def unsigned (chars : List Char) : List Char :=
  match chars with
  | '+' :: rest => rest
  | _ => chars

/-- Numbers have 64 bits. -/
def number? (text : String) : Option Nat := do
  let number ← Text.number? (unsigned (Text.trim text).toList)
  if number < UInt64.size then some number else none

def unreadable (name text : String) : Journal.Entry :=
  Journal.warn (name ++ " must be a number, got " ++ Text.quoted text ++ "; using the default")

/-- The number of a variable that may not be set. -/
def numberOr (standard : Nat) (text? : Option String) : Nat :=
  (text?.bind number?).getD standard

def numberJournal (name : String) (text? : Option String) : List Journal.Entry :=
  match text? with
  | some text => if (number? text).isSome then [] else [unreadable name text]
  | none => []

def timeoutName : String := "COHOST_CONNECT_TIMEOUT_MS"

def capacityName : String := "COHOST_STAGE_CAPACITY"

/-- The value of a variable, unless it is blank. -/
def value? (lookup : String → Option String) (name : String) : Option String :=
  (lookup name).filter (!Text.allBlank ·)

def ofLookup (lookup : String → Option String) : Config :=
  { backendUrl := (value? lookup "COHOST_BACKEND_URL").getD defaultBackendUrl
    accessToken := value? lookup "COHOST_ACCESS_TOKEN"
    mediaUrl := value? lookup "COHOST_LIVEKIT_URL"
    connectTimeout :=
      Duration.ofMillis (numberOr defaultTimeoutMillis (value? lookup timeoutName))
    stageCapacity :=
      Stage.holdCapacity (numberOr Layout.maxHeads (value? lookup capacityName))
    logFile := value? lookup "COHOST_LOG_FILE" }

/-- A capacity that had to be held. -/
def capacityJournal (requested : Nat) : List Journal.Entry :=
  let held := Stage.holdCapacity requested
  if held = requested then []
  else
    [Journal.warn (capacityName ++ " must be between " ++ Text.decimal Layout.minHeads ++
      " and " ++ Text.decimal Layout.maxHeads ++ ", using " ++ Text.decimal held)]

/-- What reading the configuration reports. -/
def journal (lookup : String → Option String) : List Journal.Entry :=
  let timeout? := value? lookup timeoutName
  let capacity? := value? lookup capacityName
  numberJournal timeoutName timeout? ++ numberJournal capacityName capacity? ++
    capacityJournal (numberOr Layout.maxHeads capacity?)

end Config

end MeetingRoom
