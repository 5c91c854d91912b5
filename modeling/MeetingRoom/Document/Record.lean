import MeetingRoom.Document.Basic

/-!
Records: documents read against a list of keys in a fixed order. A record is written as an object,
or as an array of its values in the order of the keys. In an object, keys outside the list are
passed over and no key of the list may repeat; an array may stop early but not run over. A value
that is not there is `missing` from an object and `cutOff` from an array: what may be missing may
still not be cut off.
-/

namespace MeetingRoom.Document

/-- What a record has for one of its keys. -/
inductive Slot where
  | given (document : Document)
  | missing
  | cutOff

def occurrences (key : String) (members : List (Option String × Document)) : Nat :=
  members.countP (·.1 == some key)

def slotOf (members : List (Option String × Document)) (key : String) : Slot :=
  match members.find? (·.1 == some key) with
  | some (_, document) => .given document
  | none => .missing

/-- The slots for the keys, in their order. Every key of an object must be readable. -/
def slots? (keys : List String) : Document → Option (List Slot)
  | .object members =>
      if members.all (·.1.isSome) && keys.all (occurrences · members ≤ 1) then
        some (keys.map (slotOf members))
      else none
  | .array items =>
      if items.length ≤ keys.length then
        some (items.map .given ++ List.replicate (keys.length - items.length) .cutOff)
      else none
  | _ => none

namespace Slot

variable {Value : Type}

def required? (read : Document → Option Value) : Slot → Option Value
  | given document => read document
  | _ => none

/-- Null stands for no value. -/
def orNull? (read : Document → Option Value) : Document → Option (Option Value)
  | .null => some none
  | document => (read document).map some

/-- A value that may be missing but not cut off. -/
def optional? (read : Document → Option Value) : Slot → Option (Option Value)
  | given document => orNull? read document
  | missing => some none
  | cutOff => none

/-- A value that has a default, whether missing or cut off. -/
def defaulted? (default : Value) (read : Document → Option Value) : Slot → Option Value
  | given document => read document
  | _ => some default

end Slot

def text? : Document → Option String
  | .text chars => some chars
  | _ => none

/-- Counts are read from natural numbers below 2 ^ 32, written without fraction and exponent. -/
def word? : Document → Option UInt32
  | .natural count => if fits : count < UInt32.size then some (UInt32.ofNatLT count fits) else none
  | _ => none

def list? {Value : Type} (read : Document → Option Value) : Document → Option (List Value)
  | .array items => items.mapM read
  | _ => none

def ofWord (word : UInt32) : Document := .natural word.toNat

def ofTextOrNull (text? : Option String) : Document := (text?.map Document.text).getD .null

end MeetingRoom.Document
