import MeetingRoom.Text.Numeral

/-!
Durations in whole nanoseconds. A duration is written in the largest unit that has a whole part,
with as many decimal places as it takes.
-/

namespace MeetingRoom

structure Duration where
  nanos : Nat
  deriving DecidableEq

namespace Duration

def ofMillis (millis : Nat) : Duration := ⟨millis * 1000000⟩

def ofSeconds (seconds nanos : Nat) : Duration := ⟨seconds * 1000000000 + nanos⟩

def inUnit (duration : Duration) (places : Nat) (unit : String) : String :=
  let whole := Nat.pow 10 places
  Text.decimal (duration.nanos / whole) ++ Text.fraction places (duration.nanos % whole) ++ unit

def text (duration : Duration) : String :=
  if 1000000000 ≤ duration.nanos then duration.inUnit 9 "s"
  else if 1000000 ≤ duration.nanos then duration.inUnit 6 "ms"
  else if 1000 ≤ duration.nanos then duration.inUnit 3 "µs"
  else duration.inUnit 0 "ns"

end Duration

end MeetingRoom
