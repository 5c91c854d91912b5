import MeetingRoom.Layout
import MeetingRoom.Voice

/-!
The stage: who sits where. The host has the main tile to itself. The first participants, as many as
the stage can place, go to the secondary tiles, or to the floating tile if there is only one.
-/

namespace MeetingRoom

structure Stage (Remote : Type) where
  layout : Layout
  main : Option (Participant Remote)
  secondary : List (Participant Remote)
  floating : Option (Participant Remote)
  deriving DecidableEq

namespace Stage

variable {Remote : Type}

/-- A capacity is held to what the stage can place. -/
def holdCapacity (capacity : Nat) : Nat := max Layout.minHeads (min capacity Layout.maxHeads)

def compose (participants : List (Participant Remote)) (voice? : Option Voice) (screen : Screen)
    (capacity : Nat) : Stage Remote :=
  let placed := participants.take (holdCapacity capacity)
  let layout := Layout.compute placed.length screen
  let main := voice?.map Voice.host
  match layout with
  | .double .. => { layout := layout, main := main, secondary := placed, floating := none }
  | .single .. => { layout := layout, main := main, secondary := [], floating := placed.head? }

end Stage

end MeetingRoom
