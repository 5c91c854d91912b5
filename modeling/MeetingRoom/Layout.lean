import MeetingRoom.Screen

/-!
Stage layouts: class strings for the stage container and its tiles, chosen by a head count and a
screen class. One head gets a floating tile beside the main tile, two get a secondary group.
Which tile group goes with the main tile is decided by the count alone; the screen class changes
only a layout for one head, since the classes for two carry their own break point.
-/

namespace MeetingRoom

/-- Class strings that every layout has. -/
structure Layout.Frame where
  container : String
  mainWrapper : String
  mainTile : String
  deriving DecidableEq

inductive Layout where
  /-- The only head floats over the main tile. -/
  | single (frame : Layout.Frame) (floatingWrapper floatingTile : String)
  /-- Two heads share the group beside the main tile. -/
  | double (frame : Layout.Frame) (secondaryContainer secondaryTile : String)
  deriving DecidableEq

namespace Layout

def minHeads : Nat := 1

def maxHeads : Nat := 2

def clampHeads (count : Int) : Nat := (max (minHeads : Int) (min count maxHeads)).toNat

def baseTile : String :=
  "relative overflow-hidden rounded-2xl border border-slate-200/70 bg-slate-100 " ++
  "shadow-[0_0_60px_rgba(14,165,233,0.08)] dark:border-slate-900/60 dark:bg-slate-900/60"

def singleTileSize : Screen → String
  | .desktop => "aspect-video lg:min-h-[440px]"
  | .tablet => "min-h-[62vh]"
  | .mobile => "min-h-[75vh]"

/-- The wrapper lets the pointer through to the main tile; the tile takes it back for its own area. -/
def forOne (screen : Screen) : Layout :=
  .single
    { container := "relative flex h-full w-full items-center justify-center"
      mainWrapper := if screen = .desktop then "w-[70vw] max-w-4xl" else "w-full max-w-4xl"
      mainTile := baseTile ++ " w-full " ++ singleTileSize screen }
    (if screen = .desktop then "pointer-events-none absolute bottom-8 right-8 w-56"
     else "pointer-events-none absolute bottom-4 right-4 w-40")
    (baseTile ++ " pointer-events-auto aspect-video w-full")

def forTwo : Layout :=
  .double
    { container :=
        "flex h-full w-full flex-col gap-4 lg:max-w-6xl lg:flex-row lg:items-stretch lg:gap-8"
      mainWrapper := "w-full lg:flex-[0.65] lg:min-w-0 lg:max-w-[960px]"
      mainTile := baseTile ++ " w-full min-h-[62vh] lg:min-h-full" }
    ("grid grid-cols-2 gap-3 lg:flex lg:flex-[0.35] lg:min-w-0 lg:flex-col " ++
      "lg:justify-between lg:gap-4")
    (baseTile ++ " w-full aspect-[4/3] md:aspect-[16/9] lg:flex-1 lg:min-h-[100px]!")

/-- The count may be any integer; it is held to what a stage can place. -/
def compute (count : Int) (screen : Screen) : Layout :=
  if clampHeads count = 1 then forOne screen else forTwo

/-- For callers that hold the screen class as text. -/
def computeFor (count : Int) (screen : String) : Except Screen.Unknown Layout :=
  (Screen.ofName screen).map (compute count)

def frame : Layout → Frame
  | single frame _ _ => frame
  | double frame _ _ => frame

def secondaryContainer? : Layout → Option String
  | single _ _ _ => none
  | double _ container _ => some container

def secondaryTile? : Layout → Option String
  | single _ _ _ => none
  | double _ _ tile => some tile

def floatingWrapper? : Layout → Option String
  | single _ wrapper _ => some wrapper
  | double _ _ _ => none

def floatingTile? : Layout → Option String
  | single _ _ tile => some tile
  | double _ _ _ => none

/-- The variant as it is written in documents. -/
def variant : Layout → String
  | single _ _ _ => "single"
  | double _ _ _ => "double"

def toDocument (layout : Layout) : Document :=
  .object <|
    [ (some "variant", .text layout.variant),
      (some "containerClass", .text layout.frame.container),
      (some "mainTileWrapperClass", .text layout.frame.mainWrapper),
      (some "mainTileClass", .text layout.frame.mainTile) ] ++
    match layout with
    | single _ wrapper tile =>
        [(some "floatingSelfWrapperClass", .text wrapper),
         (some "floatingSelfTileClass", .text tile)]
    | double _ container tile =>
        [(some "secondaryContainerClass", .text container),
         (some "secondaryTileClass", .text tile)]

end Layout

end MeetingRoom
