import ChipEight.Console.Command
import ChipEight.Framebuffer
import ChipEight.Keypad

/-!
# The recorder

The recorder stands in for a window where there is none.  It keeps the screens
drawn last, up to a limit if there is one, and plays the user: commands that are already
waiting, and then, frame by frame, a script of commands, keys and frame times.
-/

namespace ChipEight

/-- The time between frames. -/
def frameTime : Float := 1.0 / 60.0

/-- What the script holds for one frame. -/
structure ScriptFrame where
  /-- The commands given. -/
  commands : List Command := []
  /-- The keypad, if it changes. -/
  keypad : Option Keypad := none
  /-- How long the frame takes, if not a sixtieth of a second. -/
  elapsed : Option Float := none

/-- A display without a window. -/
structure Recorder (width height : Nat) where
  /-- How many screens are kept, if not all. -/
  limit : Option Nat := some 256
  /-- The screens drawn last, in order. -/
  snapshots : Array (Framebuffer width height) := #[]
  /-- How many screens have been drawn. -/
  draws : Nat := 0
  /-- Commands that wait for the next poll. -/
  pending : List Command := []
  /-- The frames to come. -/
  script : List ScriptFrame := []
  /-- The time the frame under way takes, if the script tells. -/
  elapsed : Option Float := none

namespace Recorder

/-- Why there is no recorder with a limit. -/
inductive LimitError where
  /-- The limit is negative. -/
  | negative
  /-- The limit is no length of a list. -/
  | tooLarge
  deriving DecidableEq, Repr

/-- The report on a refused limit. -/
def LimitError.message : LimitError → String
  | .negative => "maxlen must be non-negative"
  | .tooLarge => TooLarge.message .length

/-- Check a limit. -/
def checkLimit : Option Int → Except LimitError (Option Nat)
  | none => .ok none
  | some limit =>
    if !Bounds.isWord limit then .error .tooLarge
    else if limit < 0 then .error .negative
    else .ok (some limit.toNat)

variable {width height : Nat}

/-- The time between frames at a rate; a rate of zero stands for the usual one. -/
def timeAt (rate : Int) : Except TooLarge Float :=
  if rate = 0 then .ok frameTime else (Bounds.float rate).map (1.0 / ·)

/-- Keep a screen, and drop the oldest one where the limit asks for it. -/
def draw (recorder : Recorder width height) (screen : Framebuffer width height) :
    Recorder width height :=
  let kept := recorder.snapshots.push screen
  let dropped := match recorder.limit with
    | some limit => kept.size - limit
    | none => 0
  { recorder with
    snapshots := kept.extract dropped kept.size
    draws := recorder.draws + 1 }

/-- The screen drawn last, if it was kept. -/
def lastFrame? (recorder : Recorder width height) : Option (Framebuffer width height) :=
  recorder.snapshots.back?

/-- The frame that the next poll begins; past the end of the script nothing
happens. -/
def upcoming (recorder : Recorder width height) : ScriptFrame :=
  recorder.script.head?.getD {}

/-- Begin the next frame.  The result holds the commands, the waiting ones first,
and the keypad where it changes. -/
def poll (recorder : Recorder width height) :
    Recorder width height × List Command × Option Keypad :=
  let frame := recorder.upcoming
  ({ recorder with pending := [], script := recorder.script.tail, elapsed := frame.elapsed },
    recorder.pending ++ frame.commands, frame.keypad)

/-- The time the frame under way takes, at the usual rate. -/
def elapsedTime (recorder : Recorder width height) : Float :=
  recorder.elapsed.getD frameTime

/-- The time the frame under way takes: what the script tells, or else what follows
from a rate. -/
def tick (recorder : Recorder width height) (rate : Int) : Except TooLarge Float :=
  match recorder.elapsed with
  | some elapsed => .ok elapsed
  | none => timeAt rate

end Recorder

end ChipEight
