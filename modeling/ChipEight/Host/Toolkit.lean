/-!
# The window toolkit

The window, the keyboard and the sound device belong to a toolkit outside the
program.  Here the toolkit is a value: it answers from a script that was written
beforehand, and it records every call.  What a session does to the outside world
is then exactly its list of calls, and a session can be replayed.

The script tells, for each time the events are asked for, which events have
arrived, which keys are held, how long the frame takes and whether the user
breaks off.  When the script is used up nothing happens any more, or the window
is closed, as the toolkit is set up.
-/

namespace ChipEight.Host

/-- Something that happened at the window. -/
inductive HostEvent where
  /-- The window is closed. -/
  | quit
  /-- A key goes down. -/
  | keyDown (name : String)
  /-- A key comes up. -/
  | keyUp (name : String)
  /-- Another window takes the keyboard. -/
  | focusLost
  /-- The window takes the keyboard. -/
  | focusGained
  /-- The window has another size. -/
  | resize
  /-- The window has become visible. -/
  | expose
  /-- Anything else. -/
  | other
  deriving DecidableEq, Repr

/-- What the script holds for one frame. -/
structure HostFrame where
  /-- The events, in order. -/
  events : List HostEvent := []
  /-- The names of the keys that are held. -/
  held : List String := []
  /-- How long the frame takes. -/
  milliseconds : Int := 16
  /-- The size the window takes on, if it changes. -/
  size : Option (Int × Int) := none
  /-- Whether the user breaks off. -/
  interrupt : Bool := false
  deriving DecidableEq, Repr

/-- A part of the toolkit that can refuse to start. -/
inductive Service where
  /-- The connection to the screen. -/
  | screen
  /-- The window itself. -/
  | window
  /-- The sound device. -/
  | mixer
  deriving DecidableEq, Repr

/-- A call to the toolkit. -/
inductive Call where
  /-- Connect to the screen. -/
  | init
  /-- Set the title of the window. -/
  | caption (title : String)
  /-- Open the window. -/
  | setMode (width height flags : Int)
  /-- Make a drawing surface. -/
  | surface (width height : Int)
  /-- Put an image on the surface. -/
  | pixels (width height : Nat) (image : List UInt8)
  /-- Scale the surface. -/
  | scale (width height : Int)
  /-- Fill the window. -/
  | fill (red green blue : UInt8)
  /-- Put the scaled surface at a place of the window. -/
  | blit (x y : Int)
  /-- Show what has been drawn. -/
  | flip
  /-- Close the window. -/
  | displayQuit
  /-- Wait out the frame. -/
  | clock (rate : Int)
  /-- Open the sound device. -/
  | mixerInit (rate size channels : Int)
  /-- Make a sound of samples, the same on a number of channels. -/
  | makeSound (samples : List Int) (channels : Nat)
  /-- Play the sound. -/
  | play (loops : Int)
  /-- Stop the sound. -/
  | soundStop
  /-- Close the sound device. -/
  | mixerQuit
  deriving DecidableEq, Repr

/-- The names of the keys of a usual keyboard that bear a character. -/
def characterKeys : List String :=
  "0123456789abcdefghijklmnopqrstuvwxyz-=".toList.map String.singleton

/-- The names of the keys of a usual keyboard. -/
def usualKeys : List String :=
  characterKeys ++ ["up", "down", "left", "right", "space", "escape", "f3", "f8", "f12"]

/-- The toolkit: how it will answer, and what it has been asked. -/
structure Toolkit where
  /-- Whether there is a toolkit at all. -/
  present : Bool := true
  /-- The part that refuses to start. -/
  failing : Option Service := none
  /-- What a refusal says. -/
  failText : String := "no device"
  /-- The names of the keys that the keyboard has. -/
  keyNames : List String := usualKeys
  /-- The frames to come. -/
  script : List HostFrame := []
  /-- Whether the window is closed at the end of the script. -/
  quitAtEnd : Bool := false
  /-- Samples a second, sample size and channels of the sound device. -/
  mixer : Int × Int × Int := (44100, -16, 1)
  /-- The frame under way. -/
  frame : HostFrame := {}
  /-- The size the window was last given by the user. -/
  resized : Option (Int × Int) := none
  /-- The size the window was opened with. -/
  opened : Int × Int := (0, 0)
  /-- The calls so far. -/
  calls : Array Call := #[]
  /-- The way of drawing set in the environment. -/
  renderDriver : Option String := none
  /-- The acceleration set in the environment. -/
  acceleration : Option String := none
  deriving Repr

namespace Toolkit

/-- No toolkit. -/
def absent : Toolkit :=
  { present := false }

/-- Record a call. -/
def log (toolkit : Toolkit) (call : Call) : Toolkit :=
  { toolkit with calls := toolkit.calls.push call }

/-- Forget the calls so far. -/
def clearCalls (toolkit : Toolkit) : Toolkit :=
  { toolkit with calls := #[] }

/-- Whether a part refuses to start. -/
def fails (toolkit : Toolkit) (service : Service) : Bool :=
  toolkit.failing == some service

/-- Ask for drawing without acceleration, unless the environment says otherwise
already. -/
def preferSoftware (toolkit : Toolkit) : Toolkit :=
  { toolkit with
    renderDriver := some (toolkit.renderDriver.getD "software")
    acceleration := some (toolkit.acceleration.getD "0") }

/-- The window given a new size by the user. -/
def resize (toolkit : Toolkit) (size : Int × Int) : Toolkit :=
  { toolkit with resized := some size }

/-- The flag of a window that can be resized. -/
def resizable : Int := 16

/-- The flag of a window that fills the screen. -/
def fullscreen : Int := -2147483648

/-- The size of the window.  One that was opened without a size is 640 by 480. -/
def windowSize (toolkit : Toolkit) : Int × Int :=
  match toolkit.resized with
  | some size => size
  | none => if toolkit.opened = (0, 0) then (640, 480) else toolkit.opened

/-- The frame that the next request for events begins. -/
def upcoming (toolkit : Toolkit) : HostFrame :=
  match toolkit.script with
  | frame :: _ => frame
  | [] => { events := if toolkit.quitAtEnd then [.quit] else [] }

/-- Ask for events: the next frame of the script begins. -/
def nextFrame (toolkit : Toolkit) : Toolkit :=
  let frame := toolkit.upcoming
  let begun := { toolkit with script := toolkit.script.tail, frame := frame }
  match frame.size with
  | some size => begun.resize size
  | none => begun

/-- Whether the keyboard has a key of a name. -/
def knowsKey (toolkit : Toolkit) (name : String) : Bool :=
  toolkit.keyNames.contains name

/-- Whether a key is held in the frame under way. -/
def isHeld (toolkit : Toolkit) (name : String) : Bool :=
  toolkit.frame.held.contains name

end Toolkit

end ChipEight.Host
