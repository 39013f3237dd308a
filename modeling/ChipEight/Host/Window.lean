import ChipEight.Colour
import ChipEight.Host.Toolkit
import ChipEight.Keymap
import ChipEight.Keypad
import ChipEight.Console.Command

/-!
# The window

The window shows the screen of the machine and reads the keyboard.  A drawing is
only remembered; once a frame the window is painted, if anything has changed
since it was painted last.  The image is scaled by the largest whole factor that
fits, but at least by one, and centred on a dark border.

A window is made for screens of some dimensions, which decide how it is opened and
scaled.  The picture drawn last keeps its own dimensions.  A window for screens
without cells can be opened, but not painted.

Reading the keyboard takes the waiting events first: some ask for a repaint,
some are commands to the console.  Then every key of the keypad is down exactly
if a key bound to it is held.
-/

namespace ChipEight.Host

/-- The usual colour of lit cells. -/
def defaultLit : String := "#8bac0f"

/-- The usual colour of dark cells. -/
def defaultDark : String := "#0f380f"

/-- The usual size of a cell. -/
def defaultScale : Int := 10

/-- What goes wrong at the window. -/
inductive WindowError where
  /-- There is no toolkit. -/
  | noToolkit
  /-- The toolkit refused to open the window. -/
  | refused (text : String)
  /-- The keymap names an unknown key. -/
  | keymap (error : Keymap.Malformed)
  /-- The events of a window that is not open are asked for. -/
  | pollClosed
  /-- A window that is not open is to be painted. -/
  | paintClosed
  /-- The window is for screens without cells. -/
  | noCells
  /-- A held key is bound to no key of the keypad. -/
  | badBinding
  /-- A number is too large to go on with. -/
  | tooLarge (cause : TooLarge)
  /-- The picture has no image. -/
  | image (error : ImageError)
  /-- The user breaks off. -/
  | interrupted
  deriving DecidableEq, Repr

/-- The report on a window that was not opened. -/
def WindowError.message : WindowError → String
  | .noToolkit => "pygame not available: No module named 'pygame'"
  | .refused text => "Failed to create window: " ++ text
  | .keymap error => error.message
  | .pollClosed => "'NoneType' object has no attribute 'event'"
  | .paintClosed => "'NoneType' object has no attribute 'get_size'"
  | .noCells => "integer division or modulo by zero"
  | .badBinding => "list assignment index out of range"
  | .tooLarge cause => cause.message
  | .image error => error.message
  | .interrupted => ""

/-- A window. -/
structure Window where
  /-- Cells in a row of the screens it is made for. -/
  width : Nat
  /-- Rows of the screens it is made for. -/
  height : Nat
  /-- Pixels a cell when the window is opened. -/
  scale : Int
  /-- The colour of lit cells. -/
  lit : Colour
  /-- The colour of dark cells. -/
  dark : Colour
  /-- Whether the window fills the screen. -/
  fullscreen : Bool
  /-- Whether acceleration is avoided. -/
  software : Bool
  /-- The bindings asked for. -/
  keymap : Keymap
  /-- The title. -/
  title : String
  /-- Whether the window is open. -/
  isOpen : Bool
  /-- The bindings in force. -/
  bindings : List (String × Int)
  /-- The picture drawn last, if any. -/
  frame : Option Picture
  /-- Whether anything has changed since the window was painted. -/
  dirty : Bool

/-- Why a window is not made. -/
inductive CreateError where
  /-- A colour is none. -/
  | colour (error : Colour.Invalid)
  /-- There are no screens of the dimensions. -/
  | size (error : TableSize.Refused)
  deriving DecidableEq, Repr

/-- The report on a window that is not made. -/
def CreateError.message : CreateError → String
  | .colour error => error.message
  | .size error => error.message

namespace Window

/-- A window that is not open yet, for screens of some dimensions.  Without
bindings the default layout is used. -/
def create (width height scale : Int) (lit dark : String) (fullscreen software : Bool)
    (keymap : Keymap) (title : String) : Except CreateError Window := do
  let lit ← (Colour.parse lit).mapError .colour
  let dark ← (Colour.parse dark).mapError .colour
  (TableSize.check ⟨[height, width], .cell⟩).mapError .size
  return {
    width := width.toNat
    height := height.toNat
    scale := max 1 scale
    lit, dark, fullscreen, software, title
    keymap := if keymap.bindings.isEmpty then .layout else keymap
    isOpen := false
    bindings := []
    frame := none
    dirty := true }

/-- The size and the flags with which the window is opened. -/
def mode (window : Window) : (Int × Int) × Int :=
  if window.fullscreen then ((0, 0), Toolkit.resizable + Toolkit.fullscreen)
  else ((window.width * window.scale, window.height * window.scale), Toolkit.resizable)

/-- The first name of the keymap that the keyboard does not know. -/
def unknownName? (window : Window) (toolkit : Toolkit) : Option String :=
  (window.keymap.bindings.find? fun entry => !toolkit.knowsKey entry.1).map (·.1)

/-- Open the window.  An unknown key name is noticed when the window is open
already. -/
def start (window : Window) (toolkit : Toolkit) :
    Window × Toolkit × Except WindowError Unit :=
  let toolkit := if window.software then toolkit.preferSoftware else toolkit
  if !toolkit.present then (window, toolkit, .error .noToolkit)
  else
    let toolkit := toolkit.log .init
    if toolkit.fails .screen then (window, toolkit, .error (.refused toolkit.failText))
    else
      let (size, flags) := window.mode
      let toolkit := (toolkit.log (.caption window.title)).log (.setMode size.1 size.2 flags)
      if toolkit.fails .window then (window, toolkit, .error (.refused toolkit.failText))
      else
        let toolkit := { toolkit with opened := size }.log (.surface window.width window.height)
        let opened := { window with isOpen := true }
        match window.unknownName? toolkit with
        | some name => (opened, toolkit, .error (.keymap (.unknownName name)))
        | none =>
          ({ opened with bindings := window.keymap.bindings, dirty := true }, toolkit, .ok ())

/-- Close the window, if it is open. -/
def stop (window : Window) (toolkit : Toolkit) : Window × Toolkit :=
  if window.isOpen then ({ window with isOpen := false }, toolkit.log .displayQuit)
  else (window, toolkit)

/-- Remember a picture. -/
def draw (window : Window) (picture : Picture) : Window :=
  { window with frame := some picture, dirty := true }

/-- The picture to be shown: the one drawn last, or a dark screen before the first
one. -/
def shown (window : Window) : Picture :=
  window.frame.getD ⟨window.width, window.height, .blank⟩

/-- The command of a key with a special meaning. -/
def hotkey? : String → Option Command
  | "escape" => some .quit
  | "=" => some .speedUp
  | "-" => some .speedDown
  | "f12" => some .debug
  | "f3" => some .reset
  | "f8" => some .pauseToggle
  | _ => none

/-- The command an event gives. -/
def command? : HostEvent → Option Command
  | .quit => some .quit
  | .keyDown name => hotkey? name
  | .focusLost => some .pause
  | .focusGained => some .unpause
  | _ => none

/-- Whether an event asks for a repaint. -/
def repaints : HostEvent → Bool
  | .resize | .expose => true
  | _ => false

/-- The key of the keypad that a binding puts down; one counted from the end
where it is negative. -/
def boundKey (key : Int) : Except WindowError Key :=
  if -16 ≤ key ∧ key < 16 then .ok (Key.ofInt key)
  else if Bounds.isWord key then .error .badBinding
  else .error (.tooLarge .position)

/-- The keypad that the held keys make. -/
def heldKeypad (window : Window) (toolkit : Toolkit) : Except WindowError Keypad := do
  let held := window.bindings.filter fun entry => toolkit.isHeld entry.1
  return Keypad.ofPressed (← held.mapM fun entry => boundKey entry.2)

/-- Take the waiting events and read the keyboard.  The result holds the keypad
and the commands, in the order of the events. -/
def poll (window : Window) (toolkit : Toolkit) :
    Window × Toolkit × Except WindowError (Keypad × List Command) :=
  if !window.isOpen then (window, toolkit, .error .pollClosed)
  else
    let toolkit := toolkit.nextFrame
    if toolkit.frame.interrupt then (window, toolkit, .error .interrupted)
    else
      let events := toolkit.frame.events
      let polled := { window with dirty := window.dirty || events.any repaints }
      match polled.heldKeypad toolkit with
      | .ok keypad => (polled, toolkit, .ok (keypad, events.filterMap command?))
      | .error error => (polled, toolkit, .error error)

/-- The factor by which screens of some dimensions are scaled in a window of a
size. -/
def factor (width height : Nat) (size : Int × Int) : Int :=
  max 1 (min (size.1 / width) (size.2 / height))

/-- Where the scaled image begins on an axis, so that it is centred. -/
def margin (room used : Int) : Int :=
  (room - used) / 2

/-- The calls that show the image of a picture, scaled as a screen of some
dimensions, in a window of a size. -/
def paintCalls (width height : Nat) (size : Int × Int) (picture : Picture)
    (image : List UInt8) : List Call :=
  let factor := factor width height size
  let used := (width * factor, height * factor)
  [.pixels picture.width picture.height image, .scale used.1 used.2, .fill 0 0 0,
    .blit (margin size.1 used.1) (margin size.2 used.2), .flip]

/-- Paint the window. -/
def paint (window : Window) (toolkit : Toolkit) : Window × Toolkit × Except WindowError Unit :=
  if !window.isOpen then (window, toolkit, .error .paintClosed)
  else if window.width = 0 ∨ window.height = 0 then (window, toolkit, .error .noCells)
  else
    match window.shown.image window.lit window.dark with
    | .error error => (window, toolkit, .error (.image error))
    | .ok image =>
      let calls :=
        paintCalls window.width window.height toolkit.windowSize window.shown image
      ({ window with dirty := false }, calls.foldl .log toolkit, .ok ())

/-- Paint the window if anything has changed, and wait out the frame.  The result
is the time the frame took, in seconds. -/
def tick (window : Window) (toolkit : Toolkit) (rate : Int) :
    Window × Toolkit × Except WindowError Float :=
  let (painted, toolkit, outcome) :=
    if window.dirty then window.paint toolkit else (window, toolkit, .ok ())
  match outcome with
  | .error error => (painted, toolkit, .error error)
  | .ok () =>
    let milliseconds := (Bounds.float toolkit.frame.milliseconds).mapError .tooLarge
    (painted, toolkit.log (.clock rate), milliseconds.map (· / 1000.0))

end Window

end ChipEight.Host
