import ChipEight.Console.Notice
import ChipEight.Console.Recorder
import ChipEight.Host.Window
import ChipEight.Tone.Beeper

/-!
# The console

A console is a machine with the knobs that a user turns: the speed in
instructions a frame, the pause, the trace and the reset.  It passes every drawn
screen to a display and every change of the tone to a beeper.

A frame runs as many instructions as the speed says, then lets time pass for the
timers, then brings the tone up to date.  A fault never leaves a frame: it is
reported and kept, and the console pauses.
-/

namespace ChipEight

/-- Cells in a row of the usual screen. -/
abbrev screenWidth : Nat := 64

/-- Rows of the usual screen. -/
abbrev screenHeight : Nat := 32

/-- Where drawn screens go, and where input comes from. -/
inductive Display where
  /-- A recorder. -/
  | recorder (recorder : Recorder screenWidth screenHeight)
  /-- A window. -/
  | window (window : Host.Window)

/-- Where the tone goes. -/
inductive Audio where
  /-- A beeper that makes no sound. -/
  | silent (beeper : Tone.SilentBeeper)
  /-- A beeper that plays. -/
  | beeper (beeper : Tone.Beeper)

/-- A machine and the knobs around it. -/
structure Console where
  /-- The machine. -/
  machine : Machine screenWidth screenHeight
  /-- Instructions a frame. -/
  speed : Nat
  /-- Whether frames run no instructions. -/
  paused : Bool := false
  /-- The display, if there is one. -/
  display : Option Display := none
  /-- The beeper, if there is one. -/
  audio : Option Audio := none
  /-- The toolkit behind a window and a beeper that plays. -/
  toolkit : Host.Toolkit := .absent
  /-- The name of the program. -/
  programName : Option String := none
  /-- Frames run so far. -/
  frames : Nat := 0
  /-- The fault met last. -/
  lastFault : Option Fault := none
  /-- Whether the tone is on. -/
  tone : Bool := false
  /-- Time since the frames were last reported. -/
  reportElapsed : Float := 0.0
  /-- Frames since the frames were last reported. -/
  reportFrames : Nat := 0
  /-- What has been reported and not yet been taken. -/
  notices : Array Notice := #[]

/-- The speed nearest to a number: from 1 to 255. -/
def clampSpeed (speed : Int) : Nat :=
  (max 1 (min 255 speed)).toNat

/-- The usual speed. -/
def defaultSpeed : Int := 8

namespace Console

/-- A console at power-on. -/
def create (speed : Int) (compatibility : Compatibility) (random : RandomBytes) (debug : Bool) :
    Console where
  machine := { Machine.powerOn compatibility random with debug := debug }
  speed := clampSpeed speed

/-- Report something. -/
def note (console : Console) (notice : Notice) : Console :=
  { console with notices := console.notices.push notice }

/-- Take what has been reported. -/
def takeNotices (console : Console) : List Notice × Console :=
  (console.notices.toList, { console with notices := #[] })

/-- Pass the screen to the display. -/
def showScreen (console : Console) : Console :=
  match console.display with
  | none => console
  | some (.recorder recorder) =>
    { console with display := some (.recorder (recorder.draw console.machine.screen)) }
  | some (.window window) =>
    { console with display := some (.window (window.draw console.machine.screen.picture)) }

/-- Pass a change of the tone to the beeper. -/
def updateTone (console : Console) : Console :=
  let on := console.machine.tone
  if on == console.tone then console
  else
    let changed := { console with tone := on }
    match console.audio with
    | none => changed
    | some (.silent beeper) => { changed with audio := some (.silent (beeper.setTone on)) }
    | some (.beeper beeper) =>
      let (beeper, toolkit) := beeper.setTone console.toolkit on
      { changed with audio := some (.beeper beeper), toolkit := toolkit }

/-- Let the machine act.  It is left as it stands where something goes wrong. -/
def onMachine {ε α : Type} (action : EStateM ε (Machine screenWidth screenHeight) α) :
    EStateM ε Console α := fun console =>
  (action.run console.machine).onState fun machine => { console with machine := machine }

/-- Load a program under a name, with its size as the result.  The name follows the
program. -/
def load (program : Array UInt8) (name : Option String) : EStateM ProgramTooLarge Console Nat := do
  let size ← onMachine (Machine.load program)
  modify ({ · with programName := name })
  return size

/-- Load a program into a console. -/
def loadProgram (console : Console) (program : Array UInt8) (name : Option String) :
    EStateM.Result ProgramTooLarge Console Nat :=
  (load program name).run console

/-- Why a program file was not loaded. -/
inductive LoadError where
  /-- The file was not read. -/
  | file (error : FileError)
  /-- The program is too large. -/
  | tooLarge (error : ProgramTooLarge)
  deriving DecidableEq, Repr

/-- The content of a file. -/
def readFile (files : Files) (path : Path) : EStateM LoadError Console (Array UInt8) :=
  match files.read path with
  | .ok content => return content
  | .error error => throw (.file error)

/-- Load a program from a file, whose last name becomes the name of the program. -/
def loadFrom (files : Files) (name : String) : EStateM LoadError Console Nat := do
  let path := Path.ofString name
  let content ← readFile files path
  let size ← (load content (some path.name)).adaptExcept .tooLarge
  modify (·.note (.loaded path size))
  return size

/-- Load a program from a file into a console. -/
def loadFile (console : Console) (files : Files) (name : String) :
    EStateM.Result LoadError Console Nat :=
  (loadFrom files name).run console

/-- Set the speed. -/
def setSpeed (console : Console) (speed : Int) : Console :=
  let speed := clampSpeed speed
  { console with speed := speed }.note (.speed speed)

/-- Turn the trace on or off. -/
def toggleDebug (console : Console) : Console :=
  { console with machine := { console.machine with debug := !console.machine.debug } }

/-- Back to power-on, with the program kept. -/
def reset (console : Console) : Console :=
  let fresh := { console.note .resetting with
    machine := console.machine.reset, paused := false, lastFault := none }
  fresh.showScreen.updateTone

/-- Carry out a command.  The flag is `false` if the session is to end. -/
def handle (console : Console) : Command → Console × Bool
  | .quit => (console, false)
  | .speedUp => (console.setSpeed (console.speed + 1), true)
  | .speedDown => (console.setSpeed (console.speed - 1), true)
  | .debug => (console.toggleDebug, true)
  | .reset => (console.reset, true)
  | .pauseToggle => ({ console with paused := !console.paused }, true)
  | .pause => ({ console with paused := true }, true)
  | .unpause => ({ console with paused := false }, true)
  | .unknown _ => (console, true)

/-- Pass on an event of the machine. -/
def deliver (console : Console) : Event → Console
  | .drawn => console.showScreen
  | event => console.note (.machine event)

/-- One step of the machine, with its events passed on. -/
def cycle (console : Console) : Console × Except Fault (Option Instruction) :=
  let result := console.machine.step
  (result.events.foldl deliver { console with machine := result.machine }, result.outcome)

/-- Keep a fault and pause. -/
def contain (console : Console) (fault : Fault) : Console :=
  { console with lastFault := some fault, paused := true }.note
    (.fault console.machine.pc fault)

/-- One step that contains its fault.  The flag is `false` if there was one. -/
def step (console : Console) : Console × Bool :=
  match console.cycle with
  | (console, .ok _) => (console, true)
  | (console, .error fault) => (console.contain fault, false)

/-- At most `count` steps, up to the first fault, with the number of those
without. -/
def steps (console : Console) : Nat → Console × Nat
  | 0 => (console, 0)
  | count + 1 =>
    match console.step with
    | (console, true) =>
      let (console, executed) := console.steps count
      (console, executed + 1)
    | (console, false) => (console, 0)

/-- Report the frames once a second has passed, while debugging. -/
def reportFrameRate (console : Console) (elapsed : Float) : Console :=
  let total := console.reportElapsed + elapsed
  let count := console.reportFrames + 1
  if total < 1.0 then
    { console with reportElapsed := total, reportFrames := count }
  else
    let fresh := { console with reportElapsed := 0.0, reportFrames := 0 }
    if console.machine.debug then fresh.note (.frames count console.speed console.paused)
    else fresh

/-- Run a frame that takes some time, with the number of instructions run. -/
def runFrame (console : Console) (elapsed : Float) : Console × Nat :=
  let (ran, executed) :=
    if console.paused then (console, 0) else console.steps console.speed
  let timed := { ran with machine := ran.machine.updateTimers elapsed }.updateTone
  ({ timed with frames := timed.frames + 1 }.reportFrameRate elapsed, executed)

end Console

end ChipEight
