import ChipEight.CommandLine.Arguments
import ChipEight.CommandLine.Help
import ChipEight.Console.Run
import ChipEight.Monitor.Session

/-!
# A run of the program

A run reads its command line, loads the keymap and the program, and then does one
of four things: list the program, start the monitor, run without a window, or run
in a window.  Everything it does is a function of its arguments, the files it can
open, its input, the generator of its random bytes and the toolkit.

A window that was opened is closed and the sound device released however the
frames end.  Most of what can go wrong is reported and gives an exit code; a
failure that the program does not handle ends the run where it occurs.
-/

namespace ChipEight.CommandLine

/-- What goes wrong and is not handled. -/
inductive Failure where
  /-- A parameter is needed and was left blank. -/
  | blank (blank : Blank)
  /-- The keymap is neither loaded nor refused. -/
  | keymap (error : Keymap.LoadError)
  /-- The program is neither loaded nor refused. -/
  | program (error : Console.LoadError)
  /-- The monitor was asked for a byte before the first one of memory. -/
  | leftMemory (error : Listing.AddressError)
  /-- The window is not made. -/
  | create (error : Host.CreateError)
  /-- The window fails during the run. -/
  | window (error : Host.WindowError)
  /-- There is no wave to play. -/
  | sound (error : Tone.WaveError)
  deriving DecidableEq, Repr

/-- How a run ends. -/
inductive Ending where
  /-- With an exit code. -/
  | exit (code : Nat)
  /-- With a failure. -/
  | failed (failure : Failure)
  deriving DecidableEq, Repr

/-- What a run leaves. -/
structure Outcome where
  /-- The output. -/
  output : String := ""
  /-- The error stream. -/
  errors : String := ""
  /-- The calls to the toolkit. -/
  calls : Array Host.Call := #[]
  /-- How the run ends. -/
  ending : Ending
  deriving Repr

namespace Outcome

/-- The end of a run that reports one error. -/
def refuse (code : Nat) (report : String) : Outcome :=
  { errors := unlines [report], ending := .exit code }

/-- An outcome with what a console has reported shown before its output. -/
def after (console : Console) (outcome : Outcome) : Outcome :=
  let notices := console.takeNotices.1
  { outcome with
    output := outputOf notices ++ outcome.output
    errors := errorsOf notices ++ outcome.errors }

end Outcome

/-- The end of a run whose command line is not read to the end. -/
def Stop.outcome : Stop → Outcome
  | .help => { output := helpText, ending := .exit 0 }
  | .usage error => .refuse 2 ("chip8: error: " ++ error.message)
  | .blank missing => { ending := .failed (.blank missing) }

/-! ## Loading -/

/-- The report on a keymap. -/
def keymapReport (text : String) : String :=
  "Keymap error: " ++ text

/-- The end of a run whose keymap is not loaded. -/
def keymapOutcome (error : Keymap.LoadError) : Outcome :=
  match error with
  | .file (.refused refusal path) =>
    .refuse 1 (keymapReport (FileError.refused refusal path).message)
  | .malformed error => .refuse 1 (keymapReport error.message)
  | error => { ending := .failed (.keymap error) }

/-- Why there is no console with its program loaded. -/
inductive ConsoleError where
  /-- A parameter of the console was left blank. -/
  | blank (blank : Blank)
  /-- The program is not loaded. -/
  | program (error : Console.LoadError)
  deriving DecidableEq, Repr

/-- The end of a run without a console. -/
def consoleOutcome (name : String) (error : ConsoleError) : Outcome :=
  match error with
  | .blank missing => { ending := .failed (.blank missing) }
  | .program (.tooLarge error) => .refuse 1 ("Error: " ++ error.message)
  | .program (.file (.refused refusal path)) =>
    .refuse 1 ("Failed to open ROM: " ++ name ++ ": " ++ (FileError.refused refusal path).message)
  | .program error => { ending := .failed (.program error) }

/-- The levels granted to a keymap file: the command line takes one up itself. -/
abbrev keymapLevels : Nat := Keymap.levelLimit - 1

/-- The keymap the options ask for: none stands for the default layout. -/
def loadKeymap (options : Options) (files : Files) : Except Keymap.LoadError Keymap :=
  match options.keymap with
  | none => .ok .empty
  | some name => if name.isEmpty then .ok .empty else Keymap.load files name keymapLevels

/-- The random bytes the options ask for. -/
def randomBytes (options : Options) (generator : RandomBytes.Generator) :
    Except Blank RandomBytes := do
  return generator (← options.seed.need .seed)

/-- The console the options ask for. -/
def createConsole (options : Options) (generator : RandomBytes.Generator) :
    Except Blank Console := do
  let random ← randomBytes options generator
  let speed ← options.speed.need .speed
  let compatibility ← options.compatibility.need .compatibility
  return Console.create speed compatibility random options.debug

/-- The console a request asks for, with its program loaded. -/
def loadConsole (request : Request) (files : Files) (generator : RandomBytes.Generator) :
    Except ConsoleError Console := do
  let console ← (createConsole request.options generator).mapError .blank
  match console.loadFile files request.program with
  | .ok _ loaded => return loaded
  | .error error _ => throw (.program error)

/-! ## What a run does -/

/-- List the program as instructions. -/
def list (console : Console) : Outcome :=
  let count := (console.machine.programSize + 1) / 2
  match Listing.rows console.machine.memory.toArray programStart count with
  | .ok rows => Outcome.after console { output := unlines (rows.map (·.line)), ending := .exit 0 }
  | .error error => Outcome.after console { ending := .failed (.leftMemory error) }

/-- How many frames are run without a window. -/
abbrev headlessFrames : Int := 600

/-- Run without a window, and show the last screen. -/
def runHeadless (options : Options) (console : Console) : Outcome :=
  match options.frames with
  | .blank => Outcome.after console { ending := .failed (.blank .frames) }
  | .given frames =>
    let session := Console.run
      { console with display := some (.recorder {}), audio := some (.silent {}) }
      (frames.getD headlessFrames)
    let machine := session.console.machine
    Outcome.after session.console
      { output := unlines [machine.screen.print,
          s!"Ran {session.frames} frames, {machine.cycles} instructions."]
        ending := .exit (if session.console.lastFault.isSome then 2 else 0) }

/-- Release the sound device and then the window. -/
def release (console : Console) : Host.Toolkit :=
  let toolkit := match console.audio with
    | some (.beeper beeper) => (beeper.stop console.toolkit).2
    | _ => console.toolkit
  match console.display with
  | some (.window window) => (window.stop toolkit).2
  | _ => toolkit

/-- The end of a run in a window. -/
def finish (session : Console.Session) : Outcome :=
  let calls := (release session.console).calls
  Outcome.after session.console <|
    match session.ending with
    | .finished | .quit => { calls, ending := .exit 0 }
    | .failed .interrupted => { output := "\nInterrupted.\n", calls, ending := .exit 0 }
    | .failed error => { calls, ending := .failed (.window error) }

/-- Run with a display and a beeper. -/
def runShown (options : Options) (console : Console) : Outcome :=
  match options.frames with
  | .given (some frames) => finish (console.run frames)
  | .given none => finish console.runScript
  | .blank =>
    Outcome.after console
      { calls := (release console).calls, ending := .failed (.blank .frames) }

/-- Open the sound device and run.  Without the device there is no sound. -/
def runSounding (options : Options) (console : Console) : Outcome :=
  let (beeper, toolkit, started) := Tone.Beeper.default.start console.toolkit
  let console := { console with toolkit := toolkit }
  match started with
  | .ok () => runShown options { console with audio := some (.beeper beeper) }
  | .error (.wave error) =>
    Outcome.after console { calls := toolkit.calls, ending := .failed (.sound error) }
  | .error error =>
    let outcome := runShown options { console with audio := some (.silent {}) }
    { outcome with
      errors := unlines ["[sound] " ++ error.message ++ "; continuing without sound"] ++
        outcome.errors }

/-- The title of the window. -/
def windowTitle : String := "Chip8"

/-- The report on a window that is not opened. -/
def windowReport (error : Host.WindowError) : List String :=
  match error with
  | .keymap error => [keymapReport error.message]
  | error => ["[display] " ++ error.message, "[display] Install with: pip install pygame"]

/-- Why there is no window. -/
inductive OpeningError where
  /-- A parameter of the window was left blank. -/
  | blank (blank : Blank)
  /-- The window is not made. -/
  | create (error : Host.CreateError)
  deriving DecidableEq, Repr

/-- The window the options ask for. -/
def createWindow (options : Options) (keymap : Keymap) : Except OpeningError Host.Window := do
  let scale ← (options.scale.need .scale).mapError .blank
  let lit ← (options.lit.need .colour).mapError .blank
  let dark ← (options.dark.need .colour).mapError .blank
  (Host.Window.create screenWidth screenHeight scale lit dark options.fullscreen
    options.software keymap windowTitle).mapError .create

/-- Open a window and run. -/
def runWindow (options : Options) (keymap : Keymap) (console : Console) (toolkit : Host.Toolkit) :
    Outcome :=
  match createWindow options keymap with
  | .error (.blank missing) => Outcome.after console { ending := .failed (.blank missing) }
  | .error (.create error) => Outcome.after console { ending := .failed (.create error) }
  | .ok window =>
    match window.start toolkit with
    | (_, toolkit, .error error) =>
      Outcome.after console
        { errors := unlines (windowReport error), calls := toolkit.calls, ending := .exit 1 }
    | (window, toolkit, .ok ()) =>
      runSounding options { console with display := some (.window window), toolkit := toolkit }

/-! ## The whole run -/

/-- What a run comes to before its input is read. -/
inductive Plan where
  /-- The run is over. -/
  | over (outcome : Outcome)
  /-- The monitor takes the input; some output and errors precede it. -/
  | monitor (monitor : Monitor) (output errors : String)

/-- What a request comes to. -/
def Request.plan (request : Request) (files : Files) (generator : RandomBytes.Generator)
    (toolkit : Host.Toolkit) : Plan :=
  let options := request.options
  match loadKeymap options files with
  | .error error => .over (keymapOutcome error)
  | .ok keymap =>
    match loadConsole request files generator with
    | .error error => .over (consoleOutcome request.program error)
    | .ok console =>
      if options.disassemble then .over (list console)
      else if options.monitor then
        let (notices, console) := console.takeNotices
        .monitor { console } (outputOf notices ++ Monitor.introduction) (errorsOf notices)
      else if options.headless then .over (runHeadless options console)
      else .over (runWindow options keymap console toolkit)

/-- What a command line comes to. -/
def plan (arguments : List String) (files : Files) (generator : RandomBytes.Generator)
    (toolkit : Host.Toolkit) : Plan :=
  match Request.ofArguments arguments with
  | .error stop => .over stop.outcome
  | .ok request => request.plan files generator toolkit

/-- The end of a run in the monitor. -/
def ofTranscript (transcript : Monitor.Transcript) : Outcome where
  output := transcript.output
  errors := transcript.errors
  ending := match transcript.ending with
    | .leftMemory error => .failed (.leftMemory error)
    | _ => .exit 0

/-- A run of the program. -/
def run (arguments : List String) (files : Files) (input : String)
    (generator : RandomBytes.Generator) (toolkit : Host.Toolkit) : Outcome :=
  match plan arguments files generator toolkit with
  | .over outcome => outcome
  | .monitor monitor output errors =>
    ofTranscript (monitor.session output errors (Monitor.inputLines input))

end ChipEight.CommandLine
