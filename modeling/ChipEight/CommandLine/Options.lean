import ChipEight.Console.Basic
import ChipEight.Text.Integer

/-!
# Options of the command line

The command line names a program file and gives options.  A flag is given or not;
a parameter takes a value.  An option has a long name, which begins with two
dashes, and some have a short one, a dash and a letter.  The value of a parameter
is checked where it is given, and the last one given counts.

Two dashes attached to a parameter are no value: they leave it blank.  A blank
parameter is not checked; a run that needs its value fails where it needs it, and
a run without need of it goes on.
-/

namespace ChipEight.CommandLine

/-- An option without a value. -/
inductive Flag where
  /-- Explain the command line. -/
  | help
  /-- Let the window fill the screen. -/
  | fullscreen
  /-- Avoid acceleration. -/
  | software
  /-- Report every instruction. -/
  | debug
  /-- Run without a window. -/
  | headless
  /-- List the program as instructions. -/
  | disassemble
  /-- Start the monitor. -/
  | monitor
  deriving DecidableEq, Repr

/-- An option with a value. -/
inductive Parameter where
  /-- Instructions a frame. -/
  | speed
  /-- The colour of dark cells. -/
  | dark
  /-- The colour of lit cells. -/
  | lit
  /-- The size of a cell. -/
  | scale
  /-- The preset of compatibility switches. -/
  | compatibility
  /-- The keymap file. -/
  | keymap
  /-- How many frames are run. -/
  | frames
  /-- Where the random bytes begin. -/
  | seed
  deriving DecidableEq, Repr

/-- An option. -/
inductive Setting where
  /-- One without a value. -/
  | flag (flag : Flag)
  /-- One with a value. -/
  | parameter (parameter : Parameter)
  deriving DecidableEq, Repr

namespace Setting

/-- The names of all options. -/
def names : List (String × Setting) := [
  ("-h", .flag .help), ("--help", .flag .help),
  ("-s", .parameter .speed), ("--speed", .parameter .speed),
  ("-f", .flag .fullscreen), ("--fullscreen", .flag .fullscreen),
  ("--bg", .parameter .dark), ("--fg", .parameter .lit),
  ("--software", .flag .software), ("--debug", .flag .debug),
  ("--scale", .parameter .scale), ("--quirks", .parameter .compatibility),
  ("--keymap", .parameter .keymap), ("--headless", .flag .headless),
  ("--frames", .parameter .frames), ("--seed", .parameter .seed),
  ("--disasm", .flag .disassemble), ("--monitor", .flag .monitor)]

/-- The option of a name. -/
def ofName? (name : List Char) : Option Setting :=
  names.lookup (String.ofList name)

/-- An option as reports name it: by all its names. -/
def title (setting : Setting) : String :=
  "/".intercalate ((names.filter fun entry => entry.2 == setting).map (·.1))

end Setting

/-- What is wrong with a command line. -/
inductive UsageError where
  /-- An argument may be short for several options. -/
  | ambiguous (argument : String) (candidates : List String)
  /-- A flag is given a value. -/
  | needlessValue (flag : Flag) (text : String)
  /-- A parameter is given no value. -/
  | missingValue (parameter : Parameter)
  /-- The value of a parameter is no integer. -/
  | badInteger (parameter : Parameter) (text : String)
  /-- The value of a parameter is no preset. -/
  | badPreset (parameter : Parameter) (text : String)
  /-- No program file is named. -/
  | missingProgram
  /-- Arguments are left over. -/
  | unrecognized (arguments : List String)
  /-- A colour is none. -/
  | badColour (error : Colour.Invalid)
  /-- The speed is not positive. -/
  | badSpeed
  deriving DecidableEq, Repr

/-- A report on an option. -/
def onSetting (setting : Setting) (text : String) : String :=
  "argument " ++ setting.title ++ ": " ++ text

/-- The report on a command line. -/
def UsageError.message : UsageError → String
  | .ambiguous argument candidates =>
    "ambiguous option: " ++ argument ++ " could match " ++ ", ".intercalate candidates
  | .needlessValue flag text =>
    onSetting (.flag flag) ("ignored explicit argument " ++ Text.quoted text)
  | .missingValue parameter => onSetting (.parameter parameter) "expected one argument"
  | .badInteger parameter text =>
    onSetting (.parameter parameter) ("invalid int value: " ++ Text.quoted text)
  | .badPreset parameter text =>
    onSetting (.parameter parameter) ("invalid choice: " ++ Text.quoted text ++ " (choose from " ++
      ", ".intercalate (Compatibility.presets.map fun entry => Text.quoted entry.1) ++ ")")
  | .missingProgram => "the following arguments are required: filename"
  | .unrecognized arguments => "unrecognized arguments: " ++ " ".intercalate arguments
  | .badColour error => error.message
  | .badSpeed => "--speed must be at least 1"

/-- A parameter that was left blank where its value is needed. -/
inductive Blank where
  /-- One of the colours. -/
  | colour
  /-- Instructions a frame. -/
  | speed
  /-- Where the random bytes begin. -/
  | seed
  /-- The preset of compatibility switches. -/
  | compatibility
  /-- How many frames are run. -/
  | frames
  /-- The size of a cell. -/
  | scale
  deriving DecidableEq, Repr

/-- The report on a blank parameter. -/
def Blank.message : Blank → String
  | .colour => "'list' object has no attribute 'strip'"
  | .speed => "'<' not supported between instances of 'list' and 'int'"
  | .seed =>
    "The only supported seed types are: None,\nint, float, str, bytes, and bytearray."
  | .compatibility => "unhashable type: 'list'"
  | .frames => "'<' not supported between instances of 'int' and 'list'"
  | .scale => "'>' not supported between instances of 'list' and 'int'"

/-- Why a command line is not carried out. -/
inductive Stop where
  /-- Help is asked for. -/
  | help
  /-- The command line is wrong. -/
  | usage (error : UsageError)
  /-- A parameter is needed at once and was left blank. -/
  | blank (blank : Blank)
  deriving DecidableEq, Repr

/-- What a parameter was given. -/
inductive Entry (α : Type) where
  /-- A value. -/
  | given (value : α)
  /-- Nothing. -/
  | blank
  deriving DecidableEq, Repr

/-- The value of a parameter that is needed. -/
def Entry.need {α : Type} (entry : Entry α) (missing : Blank) : Except Blank α :=
  match entry with
  | .given value => .ok value
  | .blank => .error missing

/-- What the options ask for. -/
structure Options where
  /-- Instructions a frame. -/
  speed : Entry Int := .given defaultSpeed
  /-- Whether the window fills the screen. -/
  fullscreen : Bool := false
  /-- The colour of dark cells. -/
  dark : Entry String := .given Host.defaultDark
  /-- The colour of lit cells. -/
  lit : Entry String := .given Host.defaultLit
  /-- Whether acceleration is avoided. -/
  software : Bool := false
  /-- Whether every instruction is reported. -/
  debug : Bool := false
  /-- The size of a cell. -/
  scale : Entry Int := .given Host.defaultScale
  /-- The compatibility switches. -/
  compatibility : Entry Compatibility := .given .reference
  /-- The name of the keymap file; none if it was left blank. -/
  keymap : Option String := none
  /-- Whether there is no window. -/
  headless : Bool := false
  /-- How many frames are run, if there is a limit. -/
  frames : Entry (Option Int) := .given none
  /-- Where the random bytes begin, if that is laid down. -/
  seed : Entry (Option Int) := .given none
  /-- Whether the program is listed. -/
  disassemble : Bool := false
  /-- Whether the monitor is started. -/
  monitor : Bool := false
  deriving DecidableEq, Repr

namespace Options

/-- The options with a flag given.  Help is no matter of the options. -/
def raise (options : Options) : Flag → Options
  | .help => options
  | .fullscreen => { options with fullscreen := true }
  | .software => { options with software := true }
  | .debug => { options with debug := true }
  | .headless => { options with headless := true }
  | .disassemble => { options with disassemble := true }
  | .monitor => { options with monitor := true }

/-- The integer a parameter is given. -/
def integer (parameter : Parameter) (text : String) : Except UsageError Int :=
  match Text.readInteger .ten text with
  | .ok value => .ok value
  | .error _ => .error (.badInteger parameter text)

/-- The options with a parameter left blank. -/
def leaveBlank (options : Options) : Parameter → Options
  | .speed => { options with speed := .blank }
  | .dark => { options with dark := .blank }
  | .lit => { options with lit := .blank }
  | .scale => { options with scale := .blank }
  | .compatibility => { options with compatibility := .blank }
  | .keymap => { options with keymap := none }
  | .frames => { options with frames := .blank }
  | .seed => { options with seed := .blank }

/-- The options with a parameter given a value. -/
def fill (options : Options) (parameter : Parameter) (text : String) :
    Except UsageError Options :=
  match parameter with
  | .speed => do return { options with speed := .given (← integer parameter text) }
  | .dark => .ok { options with dark := .given text }
  | .lit => .ok { options with lit := .given text }
  | .scale => do return { options with scale := .given (← integer parameter text) }
  | .compatibility =>
    match Compatibility.preset? text with
    | some preset => .ok { options with compatibility := .given preset }
    | none => .error (.badPreset parameter text)
  | .keymap => .ok { options with keymap := some text }
  | .frames => do return { options with frames := .given (some (← integer parameter text)) }
  | .seed => do return { options with seed := .given (some (← integer parameter text)) }

/-- The options with a parameter given. -/
def assign (options : Options) (parameter : Parameter) (text : String) :
    Except UsageError Options :=
  if text == "--" then .ok (options.leaveBlank parameter) else options.fill parameter text

/-- Whether an entry is a colour. -/
def checkColour (entry : Entry String) : Except Stop Unit := do
  let text ← (entry.need .colour).mapError .blank
  let _ ← (Colour.parse text).mapError fun error => .usage (.badColour error)

/-- Whether the options make sense: both colours are colours, and the speed is
positive. -/
def check (options : Options) : Except Stop Unit := do
  checkColour options.lit
  checkColour options.dark
  let speed ← (options.speed.need .speed).mapError .blank
  if speed < 1 then .error (.usage .badSpeed) else .ok ()

end Options

end ChipEight.CommandLine
