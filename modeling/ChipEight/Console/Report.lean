import ChipEight.Console.Basic

/-!
# The status report

The full state of a console as text: the register dump and what the console adds
to it.
-/

namespace ChipEight

/-- How a truth value is shown. -/
def truthText (value : Bool) : String :=
  if value then "True" else "False"

/-- Keys as capital digits, or a dash for none. -/
def keysText (keys : List Key) : String :=
  if keys.isEmpty then "-" else " ".intercalate (keys.map Text.Hex.capital)

/-- A name, or a dash for none. -/
def nameText (name : Option String) : String :=
  match name with
  | some text => if text.isEmpty then "-" else text
  | none => "-"

/-- The status report. -/
def Console.status (console : Console) : String :=
  let machine := console.machine
  "\n".intercalate <| [
    "=== Registers ===",
    machine.dump,
    "",
    "=== Machine ===",
    "  ROM: " ++ nameText console.programName ++
      s!" ({machine.programSize} bytes at " ++ Text.Hex.address programStart ++ ")",
    "  " ++ Notice.speedText console.speed ++ "  Paused: " ++ truthText console.paused ++
      "  Debug: " ++ truthText machine.debug,
    s!"  Instructions: {machine.cycles}  Frames: {console.frames}  " ++
      s!"Unknown opcodes: {machine.unknowns}",
    "  Keys down: " ++ keysText machine.keypad.pressed ++ "  Tone: " ++
      (if console.tone then "on" else "off"),
    s!"  Lit pixels: {machine.screen.litCount}"] ++
    match console.lastFault with
    | some fault => ["  Last fault: " ++ fault.message]
    | none => []

end ChipEight
