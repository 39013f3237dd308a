import ChipEight.Console.Basic
import ChipEight.Instruction.Listing
import ChipEight.Monitor.Line
import ChipEight.Text.Integer
import ChipEight.Text.LowerCase
import ChipEight.Text.Words

/-!
# The monitor

The monitor controls a console line by line: it executes instructions one at a
time or up to a breakpoint, and shows and changes the state of the machine.  It
steps the machine itself, so faults are shown and do not pause the console.
-/

namespace ChipEight

/-- A console under the control of a user, with breakpoints. -/
structure Monitor where
  /-- The console. -/
  console : Console
  /-- The addresses to stop at, in ascending order. -/
  breakpoints : List Int := []

namespace Monitor

/-- The machine under control. -/
def machine (monitor : Monitor) : Machine screenWidth screenHeight :=
  monitor.console.machine

/-- The monitor with another machine under control. -/
def withMachine (monitor : Monitor) (machine : Machine screenWidth screenHeight) : Monitor :=
  { monitor with console := { monitor.console with machine := machine } }

/-- How a line leaves the monitor. -/
inductive Ending where
  /-- It waits for the next line. -/
  | goesOn
  /-- It is left. -/
  | stops
  /-- The line asked for a byte before the first one of memory. -/
  | leftMemory (error : Listing.AddressError)
  deriving DecidableEq, Repr

/-- What a line does: the new state and what is shown. -/
structure Outcome where
  /-- The monitor afterwards. -/
  monitor : Monitor
  /-- The lines shown. -/
  lines : List String := []
  /-- How the line leaves the monitor. -/
  ending : Ending := .goesOn

/-- Why an argument is refused. -/
inductive ArgumentError where
  /-- A number is expected. -/
  | integer (error : Text.IntegerError)
  /-- The argument is not divided into words. -/
  | words (error : Text.Words.WordsError)
  deriving DecidableEq, Repr

/-- The report on a refused argument. -/
def ArgumentError.message : ArgumentError → String
  | .integer error => error.message
  | .words error => error.message

/-- The line that reports an error. -/
def errorLine (message : String) : String :=
  "Error: " ++ message

/-- Show the report on a refused argument. -/
def refuse (monitor : Monitor) (error : ArgumentError) : Outcome :=
  { monitor, lines := [errorLine error.message] }

/-- An integer in a base. -/
def integer (base : Text.Base) (text : String) : Except ArgumentError Int :=
  (Text.readInteger base text).mapError .integer

/-- A number, whose marker tells its base. -/
def number (text : String) : Except ArgumentError Int :=
  integer .marked (Text.trimString text)

/-- A number, or another one where there is no argument. -/
def numberOr (fallback : Int) (text : String) : Except ArgumentError Int :=
  if (Text.trimString text).isEmpty then .ok fallback else number text

/-- The digit of a register name in lower case: what follows a `v`, where that is
one code point. -/
def digit? (name : String) : Option String :=
  match name.toList with
  | 'v' :: digit =>
    if (Text.codePoints digit).length = 1 then some (String.ofList digit) else none
  | _ => none

/-- The register a digit names. -/
def registerOf (digit : String) : Except ArgumentError Register := do
  return Fin.ofNat 16 (← integer .sixteen digit).toNat

/-- An address: a number, or the value of the program counter, the index or a
register. -/
def address (machine : Machine screenWidth screenHeight) (text : String) :
    Except ArgumentError Int :=
  let text := Text.lowerCase (Text.trimString text)
  match text, digit? text with
  | "pc", _ => .ok machine.pc
  | "i", _ => .ok machine.index
  | _, some digit => do return (machine.register (← registerOf digit)).toNat
  | _, none => integer .marked text

/-- The words of an argument. -/
def wordsOf (argument : String) : Except ArgumentError (List String) :=
  (Text.words argument).mapError .words

end Monitor

end ChipEight
