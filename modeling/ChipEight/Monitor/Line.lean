import ChipEight.Text.Blank

/-!
# Monitor lines

A line to the monitor is a command word and an argument.  Blanks around the line
do not count.  The command word is the longest run of letters, digits and
underscores at the beginning, and the argument is all that follows, without the
blanks around it.  A question mark at the beginning stands for the word `help`.
-/

namespace ChipEight.Monitor

/-- What a user can ask of the monitor. -/
inductive Verb where
  /-- Execute instructions. -/
  | step
  /-- Run frames. -/
  | run
  /-- Back to power-on. -/
  | reset
  /-- Set a breakpoint, or list them. -/
  | breakpoint
  /-- Remove breakpoints. -/
  | removeBreakpoint
  /-- Show the registers. -/
  | registers
  /-- Show everything. -/
  | status
  /-- Set a register. -/
  | setRegister
  /-- Show memory. -/
  | dump
  /-- Write memory. -/
  | setMemory
  /-- Show memory as instructions. -/
  | disassemble
  /-- Show the screen. -/
  | screen
  /-- Show or change the keys. -/
  | key
  /-- Let time pass. -/
  | tick
  /-- Show or set the speed. -/
  | speed
  /-- Turn the trace on or off. -/
  | debug
  /-- Leave the monitor. -/
  | quit
  /-- The end of the input. -/
  | endOfInput
  /-- Explain a command, or list them all. -/
  | help
  deriving DecidableEq, Repr

/-- The command of a word; some have a short word as well. -/
def Verb.ofWord? : String → Option Verb
  | "step" | "s" => some .step
  | "run" | "c" => some .run
  | "reset" => some .reset
  | "bp" => some .breakpoint
  | "bpd" => some .removeBreakpoint
  | "regs" => some .registers
  | "status" => some .status
  | "setreg" => some .setRegister
  | "dump" => some .dump
  | "setmem" => some .setMemory
  | "disasm" => some .disassemble
  | "screen" => some .screen
  | "key" => some .key
  | "tick" => some .tick
  | "speed" => some .speed
  | "debug" => some .debug
  | "quit" | "exit" | "q" => some .quit
  | "EOF" => some .endOfInput
  | "help" => some .help
  | _ => none

/-- A line as the monitor understands it. -/
inductive Line where
  /-- Nothing to do. -/
  | empty
  /-- A command with its argument. -/
  | command (verb : Verb) (argument : String)
  /-- A line that begins with no command. -/
  | unknown (text : String)
  deriving DecidableEq, Repr

namespace Line

/-- Whether a character may stand in a command word. -/
def inWord (c : Char) : Bool :=
  c.isAlphanum || c == '_'

/-- Divide a line without surrounding blanks into its word and its argument. -/
def split (text : List Char) : Line :=
  match Verb.ofWord? (String.ofList (text.takeWhile inWord)) with
  | some verb => .command verb (String.ofList (Text.trim (text.dropWhile inWord)))
  | none => .unknown (String.ofList text)

/-- Understand a line. -/
def parse (text : String) : Line :=
  match Text.trim text.toList with
  | [] => .empty
  | '?' :: rest => split ("help ".toList ++ rest)
  | text => split text

end Line

end ChipEight.Monitor
