import ChipEight.Text.Hex

/-!
# Faults

An instruction that would leave memory or the call stack does not execute: it
faults.  A fault names its cause; the report is derived from the cause.
-/

namespace ChipEight

/-- The size of memory in bytes. -/
abbrev memorySize : Nat := 4096

/-- Where programs are loaded and started. -/
abbrev programStart : Nat := 512

/-- The room for a program. -/
abbrev programRoom : Nat := memorySize - programStart

/-- How many calls may be pending. -/
abbrev stackDepth : Nat := 16

/-- Why an instruction did not execute. -/
inductive Fault where
  /-- `size` bytes at `address` do not lie within memory. -/
  | memory (address : Int) (size : Nat)
  /-- A call while the stack is full. -/
  | stackOverflow
  /-- A return while the stack is empty. -/
  | stackUnderflow
  deriving DecidableEq, Repr

/-- The report on a fault. -/
def Fault.message : Fault → String
  | .memory address size =>
    s!"Memory fault: {size} byte(s) at " ++ Text.Hex.address address ++
      " outside 0x000-" ++ Text.Hex.address (memorySize - 1)
  | .stackOverflow => s!"Stack overflow: call depth exceeds {stackDepth}"
  | .stackUnderflow => "Stack underflow: return with empty stack"

/-- A program without room in memory. -/
structure ProgramTooLarge where
  /-- The bytes of the program. -/
  size : Nat
  deriving DecidableEq, Repr

/-- The report on a program that is too large. -/
def ProgramTooLarge.message (refused : ProgramTooLarge) : String :=
  s!"ROM is too large, size: {refused.size} > {programRoom}"

end ChipEight
