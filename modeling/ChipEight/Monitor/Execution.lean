import ChipEight.Instruction.Listing
import ChipEight.Monitor.Basic

/-!
# Execution under the monitor

Stepping shows every instruction that was executed, with the address where it
began.  Running goes frame by frame, each as many steps as the console's speed
and then a sixtieth of a second for the timers, until a breakpoint, a fault or a
wait for a key.  A run always executes its first instruction, even on a
breakpoint.
-/

namespace ChipEight.Monitor

/-- The text of the word at an address. -/
def textAt (machine : Machine screenWidth screenHeight) (address : Int) : String :=
  match Listing.rowAt machine.memory.toArray address with
  | .ok row => row.text
  | .error _ => ""

/-- The name of the register that waits for a key. -/
def waitingRegister (machine : Machine screenWidth screenHeight) : String :=
  match machine.wait with
  | some wait => wait.register.name
  | none => ""

/-- The line for an instruction executed at an address. -/
def executedLine (machine : Machine screenWidth screenHeight) (address : Int) : String :=
  "  " ++ Text.Hex.address address ++ ": " ++ Text.Hex.bare 4 machine.word.toNat ++ "  " ++
    textAt machine address

/-- Execute up to a number of instructions, and add the line of each to those
shown already. -/
def stepLines (console : Console) (shown : Array String) : Nat → Console × Array String
  | 0 => (console, shown)
  | count + 1 =>
    let address := console.machine.pc
    match console.cycle with
    | (console, .error fault) => (console, shown.push ("Fault: " ++ fault.message))
    | (console, .ok none) =>
      (console, shown.push ("  " ++ Text.Hex.address address ++ ": waiting for key -> " ++
        waitingRegister console.machine))
    | (console, .ok (some _)) =>
      stepLines console (shown.push (executedLine console.machine address)) count

/-- Why a run stopped. -/
inductive Stop where
  /-- The next instruction is at a breakpoint. -/
  | breakpoint (pc : Int)
  /-- An instruction did not execute. -/
  | fault (pc : Int) (cause : Fault)
  /-- The machine waits for a key. -/
  | waiting (register : String)
  deriving DecidableEq, Repr

/-- The line for a stop. -/
def Stop.line : Stop → String
  | .breakpoint pc => "Breakpoint hit at " ++ Text.Hex.address pc
  | .fault pc cause => "Fault at " ++ Text.Hex.address pc ++ ": " ++ cause.message
  | .waiting register => "Waiting for key -> " ++ register ++ " (use 'key press <n>')"

/-- Whether a run stops before the next instruction. -/
def atBreakpoint (breakpoints : List Int) (machine : Machine screenWidth screenHeight) : Bool :=
  machine.wait.isNone && breakpoints.contains machine.pc

/-- Run up to a number of steps.  The first step of a run is not held up by a
breakpoint. -/
def runSteps (breakpoints : List Int) (first : Bool) (console : Console) :
    Nat → Console × Option Stop
  | 0 => (console, none)
  | count + 1 =>
    if !first && atBreakpoint breakpoints console.machine then
      (console, some (.breakpoint console.machine.pc))
    else
      match console.cycle with
      | (console, .error fault) => (console, some (.fault console.machine.pc fault))
      | (console, .ok none) => (console, some (.waiting (waitingRegister console.machine)))
      | (console, .ok (some _)) => runSteps breakpoints false console count

/-- Let the time of a frame pass for the timers. -/
def passFrame (console : Console) : Console :=
  { console with machine := console.machine.updateTimers frameTime }

/-- Run up to a number of frames. -/
def runFrames (breakpoints : List Int) (first : Bool) (console : Console) :
    Nat → Console × Option Stop
  | 0 => (console, none)
  | count + 1 =>
    match runSteps breakpoints first console console.speed with
    | (console, some stop) => (console, some stop)
    | (console, none) => runFrames breakpoints false (passFrame console) count

/-- Execute instructions: one, or as many as the argument says. -/
def step (monitor : Monitor) (argument : String) : Except ArgumentError Outcome := do
  let count ← numberOr 1 argument
  let (console, lines) := stepLines monitor.console #[] count.toNat
  return { monitor := { monitor with console := console }, lines := lines.toList }

/-- The line for a run that went through all its frames.  Where the number of frames is
not written, the line says why. -/
def ranLine (count : Int) : String :=
  match Text.writeInteger count with
  | .ok shown => s!"Stopped after {shown} frames."
  | .error error => errorLine error.message

/-- Run frames: six hundred, or as many as the argument says. -/
def run (monitor : Monitor) (argument : String) : Except ArgumentError Outcome := do
  let count ← numberOr 600 argument
  let (console, stop) := runFrames monitor.breakpoints true monitor.console count.toNat
  let line := match stop with
    | some stop => stop.line
    | none => ranLine count
  return { monitor := { monitor with console := console }, lines := [line] }

/-- Let time pass for the timers: one frame, or as many as the argument says. -/
def tick (monitor : Monitor) (argument : String) : Except ArgumentError Outcome := do
  let count ← numberOr 1 argument
  let machine := count.toNat.repeat (·.updateTimers frameTime) monitor.machine
  return {
    monitor := monitor.withMachine machine
    lines := [s!"  DT={machine.delay.value}  ST={machine.sound.value}"] }

end ChipEight.Monitor
