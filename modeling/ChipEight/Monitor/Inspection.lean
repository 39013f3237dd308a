import ChipEight.Console.Report
import ChipEight.Monitor.Execution

/-!
# Inspection and change under the monitor

The commands that show or set breakpoints, registers, memory, keys and speed.
A memory dump shows sixteen bytes a row.  Addresses below zero count from the end
of memory, as they do in a listing, where a row would otherwise hold nothing.
-/

namespace ChipEight.Monitor

/-! ## Breakpoints -/

/-- Add an address to a list in ascending order, unless it is there already. -/
def insertAddress (address : Int) : List Int → List Int
  | [] => [address]
  | first :: rest =>
    if address < first then address :: first :: rest
    else if address = first then first :: rest
    else first :: insertAddress address rest

/-- Set a breakpoint, or list them where there is no argument. -/
def breakpoint (monitor : Monitor) (argument : String) : Except ArgumentError Outcome := do
  if (Text.trimString argument).isEmpty then
    let lines :=
      if monitor.breakpoints.isEmpty then ["No breakpoints set."]
      else "Breakpoints:" :: monitor.breakpoints.map fun place => "  " ++ Text.Hex.address place
    return { monitor, lines }
  else
    let place ← address monitor.machine argument
    return {
      monitor := { monitor with breakpoints := insertAddress place monitor.breakpoints }
      lines := ["Breakpoint set at " ++ Text.Hex.address place] }

/-- Remove one breakpoint or all of them. -/
def removeBreakpoint (monitor : Monitor) (argument : String) : Except ArgumentError Outcome := do
  if Text.lowerCase (Text.trimString argument) == "all" then
    return { monitor := { monitor with breakpoints := [] }, lines := ["All breakpoints cleared."] }
  else
    let place ← address monitor.machine argument
    return {
      monitor := { monitor with breakpoints := monitor.breakpoints.filter (· != place) }
      lines := ["Breakpoint at " ++ Text.Hex.address place ++ " removed."] }

/-! ## Registers -/

/-- What a register name denotes. -/
inductive Target where
  /-- The program counter, of twelve bits. -/
  | pc
  /-- The index, of sixteen bits. -/
  | index
  /-- The delay timer. -/
  | delay
  /-- The sound timer. -/
  | sound
  /-- One of the sixteen registers. -/
  | register (register : Register)
  deriving DecidableEq, Repr

/-- The target of a name in lower case, if the name denotes one. -/
def target? (name : String) : Except ArgumentError (Option Target) :=
  match name, digit? name with
  | "pc", _ => .ok (some .pc)
  | "i", _ => .ok (some .index)
  | "dt", _ => .ok (some .delay)
  | "st", _ => .ok (some .sound)
  | _, some digit => do return some (.register (← registerOf digit))
  | _, none => .ok none

/-- Set a target to the low bits of a value. -/
def assign (machine : Machine screenWidth screenHeight) (target : Target) (value : Int) :
    Machine screenWidth screenHeight :=
  match target with
  | .pc => { machine with pc := value % 4096 }
  | .index => { machine with index := value % 65536 }
  | .delay => { machine with delay := machine.delay.load (UInt8.ofInt value) }
  | .sound => { machine with sound := machine.sound.load (UInt8.ofInt value) }
  | .register register => machine.setRegister register (UInt8.ofInt value)

/-- Set a register, and show the value as it was given. -/
def setRegister (monitor : Monitor) (argument : String) : Except ArgumentError Outcome := do
  match ← wordsOf argument with
  | name :: value :: _ =>
    let name := Text.lowerCase name
    let value ← number value
    match ← target? name with
    | some target =>
      return {
        monitor := monitor.withMachine (assign monitor.machine target value)
        lines := ["  " ++ String.ofList (name.toList.map Char.toUpper) ++ " = " ++
          Text.Hex.marked 0 value] }
    | none => return { monitor, lines := ["Unknown register."] }
  | _ => return { monitor, lines := ["Usage: setreg <reg> <value>"] }

/-! ## Memory -/

/-- A place in memory from an address, counted from the end where it is negative
and held within memory. -/
def clampPlace (size : Nat) (address : Int) : Nat :=
  if address < 0 then (address + size).toNat else min address.toNat size

/-- The bytes from one address up to another. -/
def slice (memory : Array UInt8) (start stop : Int) : List UInt8 :=
  (memory.extract (clampPlace memory.size start) (clampPlace memory.size stop)).toList

/-- A row of a dump: the address where it begins, and its bytes. -/
structure DumpRow where
  /-- The address of the first byte. -/
  address : Int
  /-- At most sixteen bytes. -/
  bytes : List UInt8
  deriving DecidableEq, Repr

/-- The rows of a dump from one address up to another. -/
def dumpRows (memory : Array UInt8) (start stop : Int) : List DumpRow :=
  (List.range ((stop - start + 15) / 16).toNat).map fun (row : Nat) =>
    let first := start + 16 * row
    ⟨first, slice memory first (min (first + 16) stop)⟩

/-- The cells of a row: sixteen, blank where there is no byte. -/
def DumpRow.cells (row : DumpRow) : List String :=
  row.bytes.map (fun byte => Text.Hex.bare 2 byte.toNat) ++
    List.replicate (16 - row.bytes.length) "  "

/-- The line of a row, with a gap in the middle. -/
def DumpRow.line (row : DumpRow) : String :=
  "  " ++ Text.Hex.address row.address ++ ": " ++ " ".intercalate (row.cells.take 8) ++ "  " ++
    " ".intercalate (row.cells.drop 8)

/-- The number at the front of words, or another one where there is none. -/
def countOr (fallback : Int) : List String → Except ArgumentError Int
  | count :: _ => number count
  | [] => .ok fallback

/-- The address at the front of words, or another one where there is none. -/
def addressOr (machine : Machine screenWidth screenHeight) (fallback : Int) :
    List String → Except ArgumentError Int
  | place :: _ => address machine place
  | [] => .ok fallback

/-- Show memory: sixty-four bytes, or as many as the argument says. -/
def dump (monitor : Monitor) (argument : String) : Except ArgumentError Outcome := do
  match ← wordsOf argument with
  | [] => return { monitor, lines := ["Usage: dump <address> [count]"] }
  | place :: rest =>
    let start ← address monitor.machine place
    let count ← countOr 64 rest
    let rows := dumpRows monitor.machine.memory.toArray start (min (start + count) memorySize)
    return { monitor, lines := rows.map DumpRow.line }

/-- Write numbers to consecutive addresses, up to the first number or address that
is refused. -/
def writeNumbers (machine : Machine screenWidth screenHeight) (place : Int) :
    List (Except ArgumentError Int) → Machine screenWidth screenHeight × Option String
  | [] => (machine, none)
  | .error error :: _ => (machine, some error.message)
  | .ok value :: rest =>
    match machine.write place value with
    | .error fault => (machine, some fault.message)
    | .ok written => writeNumbers written (place + 1) rest

/-- Write numbers to memory, and show how many.  What precedes an error stays
written. -/
def writeFrom (monitor : Monitor) (start : Int) (numbers : List (Except ArgumentError Int)) :
    Outcome :=
  let written := writeNumbers monitor.machine start numbers
  let line := match written.2 with
    | some message => errorLine message
    | none => s!"  Wrote {numbers.length} bytes at " ++ Text.Hex.address start
  { monitor := monitor.withMachine written.1, lines := [line] }

/-- Write bytes to memory. -/
def setMemory (monitor : Monitor) (argument : String) : Except ArgumentError Outcome := do
  match ← wordsOf argument with
  | place :: first :: rest =>
    let start ← address monitor.machine place
    return monitor.writeFrom start ((first :: rest).map number)
  | _ => return { monitor, lines := ["Usage: setmem <addr> <byte...>"] }

/-- The line of a listing row, with a mark at the next instruction. -/
def listingLine (pc : Int) (row : Listing.Row) : String :=
  "  " ++ (if row.address = pc then ">>>" else "   ") ++ " " ++ row.line

/-- Show memory as instructions: sixteen from the program counter on, or as the
argument says. -/
def disassemble (monitor : Monitor) (argument : String) : Except ArgumentError Outcome := do
  let words ← wordsOf argument
  let start ← addressOr monitor.machine monitor.machine.pc words
  let count ← countOr 16 words.tail
  match Listing.rows monitor.machine.memory.toArray start count.toNat with
  | .ok rows => return { monitor, lines := rows.map (listingLine monitor.machine.pc) }
  | .error error => return { monitor, ending := .leftMemory error }

/-! ## Keys, speed and trace -/

/-- How the command for keys is used. -/
def keyUsage : String :=
  "Usage: key press <n> | key release <n> | key clear"

/-- Show the keys that are down, or change keys. -/
def key (monitor : Monitor) (argument : String) : Except ArgumentError Outcome := do
  let keypad := monitor.machine.keypad
  let become (keypad : Keypad) : Outcome :=
    { monitor := monitor.withMachine { monitor.machine with keypad := keypad } }
  match ← wordsOf argument with
  | [] => return { monitor, lines := ["  Keys down: " ++ keysText keypad.pressed] }
  | action :: rest =>
    match Text.lowerCase action, rest with
    | "clear", _ => return become .released
    | "press", digit :: _ => return become (keypad.press (Key.ofInt (← integer .sixteen digit)))
    | "release", digit :: _ =>
      return become (keypad.release (Key.ofInt (← integer .sixteen digit)))
    | _, _ => return { monitor, lines := [keyUsage] }

/-- Show the speed, or set it. -/
def speed (monitor : Monitor) (argument : String) : Except ArgumentError Outcome := do
  if (Text.trimString argument).isEmpty then
    return { monitor, lines := [s!"  Speed: {monitor.console.speed}"] }
  else
    return { monitor := { monitor with console := monitor.console.setSpeed (← number argument) } }

/-- Turn the trace on or off. -/
def debug (monitor : Monitor) : Outcome :=
  let console := monitor.console.toggleDebug
  { monitor := { monitor with console := console }
    lines := ["  Debug trace " ++ if console.machine.debug then "on" else "off"] }

end ChipEight.Monitor
