import ChipEight.Countdown
import ChipEight.Framebuffer
import ChipEight.Instruction.Basic
import ChipEight.Keypad
import ChipEight.Machine.CallStack
import ChipEight.Machine.Compatibility
import ChipEight.Machine.Span
import ChipEight.RandomBytes

/-!
# The machine

The state of the machine, at power-on and between instructions, and the ways in
which its surroundings change it: loading a program, passing time, resetting.
Loading is a sequence of actions on the machine; where it breaks off, the machine is
left as it stands.

Memory and registers hold bytes by type.  The program counter and the index are
integers, since a host may set them to anything; the instructions check them
before use.
-/

namespace EStateM.Result

variable {ε σ τ α : Type}

/-- The state that is left, also where something has gone wrong. -/
def state : EStateM.Result ε σ α → σ
  | .ok _ state => state
  | .error _ state => state

/-- The value, or what has gone wrong. -/
def outcome : EStateM.Result ε σ α → Except ε α
  | .ok value _ => .ok value
  | .error refusal _ => .error refusal

/-- The same with another state left. -/
def onState (change : σ → τ) : EStateM.Result ε σ α → EStateM.Result ε τ α
  | .ok value state => .ok value (change state)
  | .error refusal state => .error refusal (change state)

@[simp]
theorem state_onState (change : σ → τ) (result : EStateM.Result ε σ α) :
    (result.onState change).state = change result.state := by
  cases result <;> rfl

@[simp]
theorem outcome_onState (change : σ → τ) (result : EStateM.Result ε σ α) :
    (result.onState change).outcome = result.outcome := by
  cases result <;> rfl

end EStateM.Result

namespace ChipEight

/-- A pending wait for a key. -/
structure KeyWait where
  /-- The register that receives the key. -/
  register : Register
  /-- The key seen down, where the wait ends when it comes up. -/
  held : Option Key
  deriving DecidableEq, Repr

/-- The state of a machine with a screen of the given size. -/
structure Machine (width height : Nat) where
  /-- The treatment of the disputed instructions. -/
  compatibility : Compatibility
  /-- Where random bytes come from. -/
  random : RandomBytes
  /-- The bytes of memory. -/
  memory : Memory
  /-- `V0` to `VF`. -/
  registers : Vector UInt8 16
  /-- The index register, an address. -/
  index : Int
  /-- The address of the next instruction. -/
  pc : Int
  /-- The pending calls. -/
  calls : CallStack
  /-- The word fetched last. -/
  word : Word
  /-- The grid of cells. -/
  screen : Framebuffer width height
  /-- The keys. -/
  keypad : Keypad
  /-- The timer that programs read. -/
  delay : Countdown Float
  /-- The timer that sounds the tone. -/
  sound : Countdown Float
  /-- The wait for a key that the machine is stalled on. -/
  wait : Option KeyWait
  /-- Whether fetched instructions are reported. -/
  debug : Bool
  /-- Instructions counted since power-on or reset. -/
  cycles : Nat
  /-- Unknown words met since power-on. -/
  unknowns : Nat
  /-- The size of the loaded program. -/
  programSize : Nat

/-- The bytes of one glyph. -/
abbrev glyphBytes : Nat := 5

/-- The glyphs of the sixteen digits, four cells wide, five rows each. -/
def glyphs : Array UInt8 := #[
  0xF0, 0x90, 0x90, 0x90, 0xF0,
  0x20, 0x60, 0x20, 0x20, 0x70,
  0xF0, 0x10, 0xF0, 0x80, 0xF0,
  0xF0, 0x10, 0xF0, 0x10, 0xF0,
  0x90, 0x90, 0xF0, 0x10, 0x10,
  0xF0, 0x80, 0xF0, 0x10, 0xF0,
  0xF0, 0x80, 0xF0, 0x90, 0xF0,
  0xF0, 0x10, 0x20, 0x40, 0x40,
  0xF0, 0x90, 0xF0, 0x90, 0xF0,
  0xF0, 0x90, 0xF0, 0x10, 0xF0,
  0xF0, 0x90, 0xF0, 0x90, 0x90,
  0xE0, 0x90, 0xE0, 0x90, 0xE0,
  0xF0, 0x80, 0x80, 0x80, 0xF0,
  0xE0, 0x90, 0x90, 0x90, 0xE0,
  0xF0, 0x80, 0xF0, 0x80, 0xF0,
  0xF0, 0x80, 0xF0, 0x80, 0x80]

namespace Machine

variable {width height : Nat}

/-- A machine at power-on: glyphs at the bottom of memory, all else zero, and
the program counter at the start of the program area. -/
def powerOn (compatibility : Compatibility) (random : RandomBytes) : Machine width height where
  compatibility := compatibility
  random := random
  memory := Vector.ofFn fun place => glyphs[place.val]?.getD 0
  registers := Vector.replicate 16 0
  index := 0
  pc := programStart
  calls := .empty
  word := 0
  screen := .blank
  keypad := .released
  delay := .zero
  sound := .zero
  wait := none
  debug := false
  cycles := 0
  unknowns := 0
  programSize := 0

/-- Back to power-on, except for the memory image, the keys, the source of
random bytes, the debug switch and the count of unknown words. -/
def reset (machine : Machine width height) : Machine width height :=
  { machine with
    registers := Vector.replicate 16 0
    index := 0
    pc := programStart
    calls := .empty
    word := 0
    screen := .blank
    delay := .zero
    sound := .zero
    wait := none
    cycles := 0 }

/-- The addresses of the pending calls, innermost first. -/
def stack (machine : Machine width height) : List Int :=
  machine.calls.live

@[simp]
theorem stack_powerOn (compatibility : Compatibility) (random : RandomBytes) :
    (powerOn compatibility random : Machine width height).stack = [] := rfl

@[simp]
theorem stack_reset (machine : Machine width height) : machine.reset.stack = [] := rfl

/-- Whether the tone sounds. -/
def tone (machine : Machine width height) : Bool :=
  machine.sound.active

/-- The bytes of a span of memory. -/
def bytes {size : Nat} (machine : Machine width height) (span : Span size) : Vector UInt8 size :=
  span.read machine.memory

/-- Replace the bytes of a span of memory. -/
def fill {size : Nat} (machine : Machine width height) (span : Span size)
    (bytes : Vector UInt8 size) : Machine width height :=
  { machine with memory := span.write machine.memory bytes }

/-- Read a byte for the host, which must name an address in memory. -/
def read (machine : Machine width height) (address : Int) : Except Fault UInt8 :=
  match Span.at? address 1 with
  | some span => .ok (machine.bytes span)[0]
  | none => .error (.memory address 1)

/-- Write the low eight bits of a value for the host, which must name an address
in memory. -/
def write (machine : Machine width height) (address value : Int) :
    Except Fault (Machine width height) :=
  match Span.at? address 1 with
  | some span => .ok (machine.fill span #v[UInt8.ofInt value])
  | none => .error (.memory address 1)

/-- Write consecutive bytes from an address on for the host; what falls outside
memory is dropped. -/
def writeBytes (machine : Machine width height) (address : Int) (bytes : List UInt8) :
    Machine width height :=
  bytes.zipIdx.foldl
    (fun machine entry =>
      match Span.at? (address + entry.2) 1 with
      | some span => machine.fill span #v[entry.1]
      | none => machine)
    machine

/-- Replace the bytes of a span of memory at once. -/
def splice {size : Nat} (machine : Machine width height) (span : Span size)
    (bytes : Vector UInt8 size) : Machine width height :=
  { machine with memory := span.splice machine.memory bytes }

/-- The part of memory that is for programs. -/
def programArea : Span programRoom :=
  ⟨programStart, Nat.le_refl _⟩

/-- A program that there is room for ends within memory. -/
theorem fits_of_room {size : Nat} (room : ¬ programRoom < size) :
    programStart + size ≤ memorySize := by
  simp only [programRoom, memorySize, programStart] at room ⊢
  omega

/-- Load a program, with its size as the result.  One without room is refused before
anything is written.  For any other one the program area is cleared, and then the program is
written at its start. -/
def load (program : Array UInt8) : EStateM ProgramTooLarge (Machine width height) Nat := do
  if tooLarge : programRoom < program.size then
    throw ⟨program.size⟩
  else
    modify (·.splice programArea (Vector.replicate programRoom 0))
    modify (·.splice ⟨programStart, fits_of_room tooLarge⟩ program.toVector)
    modify ({ · with programSize := program.size })
    return program.size

/-- Load a program into a machine. -/
def loadProgram (machine : Machine width height) (program : Array UInt8) :
    EStateM.Result ProgramTooLarge (Machine width height) Nat :=
  (load program).run machine

/-- Let time pass for both timers. -/
def updateTimers (machine : Machine width height) (elapsed : Float) : Machine width height :=
  { machine with
    delay := (machine.delay.advance elapsed).1
    sound := (machine.sound.advance elapsed).1 }

end Machine

end ChipEight
