import ChipEight.Machine.Basic

/-!
# Execution

One step fetches a word, decodes it and executes the instruction, or polls the
keypad while the machine waits for a key.  Unknown words are not faults: they are
reported and skipped.

A step is a sequence of actions on the machine, any of which may break off with a
fault.  What has been changed until then stays changed; only the program counter,
which has moved on by then, is put back.  So an instruction has to make all its
checks before its first write.

What a step shows to the outside is a list of events beside the new state; the
machine itself prints nothing and calls nobody.
-/

namespace ChipEight

/-- What a step shows to the outside. -/
inductive Event where
  /-- A fetched word, reported while debugging. -/
  | trace (address : Int) (word : Word)
  /-- A word that is no instruction. -/
  | unknown (address : Int) (word : Word)
  /-- The screen has been written. -/
  | drawn
  deriving DecidableEq, Repr

/-- How far a wait for a key has come. -/
inductive KeyWait.Progress where
  /-- It goes on. -/
  | waiting (wait : KeyWait)
  /-- It ends with a key. -/
  | finished (key : Key)
  deriving DecidableEq, Repr

/-- Look at the keypad for a pending wait.  Either it ends with the lowest key
down, or, on release, the lowest key down is remembered first and the wait ends
once that key is up. -/
def KeyWait.poll (wait : KeyWait) (onRelease : Bool) (keypad : Keypad) : KeyWait.Progress :=
  if onRelease then
    match wait.held with
    | none => .waiting { wait with held := keypad.lowest? }
    | some key => if keypad.isDown key then .waiting wait else .finished key
  else
    match keypad.lowest? with
    | none => .waiting wait
    | some key => .finished key

/-- The result of a two-register operation and the flag it sets, if any.  A shift
reads the second register where `second` says so. -/
def Arithmetic.apply (operation : Arithmetic) (second : Bool) (a b : UInt8) :
    UInt8 × Option UInt8 :=
  let shifted := if second then b else a
  match operation with
  | .copy => (b, none)
  | .or => (a ||| b, none)
  | .and => (a &&& b, none)
  | .xor => (a ^^^ b, none)
  | .add => (a + b, some (if a.toNat + b.toNat > 255 then 1 else 0))
  | .sub => (a - b, some (if b > a then 0 else 1))
  | .shiftRight => (shifted >>> 1, some (shifted &&& 1))
  | .subReverse => (b - a, some (if a > b then 0 else 1))
  | .shiftLeft => (shifted <<< 1, some (shifted >>> 7))

namespace Machine

variable {width height : Nat}

/-- The value of a register. -/
def register (machine : Machine width height) (register : Register) : UInt8 :=
  machine.registers[register]

/-- Set a register. -/
def setRegister (machine : Machine width height) (register : Register) (value : UInt8) :
    Machine width height :=
  { machine with registers := machine.registers.set register value }

/-- Set the flag register. -/
def setFlag (machine : Machine width height) (value : UInt8) : Machine width height :=
  machine.setRegister .flag value

/-- The digits of a byte in base ten. -/
def decimalDigits (value : UInt8) : Vector UInt8 3 :=
  #v[value / 100, value / 10 % 10, value % 10]

/-- The registers up to one of them. -/
def registersTo (machine : Machine width height) (x : Register) : Vector UInt8 (x.val + 1) :=
  Vector.ofFn fun offset => machine.register (offset.castLE x.isLt)

/-- Set the registers up to one of them. -/
def setRegistersTo (machine : Machine width height) (x : Register)
    (bytes : Vector UInt8 (x.val + 1)) : Machine width height :=
  { machine with
    registers := Vector.ofFn fun place =>
      if loaded : place.val < x.val + 1 then bytes[place.val] else machine.registers[place] }

/-- The word in a span of two bytes. -/
def wordAt (machine : Machine width height) (span : Span 2) : Word :=
  Word.ofBytes (machine.bytes span)[0] (machine.bytes span)[1]

end Machine

/-- A machine in the middle of a step. -/
structure Underway (width height : Nat) where
  /-- The machine as it stands. -/
  machine : Machine width height
  /-- What the step has shown so far, in order. -/
  events : List Event

/-- A part of a step.  A fault leaves the machine as it stands. -/
abbrev Stage (width height : Nat) :=
  EStateM Fault (Underway width height)

namespace Stage

variable {width height : Nat}

/-- The machine as it stands. -/
def machine : Stage width height (Machine width height) :=
  return (← get).machine

/-- Change the machine. -/
def update (change : Machine width height → Machine width height) : Stage width height Unit :=
  modify fun underway => { underway with machine := change underway.machine }

/-- Show an event. -/
def emit (event : Event) : Stage width height Unit :=
  modify fun underway => { underway with events := underway.events ++ [event] }

/-- The span at an address; a fault if it does not lie within memory. -/
def require (address : Int) (size : Nat) : Stage width height (Span size) :=
  match Span.at? address size with
  | some span => return span
  | none => throw (.memory address size)

/-- Go to an address, which must hold a whole word. -/
def jump (target : Int) : Stage width height Unit := do
  let _ ← require target 2
  update fun machine => { machine with pc := target }

/-- Skip a word if a condition holds. -/
def skipIf (condition : Bool) : Stage width height Unit := do
  if condition then
    update fun machine => { machine with pc := machine.pc + 2 }

/-- Set a register. -/
def setRegister (register : Register) (value : UInt8) : Stage width height Unit :=
  update fun machine => machine.setRegister register value

/-- Set the flag register, which always comes after the result. -/
def setFlag (value : UInt8) : Stage width height Unit :=
  update fun machine => machine.setFlag value

/-- Set the index. -/
def setIndex (index : Int) : Stage width height Unit :=
  update fun machine => { machine with index := index }

/-- Move the index past the bytes of a block transfer, where the machine does. -/
def advanceIndex (count : Nat) : Stage width height Unit := do
  let machine ← machine
  if machine.compatibility.indexAdvances then
    setIndex ((machine.index + count) % 65536)

/-- Look at the keypad for a pending wait; the result tells whether it ended.  A wait
that ends stores its key and moves on. -/
def poll (wait : KeyWait) : Stage width height Bool := do
  let machine ← machine
  match wait.poll machine.compatibility.keyOnRelease machine.keypad with
  | .waiting wait =>
    update fun machine => { machine with wait := some wait }
    return false
  | .finished key =>
    setRegister wait.register (UInt8.ofNat key.val)
    update fun machine => { machine with wait := none, pc := machine.pc + 2 }
    return true

/-- Execute an instruction, past which the program counter has moved already. -/
def execute (instruction : Instruction) : Stage width height Unit := do
  let machine ← machine
  match instruction with
  | .clear =>
    update fun machine => { machine with screen := .blank }
    emit .drawn
  | .return =>
    match machine.calls.top? with
    | none => throw .stackUnderflow
    | some caller =>
      jump (caller + 2)
      update fun machine => { machine with calls := machine.calls.pop }
  | .jump target => jump target.val
  | .call target =>
    if room : machine.calls.depth < stackDepth then
      let _ ← require target.val 2
      let called := machine.calls.push room (machine.pc - 2)
      update fun machine => { machine with calls := called }
      update fun machine => { machine with pc := target.val }
    else throw .stackOverflow
  | .skipIfByte x byte => skipIf (machine.register x == byte)
  | .skipUnlessByte x byte => skipIf (machine.register x != byte)
  | .skipIfEqual x y => skipIf (machine.register x == machine.register y)
  | .setByte x byte => setRegister x byte
  | .addByte x byte => setRegister x (machine.register x + byte)
  | .arithmetic operation x y =>
    let (result, flag) := operation.apply machine.compatibility.shiftUsesSecond
      (machine.register x) (machine.register y)
    setRegister x result
    match flag with
    | none => return
    | some value => setFlag value
  | .skipUnlessEqual x y => skipIf (machine.register x != machine.register y)
  | .setIndex target => setIndex target.val
  | .jumpOffset base =>
    let offset := machine.register <|
      if machine.compatibility.offsetUsesNamed then Instruction.offsetRegister base else 0
    jump (base.val + offset.toNat)
  | .random x mask =>
    update fun machine => { machine with random := machine.random.advance }
    setRegister x (machine.random.next &&& mask)
  | .draw x y rows =>
    let span ← require machine.index rows.val
    let sprite := (machine.bytes span).toList
    let column := (machine.register x).toNat
    let row := (machine.register y).toNat
    let collided := machine.screen.collides column row sprite
    update fun machine => { machine with screen := machine.screen.draw column row sprite }
    setFlag collided.toUInt8
    emit .drawn
  | .skipIfKey x => skipIf (machine.keypad.isDown (Key.ofInt (machine.register x).toNat))
  | .skipUnlessKey x => skipIf (!machine.keypad.isDown (Key.ofInt (machine.register x).toNat))
  | .readDelay x => setRegister x machine.delay.value
  | .waitKey x =>
    -- The program counter stays on the instruction until a key arrives.
    update fun machine => { machine with pc := machine.pc - 2 }
    update fun machine => { machine with wait := some ⟨x, none⟩ }
    let _ ← poll ⟨x, none⟩
  | .setDelay x =>
    update fun machine => { machine with delay := machine.delay.load (machine.register x) }
  | .setSound x =>
    update fun machine => { machine with sound := machine.sound.load (machine.register x) }
  | .addIndex x =>
    let total := machine.index + (machine.register x).toNat
    setIndex (total % 65536)
    setFlag (if total > 0xFFF then 1 else 0)
  | .glyph x => setIndex ((machine.register x).toNat * glyphBytes)
  | .decimal x =>
    let span ← require machine.index 3
    let digits := Machine.decimalDigits (machine.register x)
    update fun machine => machine.fill span digits
  | .store x =>
    let span ← require machine.index (x.val + 1)
    update fun machine => machine.fill span (machine.registersTo x)
    advanceIndex (x.val + 1)
  | .load x =>
    let span ← require machine.index (x.val + 1)
    update fun machine => machine.setRegistersTo x (machine.bytes span)
    advanceIndex (x.val + 1)
  | .unknown word =>
    update fun machine => { machine with unknowns := machine.unknowns + 1 }
    emit (.unknown (machine.pc - 2) word)

/-- Count an instruction. -/
def count : Stage width height Unit :=
  update fun machine => { machine with cycles := machine.cycles + 1 }

/-- A step of a machine that waits for a key: nothing is fetched. -/
def stepWaiting (wait : KeyWait) : Stage width height (Option Instruction) := do
  if ← poll wait then
    count
    return some (.decode (← machine).word)
  else
    return none

/-- Fetch the word at the program counter. -/
def fetch : Stage width height Word := do
  let machine ← machine
  let span ← require machine.pc 2
  update fun machine => { machine with word := machine.wordAt span }
  return machine.wordAt span

/-- Report a fetched word, while debugging. -/
def trace (word : Word) : Stage width height Unit := do
  let machine ← machine
  if machine.debug then emit (.trace machine.pc word)

/-- Execute an instruction at the program counter, which moves on before and is put
back by a fault. -/
def attempt (instruction : Instruction) : Stage width height Unit := do
  let pc := (← machine).pc
  update fun machine => { machine with pc := pc + 2 }
  try execute instruction
  catch fault =>
    update fun machine => { machine with pc := pc }
    throw fault

/-- A step that fetches and executes. -/
def stepFetching : Stage width height (Option Instruction) := do
  let word ← fetch
  let instruction := Instruction.decode word
  trace word
  attempt instruction
  count
  return some instruction

/-- A step.  It ends with an instruction, or with nothing while the machine waits
for a key. -/
def step : Stage width height (Option Instruction) := do
  match (← machine).wait with
  | some wait => stepWaiting wait
  | none => stepFetching

end Stage

/-- What a step leaves: the new state, what it showed, and how it ended.  It
ends with an instruction, with nothing while the machine waits for a key, or
with a fault. -/
structure StepResult (width height : Nat) where
  /-- The state after the step. -/
  machine : Machine width height
  /-- What the step showed, in order. -/
  events : List Event
  /-- How the step ended. -/
  outcome : Except Fault (Option Instruction)

/-- One step. -/
def Machine.step {width height : Nat} (machine : Machine width height) :
    StepResult width height :=
  match Stage.step.run ⟨machine, []⟩ with
  | .ok executed underway => ⟨underway.machine, underway.events, .ok executed⟩
  | .error fault underway => ⟨underway.machine, underway.events, .error fault⟩

end ChipEight
