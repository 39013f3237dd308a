import ChipEight.Proofs.Machine.Fetching
import ChipEight.Proofs.Machine.Memory

/-!
# What an instruction may change

Every instruction moves the program counter, and the latch of the fetched word and the
count of instructions change with each of them.  Of everything else, an instruction changes
no more than its footprint (`Instruction.footprint`), which depends on nothing but its
operands and the switches.  In particular a block transfer changes memory at the index
only, wherever the program itself may lie.

The actions of which instructions consist keep to a footprint one by one
(`AgreesOutside.setRegister` and its like), so that an instruction does.
-/

namespace ChipEight

/-! ## Footprints -/

/-- The parts of a machine that an instruction may change, beside the program counter, the
latch of the fetched word and the count of instructions. -/
structure Footprint where
  /-- How many bytes of memory, from the index on. -/
  bytes : Nat := 0
  /-- Which registers. -/
  registers : List Register := []
  /-- The cells of the screen. -/
  screen : Bool := false
  /-- The index. -/
  index : Bool := false
  /-- The first slot for a call that is not in use. -/
  slot : Bool := false
  /-- How many slots for calls are in use. -/
  depth : Bool := false
  /-- The value of the timer that programs read. -/
  delay : Bool := false
  /-- The value of the timer that sounds the tone. -/
  sound : Bool := false
  /-- The wait for a key. -/
  wait : Bool := false
  /-- The source of random bytes. -/
  random : Bool := false
  /-- The count of unknown words. -/
  unknowns : Bool := false
  deriving DecidableEq, Repr

/-- Nothing is claimed of a part that a footprint contains. -/
theorem Footprint.free {part : Bool} {claim : Prop} (contained : part = true) :
    part = false → claim := by
  rw [contained]
  exact fun omitted => absurd omitted (by decide)

/-- Whether a two-register operation sets the flag. -/
def Arithmetic.setsFlag : Arithmetic → Bool
  | .copy | .or | .and | .xor => false
  | .add | .sub | .shiftRight | .subReverse | .shiftLeft => true

/-- The footprint of an instruction. -/
def Instruction.footprint (switches : Compatibility) : Instruction → Footprint
  | .clear => { screen := true }
  | .return => { depth := true }
  | .call _ => { slot := true, depth := true }
  | .jump _ | .jumpOffset _ => {}
  | .skipIfByte _ _ | .skipUnlessByte _ _ | .skipIfEqual _ _ | .skipUnlessEqual _ _ => {}
  | .skipIfKey _ | .skipUnlessKey _ => {}
  | .setByte x _ | .addByte x _ | .readDelay x => { registers := [x] }
  | .arithmetic operation x _ =>
    { registers := if operation.setsFlag then [x, .flag] else [x] }
  | .setIndex _ | .glyph _ => { index := true }
  | .addIndex _ => { index := true, registers := [.flag] }
  | .random x _ => { registers := [x], random := true }
  | .draw _ _ _ => { screen := true, registers := [.flag] }
  | .waitKey x => { registers := [x], wait := true }
  | .setDelay _ => { delay := true }
  | .setSound _ => { sound := true }
  | .decimal _ => { bytes := 3 }
  | .store x => { bytes := x.val + 1, index := switches.indexAdvances }
  | .load x =>
    { registers := (List.finRange 16).filter (· ≤ x), index := switches.indexAdvances }
  | .unknown _ => { unknowns := true }

namespace Machine

variable {width height : Nat} {machine next : Machine width height} {footprint : Footprint}

/-- Whether two machines differ in no more than a footprint and in what changes with every
instruction.  Its bytes start at the index of the first machine.  The timers keep the time
that they have gathered in any case, and the host's own parts stay. -/
structure AgreesOutside (machine : Machine width height) (footprint : Footprint)
    (next : Machine width height) : Prop where
  memory : ∀ place : Fin memorySize,
    (place.val : Int) < machine.index ∨ machine.index + footprint.bytes ≤ place.val →
      next.memory.get place = machine.memory.get place
  registers : ∀ register ∉ footprint.registers, next.register register = machine.register register
  screen : footprint.screen = false → next.screen = machine.screen
  index : footprint.index = false → next.index = machine.index
  slots : ∀ slot : Fin stackDepth, footprint.slot = false ∨ slot.val ≠ machine.calls.depth →
    next.calls.slots.get slot = machine.calls.slots.get slot
  depth : footprint.depth = false → next.calls.depth = machine.calls.depth
  delay : footprint.delay = false → next.delay.value = machine.delay.value
  sound : footprint.sound = false → next.sound.value = machine.sound.value
  phases : next.delay.phase = machine.delay.phase ∧ next.sound.phase = machine.sound.phase
  wait : footprint.wait = false → next.wait = machine.wait
  random : footprint.random = false → next.random = machine.random
  unknowns : footprint.unknowns = false → next.unknowns = machine.unknowns
  keypad : next.keypad = machine.keypad
  compatibility : next.compatibility = machine.compatibility
  debug : next.debug = machine.debug
  programSize : next.programSize = machine.programSize

/-! ## Actions -/

theorem agreesOutside_self (machine : Machine width height) (footprint : Footprint) :
    machine.AgreesOutside footprint machine where
  memory _ _ := rfl
  registers _ _ := rfl
  screen _ := rfl
  index _ := rfl
  slots _ _ := rfl
  depth _ := rfl
  delay _ := rfl
  sound _ := rfl
  phases := ⟨rfl, rfl⟩
  wait _ := rfl
  random _ := rfl
  unknowns _ := rfl
  keypad := rfl
  compatibility := rfl
  debug := rfl
  programSize := rfl

theorem register_setRegister_of_ne (machine : Machine width height) {x other : Register}
    (value : UInt8) (distinct : other ≠ x) :
    (machine.setRegister x value).register other = machine.register other := by
  have distinctValues : x.val ≠ other.val := fun same => distinct (Fin.ext same.symm)
  exact Vector.getElem_set_ne x.isLt other.isLt distinctValues

theorem register_setRegistersTo_of_lt (machine : Machine width height) {x other : Register}
    (bytes : Vector UInt8 (x.val + 1)) (above : x < other) :
    (machine.setRegistersTo x bytes).register other = machine.register other := by
  have notLoaded : ¬ other.val < x.val + 1 := Nat.not_lt.mpr above
  exact (Vector.getElem_ofFn other.isLt).trans (dif_neg notLoaded)

namespace AgreesOutside

variable (agrees : machine.AgreesOutside footprint next)
include agrees

theorem setRegister {x : Register} (value : UInt8) (member : x ∈ footprint.registers) :
    machine.AgreesOutside footprint (next.setRegister x value) :=
  { agrees with
    registers := fun register outside => by
      have distinct : register ≠ x := fun same => outside (same ▸ member)
      rw [register_setRegister_of_ne next value distinct]
      exact agrees.registers register outside }

theorem setRegistersTo {x : Register} (bytes : Vector UInt8 (x.val + 1))
    (member : ∀ register ≤ x, register ∈ footprint.registers) :
    machine.AgreesOutside footprint (next.setRegistersTo x bytes) := by
  have kept (register : Register) (outside : register ∉ footprint.registers) :
      (next.setRegistersTo x bytes).register register = machine.register register := by
    have above : x < register := Fin.not_le.mp fun below => outside (member register below)
    rw [register_setRegistersTo_of_lt next bytes above]
    exact agrees.registers register outside
  rw [Machine.setRegistersTo] at kept ⊢
  exact { agrees with registers := kept }

theorem fill {span : Span footprint.bytes}
    (located : Span.at? machine.index footprint.bytes = some span)
    (bytes : Vector UInt8 footprint.bytes) :
    machine.AgreesOutside footprint (next.fill span bytes) :=
  { agrees with
    memory := fun place outside => by
      have index_eq := Span.at?_eq_some_iff.mp located
      have elsewhere (offset : Fin footprint.bytes) : span.place offset ≠ place := by
        rintro rfl
        have := offset.isLt
        simp only [Span.place] at outside
        omega
      exact (span.agreeOutside_write next.memory bytes place elsewhere).trans
        (agrees.memory place outside) }

theorem advanceIndex (count : Nat)
    (allowed : next.compatibility.indexAdvances = footprint.index) :
    machine.AgreesOutside footprint (next.advanceIndex count) := by
  rw [Machine.advanceIndex, allowed]
  split
  · rename_i moves
    exact { agrees with index := Footprint.free moves }
  · exact agrees

theorem compute {operation : Arithmetic} {x : Register} (y : Register)
    (member : x ∈ footprint.registers)
    (flagMember : operation.setsFlag → Register.flag ∈ footprint.registers) :
    machine.AgreesOutside footprint (next.compute operation x y) := by
  rw [Machine.compute]
  cases operation with
  | copy | or | and | xor => exact agrees.setRegister _ member
  | add | sub | shiftRight | subReverse | shiftLeft =>
    exact (agrees.setRegister _ member).setRegister _ (flagMember rfl)

theorem polled (wait : KeyWait) (waits : footprint.wait = true)
    (member : wait.register ∈ footprint.registers) :
    machine.AgreesOutside footprint (next.polled wait) := by
  rw [Machine.polled]
  cases wait.poll next.compatibility.keyOnRelease next.keypad with
  | waiting wait => exact { agrees with wait := Footprint.free waits }
  | finished key =>
    exact { agrees.setRegister (UInt8.ofNat key.val) member with wait := Footprint.free waits }

/-- A span that the footprint does not reach keeps its bytes. -/
theorem bytes_eq {size : Nat} (span : Span size)
    (untouched : ∀ offset < footprint.bytes, ∀ mine,
      machine.index + offset ≠ (span.place mine).val) :
    next.bytes span = machine.bytes span := by
  refine span.read_congr fun mine => agrees.memory _ ?_
  refine Classical.not_not.mp fun reached => ?_
  exact untouched ((span.place mine).val - machine.index).toNat (by omega) mine (by omega)

end AgreesOutside

/-! ## Instructions -/

/-- An instruction keeps to its footprint. -/
theorem agreesOutside_of_effect {instruction : Instruction}
    (executed : machine.effect instruction = .ok next) :
    machine.AgreesOutside (instruction.footprint machine.compatibility) next := by
  have unchanged := machine.agreesOutside_self (instruction.footprint machine.compatibility)
  have advanced : machine.AgreesOutside (instruction.footprint machine.compatibility)
      machine.advance := { unchanged with }
  cases instruction <;>
    simp only [effect, within_eq_ok_iff, Except.ok.injEq] at executed
  case «return» =>
    split at executed
    · contradiction
    · obtain ⟨span, located, rfl⟩ := within_eq_ok_iff.mp executed
      exact { unchanged with depth := Footprint.free rfl }
  case call =>
    split at executed
    · rename_i room
      obtain ⟨span, located, rfl⟩ := within_eq_ok_iff.mp executed
      have others (slot : Fin stackDepth) (other : slot.val ≠ machine.calls.depth) :
          (machine.calls.push room machine.pc).slots.get slot = machine.calls.slots.get slot :=
        Vector.getElem_set_ne room slot.isLt other.symm
      exact { unchanged with
        slots := fun slot outside => outside.elim (Footprint.free rfl) (others slot)
        depth := Footprint.free rfl }
    · contradiction
  case jump | jumpOffset =>
    obtain ⟨span, located, rfl⟩ := executed
    exact { unchanged with }
  case draw =>
    obtain ⟨span, located, rfl⟩ := executed
    refine AgreesOutside.setRegister ?_ _ (List.mem_singleton_self _)
    exact { advanced with screen := Footprint.free rfl }
  case decimal =>
    obtain ⟨span, located, rfl⟩ := executed
    exact advanced.fill located _
  case store x =>
    obtain ⟨span, located, rfl⟩ := executed
    exact (advanced.fill located _).advanceIndex _ rfl
  case load x =>
    obtain ⟨span, located, rfl⟩ := executed
    have loaded (register : Register) (below : register ≤ x) :
        register ∈ (List.finRange 16).filter (· ≤ x) := by simp [below]
    exact (advanced.setRegistersTo _ loaded).advanceIndex _ rfl
  -- The others check nothing before they act.
  all_goals subst executed
  case clear => exact { advanced with screen := Footprint.free rfl }
  case skipIfByte | skipUnlessByte | skipIfEqual | skipUnlessEqual | skipIfKey | skipUnlessKey =>
    exact { unchanged with }
  case setByte | addByte | readDelay => exact advanced.setRegister _ (List.mem_singleton_self _)
  case arithmetic operation x y =>
    refine advanced.compute y ?_ ?_
    · simp only [Instruction.footprint]
      split <;> simp
    · intro sets
      simp [Instruction.footprint, sets]
  case setIndex | glyph => exact { advanced with index := Footprint.free rfl }
  case random =>
    refine AgreesOutside.setRegister ?_ _ (List.mem_singleton_self _)
    exact { advanced with random := Footprint.free rfl }
  case waitKey x => exact unchanged.polled ⟨x, none⟩ rfl (List.mem_singleton_self _)
  case setDelay => exact { advanced with delay := Footprint.free rfl }
  case setSound => exact { advanced with sound := Footprint.free rfl }
  case addIndex =>
    refine AgreesOutside.setRegister ?_ _ (List.mem_singleton_self _)
    exact { advanced with index := Footprint.free rfl }
  case unknown => exact { advanced with unknowns := Footprint.free rfl }

/-- A wait that goes on has stored no key. -/
theorem registers_of_effect_of_waits {instruction : Instruction}
    (executed : machine.effect instruction = .ok next) (idle : machine.wait = none)
    (waits : next.wait ≠ none) : next.registers = machine.registers := by
  cases Machine.effects executed with
  | clears | draws | returns | calls => exact absurd idle waits
  | moves movesData keeps => exact absurd (keeps.wait.trans idle) waits
  | @asks x =>
    revert waits
    rw [Machine.polled]
    cases KeyWait.poll ⟨x, none⟩ machine.compatibility.keyOnRelease machine.keypad with
    | waiting wait => exact fun _ => rfl
    | finished key => exact fun waits => absurd rfl waits

/-- One random byte is drawn for `Cxnn` and none for any other word. -/
theorem random_of_effect {instruction : Instruction}
    (executed : machine.effect instruction = .ok next) :
    next.random = if instruction.drawsByte then machine.random.advance else machine.random := by
  cases instruction with
  | random x mask =>
    obtain rfl := Except.ok.inj executed
    rfl
  | _ => exact (agreesOutside_of_effect executed).random rfl

/-- Whatever word a machine that does not wait for a key finds at the program counter: if
its step does not fault, it changes nothing but the footprint of the instruction, beside
the program counter, the latch and the count of instructions.

A call puts its own address into the first slot that is not in use, and a return gives up
the innermost call without touching its slot; a random byte is drawn
where the instruction asks for one; no register changes while a wait goes on; and a word
without a pattern is counted and skipped. -/
theorem step_agreesOutside {executed : Option Instruction} (idle : machine.wait = none)
    (completed : machine.step.outcome = .ok executed) :
    ∃ instruction, machine.Reads instruction ∧ executed = some instruction ∧
      machine.AgreesOutside (instruction.footprint machine.compatibility) machine.step.machine ∧
      (∀ target, instruction = .call target →
        machine.step.machine.stack = machine.pc :: machine.stack) ∧
      (instruction = .return →
        ∃ caller, machine.stack = caller :: machine.step.machine.stack) ∧
      machine.step.machine.random =
        (if instruction.drawsByte then machine.random.advance else machine.random) ∧
      (machine.step.machine.wait ≠ none →
        machine.step.machine.registers = machine.registers) ∧
      (∀ word, instruction = .unknown word →
        machine.step.machine =
          { machine with
            pc := machine.pc + 2, word := word, cycles := machine.cycles + 1
            unknowns := machine.unknowns + 1 }) := by
  obtain ⟨instruction, span, next, reads, denotes, rfl, effect_eq, machine_eq⟩ :=
    exists_effect_of_outcome idle completed
  have agrees := agreesOutside_of_effect effect_eq
  have drawn := random_of_effect effect_eq
  have unstored := registers_of_effect_of_waits effect_eq idle
  rw [machine_eq]
  refine ⟨instruction, reads, rfl, { agrees with }, ?_, ?_, drawn, unstored, ?_⟩
  · rintro target rfl
    cases Machine.effects effect_eq with
    | calls room inside => exact CallStack.live_push _ room _
    | moves movesData => contradiction
  · rintro rfl
    cases Machine.effects effect_eq with
    | returns pushed inside => exact ⟨_, stack_of_top? pushed⟩
    | moves movesData => contradiction
  · rintro word rfl
    obtain rfl := denotes.eq_of_unknown
    obtain rfl := Except.ok.inj effect_eq
    rfl

/-- A machine about to store two registers over the very word that says so. -/
def overwriting : Machine 64 32 :=
  { powerOn .cosmac (.cycle #[]) with index := programStart }.act (.load #[0xF1, 0x55])

theorem overwriting_reads : overwriting.Reads (.store 1) :=
  reads_load _ (by decide) rfl rfl (by decide)

theorem overwriting_stores : overwriting.step.outcome = .ok (some (.store 1)) := by
  obtain ⟨span, -, outcome_eq, -⟩ := overwriting_reads.step rfl
  exact outcome_eq

/-- It changes the two bytes of that word and the index. -/
theorem overwriting_agreesOutside :
    overwriting.wait = none ∧ overwriting.step.outcome = .ok (some (.store 1)) ∧
      overwriting.AgreesOutside { bytes := 2, index := true } overwriting.step.machine := by
  obtain ⟨instruction, -, same, agrees, -⟩ := step_agreesOutside rfl overwriting_stores
  obtain rfl := Option.some.inj same
  exact ⟨rfl, overwriting_stores, agrees⟩

end Machine

end ChipEight
