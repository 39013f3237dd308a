import ChipEight.Proofs.Instruction.Pattern
import ChipEight.Proofs.Machine.Variation

/-!
# What a machine is about to do

A machine that does not wait for a key reads the word at the program counter and carries
out the instruction that the word denotes.  The step ends as the effect of that instruction
does (`Machine.Reads.step`); conversely, what a step completes has been read
(`Machine.exists_effect_of_outcome`).
-/

namespace ChipEight

namespace Machine

variable {width height : Nat} {machine : Machine width height} {instruction : Instruction}

/-- Whether the word at the program counter denotes an instruction. -/
def Reads (machine : Machine width height) (instruction : Instruction) : Prop :=
  ∃ span, Span.at? machine.pc 2 = some span ∧ (machine.wordAt span).Denotes instruction

theorem reads_iff :
    machine.Reads instruction ↔
      ∃ span, Span.at? machine.pc 2 = some span ∧ machine.instructionAt span = instruction := by
  simp only [Reads, instructionAt, Instruction.decode_eq_iff]

/-- Where there is a word at the program counter, it denotes an instruction. -/
theorem exists_reads (inside : inMemory machine.pc 2) :
    ∃ instruction, machine.Reads instruction := by
  cases fetched : Span.at? machine.pc 2 with
  | none => exact absurd inside (Span.at?_eq_none_iff.mp fetched)
  | some span => exact ⟨_, reads_iff.mpr ⟨span, fetched, rfl⟩⟩

theorem Reads.unique {other : Instruction} (reads : machine.Reads instruction)
    (alsoReads : machine.Reads other) : instruction = other := by
  obtain ⟨span, fetched, rfl⟩ := reads_iff.mp reads
  obtain ⟨same, fetchedSame, rfl⟩ := reads_iff.mp alsoReads
  rw [fetched] at fetchedSame
  obtain rfl := Option.some.inj fetchedSame
  rfl

theorem upcoming?_eq_some_iff :
    machine.upcoming? = some instruction ↔ machine.wait = none ∧ machine.Reads instruction := by
  rw [upcoming?, reads_iff]
  cases machine.wait with
  | none => simp only [Option.map_eq_some_iff, true_and]
  | some wait => simp only [reduceCtorEq, false_and]

/-- A loaded program is read from its first word on. -/
theorem reads_load (machine : Machine width height) {program : Array UInt8}
    (room : program.size ≤ programRoom) (idle : machine.wait = none)
    (atStart : machine.pc = programStart)
    (decoded :
      Instruction.decode (.ofBytes (program[0]?.getD 0) (program[1]?.getD 0)) = instruction) :
    (machine.act (.load program)).Reads instruction := by
  have upcoming := machine.upcoming?_load room idle atStart
  rw [decoded] at upcoming
  exact (upcoming?_eq_some_iff.mp upcoming).2

/-- The words of a loaded program, from the start of the program area on. -/
theorem wordAt_load (machine : Machine width height) {program : Array UInt8}
    (room : program.size ≤ programRoom) {span : Span 2} {offset : Nat}
    (start_eq : span.start = programStart + offset) :
    (machine.act (.load program)).wordAt span =
      .ofBytes (program[offset]?.getD 0) (program[offset + 1]?.getD 0) := by
  have high : ¬ span.start < programStart := by omega
  have low : ¬ span.start + 1 < programStart := by omega
  have high_eq : span.start - programStart = offset := by
    rw [start_eq, Nat.add_sub_cancel_left]
  have low_eq : span.start + 1 - programStart = offset + 1 := by
    rw [start_eq, Nat.add_assoc, Nat.add_sub_cancel_left]
  simp only [wordAt, bytes, Span.read, Span.place, machine.act_load room, Vector.getElem_ofFn,
    Fin.getElem_fin, Nat.add_zero]
  rw [if_neg high, if_neg low, high_eq, low_eq]

/-- A loaded program is read wherever the program counter stands in it. -/
theorem reads_load_at (machine : Machine width height) {program : Array UInt8}
    (room : program.size ≤ programRoom) {offset : Nat} (inside : offset + 2 ≤ programRoom)
    (decoded : Instruction.decode
      (.ofBytes (program[offset]?.getD 0) (program[offset + 1]?.getD 0)) = instruction) :
    { machine.act (.load program) with pc := (programStart + offset : Nat) }.Reads instruction := by
  have fits : programStart + offset + 2 ≤ memorySize := by
    simp only [programRoom, programStart, memorySize] at inside ⊢
    omega
  obtain ⟨span, start_eq⟩ : ∃ span : Span 2, span.start = programStart + offset :=
    ⟨⟨_, fits⟩, rfl⟩
  refine ⟨span, Span.at?_eq_some_iff.mpr (congrArg Nat.cast start_eq.symm), ?_⟩
  rw [← machine.wordAt_load room start_eq] at decoded
  exact Instruction.decode_eq_iff.mp decoded

theorem wordAt_congr {later : Machine width height} (sameMemory : later.memory = machine.memory)
    (span : Span 2) : later.wordAt span = machine.wordAt span := by
  rw [wordAt, wordAt, bytes, bytes, sameMemory]

/-- What is read depends on memory and the program counter only. -/
theorem Reads.congr {later : Machine width height} (reads : machine.Reads instruction)
    (samePc : later.pc = machine.pc) (sameMemory : later.memory = machine.memory) :
    later.Reads instruction := by
  obtain ⟨span, fetched, denotes⟩ := reads
  rw [← samePc] at fetched
  rw [← wordAt_congr sameMemory] at denotes
  exact ⟨span, fetched, denotes⟩

/-- What stands at an address is read there as long as memory stays the same. -/
theorem Reads.at_of_memory {later : Machine width height} {address other : Int}
    (reads : { machine with pc := address }.Reads instruction) (same : other = address)
    (sameMemory : later.memory = machine.memory) :
    { later with pc := other }.Reads instruction :=
  reads.congr same sameMemory

/-- A step that reads an instruction ends as its effect does. -/
theorem Reads.step (reads : machine.Reads instruction) (idle : machine.wait = none) :
    ∃ span, (machine.wordAt span).Denotes instruction ∧
      machine.step.outcome =
        ((machine.fetch span).effect instruction).map (fun _ => some instruction) ∧
      ∀ next, (machine.fetch span).effect instruction = .ok next →
        machine.step.machine = { next with cycles := machine.cycles + 1 } := by
  obtain ⟨span, fetched, denotes⟩ := reads
  obtain rfl : machine.instructionAt span = instruction := Instruction.decode_eq_iff.mpr denotes
  refine ⟨span, denotes, ?_⟩
  cases ended : (machine.fetch span).effect (machine.instructionAt span) with
  | error fault =>
    rw [machine.step_of_fault idle fetched ended]
    exact ⟨rfl, fun _ isOk => nomatch isOk⟩
  | ok next =>
    have cycles_eq : next.cycles = (machine.fetch span).cycles := cycles_of_effect ended
    rw [machine.step_of_effect idle fetched ended, cycles_eq]
    refine ⟨rfl, fun other same => ?_⟩
    obtain rfl := Except.ok.inj same
    rfl

/-- An instruction that never faults always completes. -/
theorem Reads.step_of_total {change : Machine width height → Machine width height}
    (reads : machine.Reads instruction) (idle : machine.wait = none)
    (total : ∀ start : Machine width height, start.effect instruction = .ok (change start)) :
    machine.step.outcome = .ok (some instruction) ∧
      ∃ span, machine.step.machine =
        { change (machine.fetch span) with cycles := machine.cycles + 1 } := by
  obtain ⟨span, -, outcome_eq, machine_eq⟩ := reads.step idle
  rw [total] at outcome_eq
  exact ⟨outcome_eq, span, machine_eq _ (total _)⟩

/-- A drawing whose sprite lies within memory completes. -/
theorem Reads.draws {x y : Register} {rows : Fin 16} {span : Span rows.val}
    (reads : machine.Reads (.draw x y rows)) (idle : machine.wait = none)
    (located : Span.at? machine.index rows.val = some span) :
    machine.step.outcome = .ok (some (.draw x y rows)) ∧
      ∃ word registers, machine.step.machine =
        { machine with
          pc := machine.pc + 2, word := word, cycles := machine.cycles + 1
          registers := registers
          screen := machine.screen.draw (machine.register x).toNat (machine.register y).toNat
            (machine.bytes span).toList } := by
  obtain ⟨word, -, outcome_eq, machine_eq⟩ := reads.step idle
  have fetched : Span.at? (machine.fetch word).index rows.val = some span := located
  simp only [effect, within, fetched] at outcome_eq machine_eq
  exact ⟨outcome_eq, _, _, machine_eq _ rfl⟩

/-- A step without a wait completes an instruction that it has read. -/
theorem exists_effect_of_outcome {executed : Option Instruction} (idle : machine.wait = none)
    (completed : machine.step.outcome = .ok executed) :
    ∃ instruction span next,
      machine.Reads instruction ∧ (machine.wordAt span).Denotes instruction ∧
        executed = some instruction ∧
        (machine.fetch span).effect instruction = .ok next ∧
        machine.step.machine = { next with cycles := machine.cycles + 1 } := by
  have inside : inMemory machine.pc 2 := by
    refine Classical.not_not.mp fun outside => ?_
    rw [machine.step_of_outside idle (Span.at?_eq_none_iff.mpr outside)] at completed
    contradiction
  obtain ⟨instruction, reads⟩ := exists_reads inside
  obtain ⟨span, denotes, outcome_eq, machine_eq⟩ := reads.step idle
  rw [completed] at outcome_eq
  cases ended : (machine.fetch span).effect instruction with
  | error fault =>
    rw [ended] at outcome_eq
    contradiction
  | ok next =>
    rw [ended] at outcome_eq
    exact ⟨instruction, span, next, reads, denotes, Except.ok.inj outcome_eq, ended,
      machine_eq next ended⟩

/-! ## Programs that begin by setting the index -/

/-- A machine that has executed the first word of a program. -/
def started (compatibility : Compatibility) (program : Array UInt8) : Machine 64 32 :=
  ((powerOn compatibility (.cycle #[])).act (.load program)).act .step

variable (compatibility : Compatibility) {program : Array UInt8}

/-- A program that begins by setting the index has changed nothing else. -/
theorem started_eq (room : program.size ≤ programRoom) {target : Address}
    (decoded : Instruction.decode (.ofBytes (program[0]?.getD 0) (program[1]?.getD 0)) =
      .setIndex target) :
    ∃ word, started compatibility program =
      { (powerOn compatibility (.cycle #[]) : Machine 64 32).act (.load program)
        with index := target.val, pc := (programStart + 2 : Nat), word := word, cycles := 1 } := by
  have idle : ((powerOn compatibility (.cycle #[]) : Machine 64 32).act (.load program)).wait =
      none := by
    rw [act_load _ room]
    rfl
  have reads :=
    reads_load (powerOn compatibility (.cycle #[]) : Machine 64 32) room rfl rfl decoded
  obtain ⟨-, span, machine_eq⟩ := reads.step_of_total idle fun _ => rfl
  rw [started, act, machine_eq]
  rw [act_load _ room]
  exact ⟨_, rfl⟩

/-- Such a program still stands in memory. -/
theorem started_reads (room : program.size ≤ programRoom) {target : Address}
    (first : Instruction.decode (.ofBytes (program[0]?.getD 0) (program[1]?.getD 0)) =
      .setIndex target)
    {offset : Nat} (inside : offset + 2 ≤ programRoom)
    (decoded : Instruction.decode
      (.ofBytes (program[offset]?.getD 0) (program[offset + 1]?.getD 0)) = instruction) :
    { started compatibility program with pc := (programStart + offset : Nat) }.Reads
      instruction := by
  obtain ⟨word, started_eq⟩ := started_eq compatibility room first
  have loaded :=
    reads_load_at (powerOn compatibility (.cycle #[]) : Machine 64 32) room inside decoded
  refine loaded.congr rfl ?_
  rw [started_eq]

end Machine

end ChipEight
