import ChipEight.Proofs.Machine.Faulting

/-!
# Where a program goes on

After each instruction the program goes on at one place (`Machine.successor?`): where the
instruction leads, or else behind it, past one more word if the instruction skips.  Only a
wait for a key stays where it is, until it ends.

The place behind an instruction may lie outside memory, by two words at most.  That is no
fault of the instruction; the next step faults instead (`Machine.pc_step`).
-/

namespace ChipEight

theorem Key.ofInt_natCast (number : Nat) : Key.ofInt number = Fin.ofNat 16 number := by
  apply Fin.ext
  simp only [ofInt, Fin.val_ofNat]
  omega

/-- Whether an instruction never goes on behind itself. -/
def Instruction.leadsAway : Instruction → Bool
  | .return | .jump _ | .call _ | .jumpOffset _ => true
  | _ => false

namespace Machine

variable {width height : Nat}

/-- Whether an instruction skips the next word.  Of a register that names a key, the last
digit counts. -/
def skips (machine : Machine width height) : Instruction → Bool
  | .skipIfByte x byte => machine.register x == byte
  | .skipUnlessByte x byte => machine.register x != byte
  | .skipIfEqual x y => machine.register x == machine.register y
  | .skipUnlessEqual x y => machine.register x != machine.register y
  | .skipIfKey x => machine.keypad.isDown (Fin.ofNat 16 (machine.register x).toNat)
  | .skipUnlessKey x => !machine.keypad.isDown (Fin.ofNat 16 (machine.register x).toNat)
  | _ => false

/-- Where the program goes on after an instruction. -/
def successor? (machine : Machine width height) (instruction : Instruction) : Option Int :=
  if instruction.leadsAway then machine.target? instruction
  else some (machine.pc + if machine.skips instruction then 4 else 2)

variable {machine next : Machine width height} {instruction : Instruction}

/-! ## Effects -/

theorem target?_of_effect (executed : machine.effect instruction = .ok next)
    (leads : instruction.leadsAway) : machine.target? instruction = some next.pc := by
  cases instruction with
  | jump | jumpOffset =>
    obtain ⟨span, located, rfl⟩ := within_eq_ok_iff.mp executed
    rfl
  | call target =>
    cases Machine.effects executed with
    | calls => rfl
    | moves movesData => contradiction
  | «return» =>
    cases Machine.effects executed with
    | returns pushed inside =>
      exact congrArg (Option.map (· + 2)) ((top?_calls machine).symm.trans pushed)
    | moves movesData => contradiction
  | _ => contradiction

/-- An instruction that goes on behind itself moves the program counter once, or twice where
it skips. -/
theorem pc_of_effect (executed : machine.effect instruction = .ok next)
    (stays : instruction.leadsAway = false) (noWait : ∀ x, instruction ≠ .waitKey x) :
    next.pc = machine.pc + if machine.skips instruction then 4 else 2 := by
  cases instruction with
  | «return» | jump | call | jumpOffset => contradiction
  | waitKey x => exact absurd rfl (noWait x)
  | skipIfKey | skipUnlessKey =>
    obtain rfl := Except.ok.inj executed
    rw [skipIf, Key.ofInt_natCast]
    rfl
  | draw | decimal =>
    obtain ⟨span, located, rfl⟩ := within_eq_ok_iff.mp executed
    rfl
  | store x | load x =>
    obtain ⟨span, located, rfl⟩ := within_eq_ok_iff.mp executed
    obtain ⟨index, moved, -⟩ := advanceIndex_eq _ (x.val + 1)
    rw [moved]
    rfl
  | arithmetic operation x y =>
    obtain rfl := Except.ok.inj executed
    obtain ⟨registers, computed⟩ := machine.advance.compute_eq operation x y
    rw [computed]
    rfl
  | _ =>
    obtain rfl := Except.ok.inj executed
    rfl

theorem pc_of_waitKey {x : Register} (executed : machine.effect (.waitKey x) = .ok next) :
    next.wait ≠ none ∧ next.pc = machine.pc ∨ next.wait = none ∧ next.pc = machine.pc + 2 := by
  obtain rfl := Except.ok.inj executed
  rw [polled]
  split
  · exact .inl ⟨Option.some_ne_none _, rfl⟩
  · exact .inr ⟨rfl, rfl⟩

theorem wait_of_effect (executed : machine.effect instruction = .ok next)
    (noWait : ∀ x, instruction ≠ .waitKey x) : next.wait = machine.wait := by
  cases Machine.effects executed with
  | clears | returns | calls | draws => rfl
  | asks => exact absurd rfl (noWait _)
  | moves movesData keeps => exact keeps.wait

/-- An instruction either begins a wait, where it is, or goes on at its successor. -/
theorem successor?_of_effect (executed : machine.effect instruction = .ok next)
    (idle : machine.wait = none) :
    (∃ x, instruction = .waitKey x) ∧ next.wait ≠ none ∧ next.pc = machine.pc ∨
      next.wait = none ∧ machine.successor? instruction = some next.pc := by
  by_cases asks : ∃ x, instruction = .waitKey x
  · obtain ⟨x, rfl⟩ := asks
    rcases pc_of_waitKey executed with ⟨waits, pc_eq⟩ | ⟨ended, pc_eq⟩
    · exact .inl ⟨⟨x, rfl⟩, waits, pc_eq⟩
    · rw [pc_eq]
      exact .inr ⟨ended, rfl⟩
  · have noWait := not_exists.mp asks
    refine .inr ⟨(wait_of_effect executed noWait).trans idle, ?_⟩
    cases leads : instruction.leadsAway with
    | true => rw [successor?, if_pos leads, target?_of_effect executed leads]
    | false => rw [successor?, leads, pc_of_effect executed leads noWait, if_neg Bool.false_ne_true]

/-! ## Steps -/

/-- A wait that ends goes on behind the instruction that began it. -/
theorem Sound.pc_step_of_waiting (sound : machine.Sound) (waits : machine.wait ≠ none)
    (completed : machine.step.outcome = .ok (some instruction)) :
    (∃ x, instruction = .waitKey x) ∧ machine.step.machine.wait = none ∧
      machine.step.machine.pc = machine.pc + 2 := by
  have steps := machine.steps_step
  generalize machine.step = result at steps completed
  cases steps with
  | leaves idle | faults idle | executes idle => exact absurd idle waits
  | waits => cases completed
  | @finishes wait key pending polled =>
    obtain rfl := Option.some.inj (Except.ok.inj completed)
    exact ⟨⟨wait.register, (sound.wait wait pending).2⟩, rfl, rfl⟩

/-- A fetched instruction begins a wait or goes on at its successor. -/
theorem pc_step_of_idle (idle : machine.wait = none)
    (completed : machine.step.outcome = .ok (some instruction)) :
    machine.Reads instruction ∧
      ((∃ x, instruction = .waitKey x) ∧ machine.step.machine.wait ≠ none ∧
          machine.step.machine.pc = machine.pc ∨
        machine.step.machine.wait = none ∧
          machine.successor? instruction = some machine.step.machine.pc) := by
  obtain ⟨_, span, next, reads, -, same, effect_eq, machine_eq⟩ :=
    exists_effect_of_outcome idle completed
  obtain rfl := Option.some.inj same
  have goesOn := successor?_of_effect effect_eq idle
  rw [machine_eq]
  exact ⟨reads, goesOn⟩

theorem leadsAway_of_target? {target : Int}
    (target_eq : machine.target? instruction = some target) : instruction.leadsAway := by
  cases instruction with
  | «return» | jump | call | jumpOffset => rfl
  | _ => cases target_eq

/-- An instruction that goes on behind itself and moves no block completes, wherever that
place is. -/
theorem Sound.outcome_of_stays (sound : machine.Sound) (idle : machine.wait = none)
    (reads : machine.Reads instruction) (stays : instruction.leadsAway = false)
    (noBlock : instruction.block? = none) : machine.step.outcome = .ok (some instruction) := by
  apply (sound.outcome_of_reads idle reads).2
  intro fault faults
  cases faults with
  | empty | full => contradiction
  | leads target_eq =>
    rw [leadsAway_of_target? target_eq] at stays
    contradiction
  | moves block =>
    rw [noBlock] at block
    contradiction

theorem Sound.step_of_stays (sound : machine.Sound) (idle : machine.wait = none)
    (reads : machine.Reads instruction) (stays : instruction.leadsAway = false)
    (noBlock : instruction.block? = none) (noWait : ∀ x, instruction ≠ .waitKey x) :
    machine.step.outcome = .ok (some instruction) ∧
      machine.step.machine.pc = machine.pc + if machine.skips instruction then 4 else 2 := by
  have completed := sound.outcome_of_stays idle reads stays noBlock
  refine ⟨completed, ?_⟩
  obtain ⟨-, ⟨⟨x, asks⟩, -⟩ | ⟨-, goesOn⟩⟩ := pc_step_of_idle idle completed
  · exact absurd asks (noWait x)
  · rw [successor?, stays, if_neg Bool.false_ne_true] at goesOn
    exact (Option.some.inj goesOn).symm

/-- The two skips by a key complete for every value of their register, and one skips
exactly where the other does not. -/
theorem Sound.pc_step_of_key (sound : machine.Sound) (idle : machine.wait = none)
    {x : Register} {down : Bool}
    (pressed : machine.keypad.isDown (Fin.ofNat 16 (machine.register x).toNat) = down) :
    (machine.Reads (.skipIfKey x) →
        machine.step.outcome = .ok (some (.skipIfKey x)) ∧
          machine.step.machine.pc = machine.pc + if down then 4 else 2) ∧
      (machine.Reads (.skipUnlessKey x) →
        machine.step.outcome = .ok (some (.skipUnlessKey x)) ∧
          machine.step.machine.pc = machine.pc + if down then 2 else 4) := by
  constructor
  · intro reads
    obtain ⟨completed, pc_eq⟩ := sound.step_of_stays idle reads rfl rfl nofun
    rw [skips, pressed] at pc_eq
    exact ⟨completed, pc_eq⟩
  · intro reads
    obtain ⟨completed, pc_eq⟩ := sound.step_of_stays idle reads rfl rfl nofun
    rw [skips, pressed] at pc_eq
    refine ⟨completed, pc_eq.trans ?_⟩
    cases down with
    | false => rfl
    | true => rfl

/-- After a jump the machine is about to read what stands at its target. -/
theorem Reads.of_jump {target : Address} {span : Span 2} (reads : machine.Reads (.jump target))
    (idle : machine.wait = none) (start_eq : span.start = target.val)
    (denotes : (machine.wordAt span).Denotes instruction) :
    machine.step.machine.wait = none ∧ machine.step.machine.pc = target.val ∧
      machine.step.machine.registers = machine.registers ∧
      machine.step.machine.Reads instruction := by
  obtain ⟨fetched, -, -, machine_eq⟩ := reads.step idle
  have located : Span.at? (target.val : Int) 2 = some span :=
    Span.at?_eq_some_iff.mpr (congrArg Nat.cast start_eq.symm)
  have effect_eq : (machine.fetch fetched).effect (.jump target) =
      .ok { machine.fetch fetched with pc := target.val } :=
    within_eq_ok_iff.mpr ⟨span, located, rfl⟩
  rw [machine_eq _ effect_eq]
  exact ⟨idle, rfl, rfl, span, located, denotes⟩

/-- Where the program goes on after a completed instruction: behind the instruction that
began a wait, where the wait ends; where it is, for a wait that begins; and at the successor
of the instruction in every other case.

An instruction that goes on behind itself does not fault for it, by whatever key it skips.
It may leave memory, and then the next step faults. -/
theorem pc_step (reachable : Reachable machine) :
    (∀ instruction, machine.step.outcome = .ok (some instruction) →
      (machine.wait ≠ none →
        (∃ x, instruction = .waitKey x) ∧ machine.step.machine.wait = none ∧
          machine.step.machine.pc = machine.pc + 2) ∧
      (machine.wait = none →
        machine.Reads instruction ∧
          ((∃ x, instruction = .waitKey x) ∧ machine.step.machine.wait ≠ none ∧
              machine.step.machine.pc = machine.pc ∨
            machine.step.machine.wait = none ∧
              machine.successor? instruction = some machine.step.machine.pc)) ∧
      machine.step.machine.pc ≤ 0x1002 ∧
      (0xFFE < machine.step.machine.pc →
        machine.step.machine.step.outcome = .error (.memory machine.step.machine.pc 2))) ∧
    (machine.wait = none → ∀ instruction, machine.Reads instruction →
      instruction.leadsAway = false → instruction.block? = none →
        machine.step.outcome = .ok (some instruction)) ∧
    (machine.wait = none → ∀ x down,
      machine.keypad.isDown (Fin.ofNat 16 (machine.register x).toNat) = down →
        (machine.Reads (.skipIfKey x) →
          machine.step.outcome = .ok (some (.skipIfKey x)) ∧
            machine.step.machine.pc = machine.pc + if down then 4 else 2) ∧
        (machine.Reads (.skipUnlessKey x) →
          machine.step.outcome = .ok (some (.skipUnlessKey x)) ∧
            machine.step.machine.pc = machine.pc + if down then 2 else 4)) := by
  have sound := reachable.sound
  refine ⟨fun instruction completed => ?_, fun idle instruction => sound.outcome_of_stays idle,
    fun idle x down => sound.pc_step_of_key idle⟩
  refine ⟨fun waits => sound.pc_step_of_waiting waits completed,
    fun idle => pc_step_of_idle idle completed, sound.step.pc.2, fun outside => ?_⟩
  have nextIdle : machine.step.machine.wait = none := by
    by_cases idle : machine.wait = none
    · obtain ⟨⟨span, fetched, -⟩, ⟨-, -, pc_eq⟩ | ⟨ended, -⟩⟩ := pc_step_of_idle idle completed
      · -- A wait that begins stands on a whole word.
        have bounds := inMemory_iff.mp (Span.inMemory_of_at?_eq_some fetched)
        simp only [memorySize] at bounds
        omega
      · exact ended
    · exact (sound.pc_step_of_waiting idle completed).2.1
  rw [step_of_pc_outside nextIdle outside]

/-- A program that fills its area: it jumps to the last word of memory, where it skips. -/
def overshootingProgram : Array UInt8 :=
  Array.ofFn fun place : Fin programRoom =>
    if place.val = 0 then 0x1F
    else if place.val = 1 then 0xFE
    else if place.val = 0xDFE then 0x30
    else 0

theorem overshootingProgram_room : overshootingProgram.size ≤ programRoom :=
  Nat.le_of_eq Array.size_ofFn

theorem overshootingProgram_getD {place : Nat} (inside : place < programRoom) :
    overshootingProgram[place]?.getD 0 =
      if place = 0 then 0x1F else if place = 1 then 0xFE else if place = 0xDFE then 0x30
      else 0 := by
  rw [overshootingProgram, Array.getElem?_ofFn, dif_pos inside]
  rfl

/-- A machine about to jump to the last word of memory. -/
def approaching : Machine screenWidth screenHeight :=
  (powerOn .reference (.cycle #[])).act (.load overshootingProgram)

theorem approaching_reads : approaching.Reads (.jump 0xFFE) := by
  apply reads_load _ overshootingProgram_room rfl rfl
  rw [overshootingProgram_getD (by decide), overshootingProgram_getD (by decide)]
  decide

/-- A machine about to skip there. -/
def overshooting : Machine screenWidth screenHeight :=
  approaching.act .step

theorem overshooting_reachable : Reachable overshooting :=
  ((Reachable.usualPowerOn .reference (.cycle #[])).act (.load overshootingProgram)).act .step

theorem approaching_eq :
    approaching.wait = none ∧ approaching.register 0 = 0 ∧
      approaching.wordAt ⟨0xFFE, by decide⟩ = 0x3000 := by
  rw [approaching, act_load _ overshootingProgram_room]
  refine ⟨rfl, rfl, ?_⟩
  simp only [wordAt, bytes, Span.read, Span.place, Vector.getElem_ofFn, Fin.getElem_fin]
  rw [if_neg (by decide), if_neg (by decide), overshootingProgram_getD (by decide),
    overshootingProgram_getD (by decide)]
  decide

theorem overshooting_skips :
    overshooting.wait = none ∧ overshooting.pc = 0xFFE ∧ overshooting.register 0 = 0 ∧
      overshooting.Reads (.skipIfByte 0 0) := by
  obtain ⟨idle, register_eq, word_eq⟩ := approaching_eq
  have denotes : (approaching.wordAt ⟨0xFFE, by decide⟩).Denotes (.skipIfByte 0 0) := by
    rw [word_eq]
    exact Instruction.decode_eq_iff.mp (by decide)
  obtain ⟨nextIdle, pc_eq, registers_eq, reads⟩ := approaching_reads.of_jump idle rfl denotes
  rw [overshooting, act]
  refine ⟨nextIdle, pc_eq.trans (by decide), ?_, reads⟩
  rw [register, registers_eq]
  exact register_eq

/-- The skip itself completes; what faults is the step after it. -/
theorem overshooting_pc :
    Reachable overshooting ∧ overshooting.step.outcome = .ok (some (.skipIfByte 0 0)) ∧
      overshooting.step.machine.pc = 0x1002 ∧
      overshooting.step.machine.step.outcome = .error (.memory 0x1002 2) := by
  obtain ⟨idle, pc_eq, register_eq, reads⟩ := overshooting_skips
  obtain ⟨goesOn, stays, -⟩ := pc_step overshooting_reachable
  have completed := stays idle _ reads rfl rfl
  obtain ⟨-, fromIdle, -, outside⟩ := goesOn _ completed
  obtain ⟨-, ⟨⟨x, asks⟩, -⟩ | ⟨-, successor_eq⟩⟩ := fromIdle idle
  · cases asks
  · have target_eq : overshooting.successor? (.skipIfByte 0 0) = some 0x1002 := by
      simp [successor?, Instruction.leadsAway, skips, register_eq, pc_eq]
    rw [target_eq] at successor_eq
    have next_pc := Option.some.inj successor_eq
    rw [← next_pc] at outside
    exact ⟨overshooting_reachable, completed, next_pc.symm, outside (by decide)⟩

end Machine

end ChipEight
