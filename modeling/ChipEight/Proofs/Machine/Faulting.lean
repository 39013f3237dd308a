import ChipEight.Proofs.Machine.Fetching
import ChipEight.Proofs.Safety

/-!
# When a step faults

An instruction can fault in two ways.  It leads to another place, which has to hold a
whole word and where calls and returns need the stack; or it moves a block of bytes at the
index, which has to lie within memory.  `Machine.Faults` lists these cases.

They are all there are: a step faults if the program counter has left memory or if the
instruction that it has read faults, and it completes otherwise
(`Machine.step_faults_iff`).
-/

namespace ChipEight

/-- The size of the block of bytes that an instruction moves at the index. -/
def Instruction.block? : Instruction → Option Nat
  | .draw _ _ rows => some rows.val
  | .decimal _ => some 3
  | .store x | .load x => some (x.val + 1)
  | _ => none

namespace Machine

variable {width height : Nat}

/-- Where an instruction leads that does not go on behind itself. -/
def target? (machine : Machine width height) : Instruction → Option Int
  | .jump target | .call target => some target.val
  | .jumpOffset base =>
    let offset := machine.register <|
      if machine.compatibility.offsetUsesNamed then Instruction.offsetRegister base else 0
    some (base.val + offset.toNat)
  | .return => machine.stack.head?.map (· + 2)
  | _ => none

/-- The faults of an instruction. -/
inductive Faults (machine : Machine width height) : Instruction → Fault → Prop where
  /-- There is no call to return from. -/
  | empty (noCall : machine.stack = []) : Faults machine .return .stackUnderflow
  /-- There is no room for a call. -/
  | full {target : Address} (noRoom : machine.stack.length = 16) :
      Faults machine (.call target) .stackOverflow
  /-- There is no word at the place to which the instruction leads.  A call looks for room
  on the stack first. -/
  | leads {instruction : Instruction} {target : Int}
      (target_eq : machine.target? instruction = some target)
      (room : ∀ callee, instruction = .call callee → machine.stack.length < 16)
      (outside : 0xFFE < target) : Faults machine instruction (.memory target 2)
  /-- The block does not fit into memory. -/
  | moves {instruction : Instruction} {size : Nat} (block : instruction.block? = some size)
      (outside : 0x1000 < machine.index + size) :
      Faults machine instruction (.memory machine.index size)

variable {machine : Machine width height} {instruction : Instruction} {fault : Fault}

/-! ## Effects that fault -/

theorem within_eq_error_iff_of_nonneg {address : Int} {size : Nat}
    {change : Span size → Machine width height} (nonneg : 0 ≤ address) :
    within address size change = .error fault ↔
      0x1000 < address + size ∧ fault = .memory address size := by
  have outside_iff : ¬ inMemory address size ↔ 0x1000 < address + size := by
    rw [inMemory_iff]
    simp only [memorySize]
    omega
  rw [within_eq_error_iff, outside_iff]

theorem Sound.target?_nonneg (sound : machine.Sound) {target : Int}
    (target_eq : machine.target? instruction = some target) : 0 ≤ target := by
  cases instruction with
  | jump | call | jumpOffset =>
    obtain rfl := Option.some.inj target_eq
    omega
  | «return» =>
    obtain ⟨caller, top, rfl⟩ := Option.map_eq_some_iff.mp target_eq
    have := (sound.callers caller (List.mem_of_head? top)).1
    omega
  | _ => cases target_eq

theorem effect_of_target? {target : Int} (target_eq : machine.target? instruction = some target)
    (room : ∀ callee, instruction = .call callee → machine.stack.length < 16) :
    ∃ change, machine.effect instruction = within target 2 change := by
  cases instruction with
  | jump | jumpOffset =>
    obtain rfl := Option.some.inj target_eq
    exact ⟨_, rfl⟩
  | call callee =>
    obtain rfl := Option.some.inj target_eq
    have free := room callee rfl
    rw [length_stack] at free
    rw [effect, dif_pos free]
    exact ⟨_, rfl⟩
  | «return» =>
    obtain ⟨caller, top, rfl⟩ := Option.map_eq_some_iff.mp target_eq
    rw [effect, top?_calls, top]
    exact ⟨_, rfl⟩
  | _ => cases target_eq

theorem effect_of_block? (machine : Machine width height) {size : Nat}
    (block : instruction.block? = some size) :
    ∃ change, machine.effect instruction = within machine.index size change := by
  cases instruction with
  | draw | decimal | store | load =>
    obtain rfl := Option.some.inj block
    exact ⟨_, rfl⟩
  | _ => cases block

/-- An instruction that leads nowhere and moves no block does not fault, except for a return
without a call. -/
theorem effect_of_none (noTarget : machine.target? instruction = none)
    (noBlock : instruction.block? = none) (noReturn : instruction ≠ .return) :
    ∃ next, machine.effect instruction = .ok next := by
  cases instruction <;> first | contradiction | exact ⟨_, rfl⟩

/-- An instruction faults in the ways listed and in no other. -/
theorem Sound.effect_eq_error_iff (sound : machine.Sound) :
    machine.effect instruction = .error fault ↔ machine.Faults instruction fault := by
  constructor
  · intro faulted
    cases target_eq : machine.target? instruction with
    | some target =>
      by_cases room : ∀ callee, instruction = .call callee → machine.stack.length < 16
      · obtain ⟨change, effect_eq⟩ := effect_of_target? target_eq room
        rw [effect_eq, within_eq_error_iff_of_nonneg (sound.target?_nonneg target_eq)] at faulted
        obtain ⟨outside, rfl⟩ := faulted
        exact .leads target_eq room (by omega)
      · obtain ⟨callee, refused⟩ := Classical.not_forall.mp room
        obtain ⟨rfl, full⟩ := Classical.not_imp.mp refused
        rw [length_stack] at full
        rw [effect, dif_neg full] at faulted
        obtain rfl := Except.error.inj faulted
        exact .full (machine.length_stack.trans
          (Nat.le_antisymm machine.calls.fits (Nat.not_lt.mp full)))
    | none =>
      cases block : instruction.block? with
      | some size =>
        obtain ⟨change, effect_eq⟩ := machine.effect_of_block? block
        rw [effect_eq, within_eq_error_iff_of_nonneg sound.index.1] at faulted
        obtain ⟨outside, rfl⟩ := faulted
        exact .moves block outside
      | none =>
        by_cases isReturn : instruction = .return
        · subst isReturn
          have noCall : machine.stack = [] :=
            List.head?_eq_none_iff.mp (Option.map_eq_none_iff.mp target_eq)
          rw [effect, top?_calls, noCall] at faulted
          obtain rfl := Except.error.inj faulted
          exact .empty noCall
        · obtain ⟨next, effect_eq⟩ := effect_of_none target_eq block isReturn
          rw [effect_eq] at faulted
          contradiction
  · intro faults
    cases faults with
    | empty noCall =>
      rw [effect, top?_calls, noCall]
      rfl
    | full noRoom =>
      rw [length_stack] at noRoom
      rw [effect, dif_neg (Nat.not_lt.mpr (Nat.le_of_eq noRoom.symm))]
    | leads target_eq room outside =>
      obtain ⟨change, effect_eq⟩ := effect_of_target? target_eq room
      rw [effect_eq, within_eq_error_iff_of_nonneg (sound.target?_nonneg target_eq)]
      exact ⟨by omega, rfl⟩
    | moves block outside =>
      obtain ⟨change, effect_eq⟩ := machine.effect_of_block? block
      rw [effect_eq, within_eq_error_iff_of_nonneg sound.index.1]
      exact ⟨outside, rfl⟩

/-- What faults in one machine faults in every machine that leads to the same places and has
the same calls and the same index. -/
theorem Faults.transfer {other : Machine width height} (faults : machine.Faults instruction fault)
    (target_eq : other.target? instruction = machine.target? instruction)
    (stack_eq : other.stack = machine.stack) (index_eq : other.index = machine.index) :
    other.Faults instruction fault := by
  cases faults with
  | empty noCall => exact .empty (stack_eq.trans noCall)
  | full noRoom =>
    rw [← stack_eq] at noRoom
    exact .full noRoom
  | leads leads room outside =>
    rw [← stack_eq] at room
    exact .leads (target_eq.trans leads) room outside
  | moves block outside =>
    rw [← index_eq] at outside ⊢
    exact .moves block outside

/-- The latch of the fetched word has no part in faults. -/
theorem faults_fetch_iff {span : Span 2} :
    (machine.fetch span).Faults instruction fault ↔ machine.Faults instruction fault :=
  ⟨fun faults => faults.transfer rfl rfl rfl, fun faults => faults.transfer rfl rfl rfl⟩

/-! ## Steps that fault -/

/-- A step ends as the instruction does that it has read. -/
theorem Sound.outcome_of_reads (sound : machine.Sound) (idle : machine.wait = none)
    (reads : machine.Reads instruction) :
    (∀ fault, machine.step.outcome = .error fault ↔ machine.Faults instruction fault) ∧
      ((∀ fault, ¬ machine.Faults instruction fault) →
        machine.step.outcome = .ok (some instruction)) := by
  obtain ⟨span, -, outcome_eq, -⟩ := reads.step idle
  have faulted_iff (fault : Fault) :
      (machine.fetch span).effect instruction = .error fault ↔ machine.Faults instruction fault :=
    (sound.fetch idle span).effect_eq_error_iff.trans faults_fetch_iff
  rw [outcome_eq]
  cases ended : (machine.fetch span).effect instruction with
  | error fault =>
    rw [ended] at faulted_iff
    refine ⟨fun other => ?_, fun safe => absurd ((faulted_iff fault).mp rfl) (safe fault)⟩
    rw [← faulted_iff, Except.map]
    simp
  | ok next =>
    rw [ended] at faulted_iff
    refine ⟨fun fault => ?_, fun _ => rfl⟩
    rw [← faulted_iff, Except.map]
    simp

/-- A step does not fault while a key is waited for. -/
theorem outcome_of_waiting (waits : machine.wait ≠ none) :
    ∃ executed, machine.step.outcome = .ok executed := by
  have steps := machine.steps_step
  generalize machine.step = result at steps
  cases steps with
  | waits | finishes => exact ⟨_, rfl⟩
  | leaves idle | faults idle | executes idle => exact absurd idle waits

/-- Where there is no word left, a step faults at once. -/
theorem step_of_pc_outside (idle : machine.wait = none) (outside : 0xFFE < machine.pc) :
    machine.step = ⟨machine, [], .error (.memory machine.pc 2)⟩ := by
  apply machine.step_of_outside idle
  rw [Span.at?_eq_none_iff, inMemory_iff]
  simp only [memorySize]
  omega

/-- Exactly when a step faults, and how.  While a key is waited for, it does not.  Otherwise
the program counter itself is at fault if there is no word left, and in every other case the
instruction decides that stands there: the step faults as the instruction does, or it
completes. -/
theorem step_faults_iff (reachable : Reachable machine) :
    (machine.wait ≠ none → ∃ executed, machine.step.outcome = .ok executed) ∧
      (machine.wait = none →
        (machine.step.outcome = .error (.memory machine.pc 2) ↔ 0xFFE < machine.pc) ∧
          (machine.pc ≤ 0xFFE → ∃ instruction, machine.Reads instruction ∧
            (∀ fault, machine.step.outcome = .error fault ↔ machine.Faults instruction fault) ∧
            ((∀ fault, ¬ machine.Faults instruction fault) →
              machine.step.outcome = .ok (some instruction)))) := by
  have sound := reachable.sound
  refine ⟨outcome_of_waiting, fun idle => ?_⟩
  have reading (within : machine.pc ≤ 0xFFE) : ∃ instruction, machine.Reads instruction := by
    apply exists_reads
    rw [inMemory_iff]
    have := sound.pc.1
    simp only [memorySize]
    omega
  constructor
  · constructor
    · intro faulted
      refine Int.not_le.mp fun within => ?_
      obtain ⟨instruction, reads⟩ := reading within
      -- Neither a target nor a block at fault can start at a whole word.
      have faults := ((sound.outcome_of_reads idle reads).1 _).mp faulted
      generalize same : Fault.memory machine.pc 2 = fault at faults
      cases faults with
      | empty | full => contradiction
      | leads target_eq room outside =>
        obtain ⟨target_eq_pc, -⟩ := Fault.memory.inj same
        omega
      | moves block outside =>
        obtain ⟨index_eq_pc, size_eq⟩ := Fault.memory.inj same
        omega
    · intro outside
      rw [step_of_pc_outside idle outside]
  · intro within
    obtain ⟨instruction, reads⟩ := reading within
    exact ⟨instruction, reads, sound.outcome_of_reads idle reads⟩

/-- A machine about to jump to the last byte of memory. -/
def straying : Machine screenWidth screenHeight :=
  (powerOn .reference (.cycle #[])).act (.load #[0x1F, 0xFF])

theorem straying_reads : straying.Reads (.jump 0xFFF) :=
  reads_load _ (by decide) rfl rfl (by decide)

/-- There is no whole word at that byte. -/
theorem straying_faults :
    Reachable straying ∧ straying.step.outcome = .error (.memory 0xFFF 2) := by
  have reachable : Reachable straying :=
    (Reachable.usualPowerOn .reference (.cycle #[])).act (.load #[0x1F, 0xFF])
  obtain ⟨instruction, reads, faults_iff, -⟩ := ((step_faults_iff reachable).2 rfl).2 (by decide)
  obtain rfl := straying_reads.unique reads
  exact ⟨reachable, (faults_iff _).mpr (.leads rfl nofun (by decide))⟩

end Machine

end ChipEight
