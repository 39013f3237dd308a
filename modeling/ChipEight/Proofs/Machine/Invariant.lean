import ChipEight.Proofs.Machine.Frame
import ChipEight.Proofs.Machine.Run
import ChipEight.Proofs.Machine.Step

/-!
# The invariant of the machine

Bytes, registers, timers, keys and the dimensions of the screen are in range by
type.  The program counter, the index and the call stack are integers, which the
instructions have to keep in range; and a wait for a key has to stay tied to the
instruction that began it, since that instruction is decoded again when the wait
ends.

The program counter may leave memory, by a skip over its end or because a wait
ends on the last byte, but never by more than a word.
-/

namespace ChipEight

/-- A look at the keypad never changes the register that waits. -/
theorem KeyWait.register_of_poll {wait next : KeyWait} {onRelease : Bool} {keypad : Keypad}
    (polled : wait.poll onRelease keypad = .waiting next) : next.register = wait.register := by
  rw [KeyWait.poll] at polled
  split at polled
  · split at polled
    · cases polled
      rfl
    · split at polled
      · cases polled
        rfl
      · contradiction
  · split at polled
    · cases polled
      rfl
    · contradiction

namespace Machine

variable {width height : Nat}

/-- What holds of a machine at all times, beyond what its type says. -/
structure Sound (machine : Machine width height) : Prop where
  depth : machine.stack.length ≤ stackDepth
  callers : ∀ caller ∈ machine.stack, 0 ≤ caller ∧ caller ≤ 0xFFE
  pc : 0 ≤ machine.pc ∧ machine.pc ≤ 0x1002
  index : 0 ≤ machine.index ∧ machine.index ≤ 0xFFFF
  wait : ∀ wait, machine.wait = some wait →
    machine.pc ≤ 0xFFF ∧ Instruction.decode machine.word = .waitKey wait.register

theorem sound_powerOn (compatibility : Compatibility) (random : RandomBytes) :
    (powerOn compatibility random : Machine width height).Sound where
  depth := Nat.zero_le _
  callers := by simp
  pc := by simp [powerOn]
  index := by simp [powerOn]
  wait := by simp [powerOn]

theorem sound_reset (machine : Machine width height) : machine.reset.Sound := by
  have fresh : (powerOn machine.compatibility machine.random : Machine width height).Sound :=
    sound_powerOn machine.compatibility machine.random
  refine ⟨?_, ?_, fresh.pc, fresh.index, fresh.wait⟩
  · rw [stack_reset]
    exact Nat.zero_le _
  · rw [stack_reset]
    exact nofun

variable {machine next : Machine width height}

/-- A wait goes on or ends where it began. -/
theorem Sound.polled (sound : machine.Sound) {wait : KeyWait} (inside : machine.pc ≤ 0xFFF)
    (began : Instruction.decode machine.word = .waitKey wait.register) :
    (machine.polled wait).Sound := by
  have := sound.pc
  rw [Machine.polled]
  cases polled : wait.poll machine.compatibility.keyOnRelease machine.keypad with
  | waiting next =>
    refine ⟨sound.depth, sound.callers, sound.pc, sound.index, ?_⟩
    intro pending pending_eq
    cases pending_eq
    rw [KeyWait.register_of_poll polled]
    exact ⟨inside, began⟩
  | finished key =>
    refine ⟨sound.depth, sound.callers, ?_, sound.index, ?_⟩
    · simp only
      omega
    · intro pending pending_eq
      contradiction

/-- The effect of an instruction that has just been fetched. -/
theorem Sound.effects (sound : machine.Sound) (idle : machine.wait = none)
    (inside : inMemory machine.pc 2) {instruction : Instruction}
    (decoded : Instruction.decode machine.word = instruction)
    (effects : machine.Effects instruction next) : next.Sound := by
  have bounds := inMemory_iff.mp inside
  simp only [memorySize] at bounds
  have noWait : ∀ {wait}, machine.wait = some wait → False := by simp [idle]
  cases effects with
  | clears =>
    refine ⟨sound.depth, sound.callers, ?_, sound.index, fun _ pending => (noWait pending).elim⟩
    simp only [advance]
    omega
  | returns pushed target =>
    have depth := sound.depth
    have callers := sound.callers
    have targetBounds := inMemory_iff.mp target
    rw [stack_of_top? pushed] at depth callers
    simp only [memorySize] at targetBounds
    refine ⟨?_, ?_, ?_, sound.index, fun _ pending => (noWait pending).elim⟩
    · exact Nat.le_of_succ_le depth
    · exact fun caller member => callers caller (List.mem_cons_of_mem _ member)
    · simp only
      omega
  | calls room target =>
    have stack_eq := machine.calls.live_push room machine.pc
    refine ⟨?_, ?_, ?_, sound.index, fun _ pending => (noWait pending).elim⟩
    · rw [length_stack]
      exact room
    · intro caller member
      rw [stack, stack_eq] at member
      rcases List.mem_cons.mp member with rfl | member
      · omega
      · exact sound.callers caller member
    · have targetBounds := inMemory_iff.mp target
      simp only [memorySize] at targetBounds ⊢
      omega
  | draws located =>
    refine ⟨sound.depth, sound.callers, ?_, sound.index, fun _ pending => (noWait pending).elim⟩
    simp only [setFlag, setRegister, advance]
    omega
  | asks => exact sound.polled (by omega) decoded
  | moves movesData keeps pc index =>
    refine ⟨?_, ?_, ?_, ?_, ?_⟩
    · rw [keeps.stack]
      exact sound.depth
    · rw [keeps.stack]
      exact sound.callers
    · rcases pc with pc | pc | target
      · omega
      · omega
      · have targetBounds := inMemory_iff.mp target
        simp only [memorySize] at targetBounds
        omega
    · have := sound.index
      omega
    · rw [keeps.wait]
      exact fun _ pending => (noWait pending).elim

/-- A machine that does not wait is free to fetch. -/
theorem Sound.fetch (sound : machine.Sound) (idle : machine.wait = none) (span : Span 2) :
    (machine.fetch span).Sound := by
  refine ⟨sound.depth, sound.callers, sound.pc, sound.index, ?_⟩
  intro wait pending
  have contrary : none = some wait := idle.symm.trans pending
  contradiction

/-- A step keeps the invariant, however it ends. -/
theorem Sound.step (sound : machine.Sound) : machine.step.machine.Sound := by
  have steps := machine.steps_step
  generalize machine.step = result at steps
  cases steps with
  | waits pending polled =>
    obtain ⟨inside, began⟩ := sound.wait _ pending
    refine ⟨sound.depth, sound.callers, sound.pc, sound.index, ?_⟩
    intro wait wait_eq
    cases wait_eq
    rw [KeyWait.register_of_poll polled]
    exact ⟨inside, began⟩
  | finishes pending polled =>
    obtain ⟨inside, -⟩ := sound.wait _ pending
    have := sound.pc
    refine ⟨sound.depth, sound.callers, ?_, sound.index, fun _ pending => nomatch pending⟩
    simp only
    omega
  | leaves idle outside => exact sound
  | faults idle fetched faulted => exact sound.fetch idle _
  | executes idle fetched executed =>
    have after := (sound.fetch idle _).effects idle (Span.inMemory_of_at?_eq_some fetched) rfl
      (Machine.effects executed)
    exact ⟨after.depth, after.callers, after.pc, after.index, after.wait⟩

/-- Every action keeps the invariant. -/
theorem Sound.act (sound : machine.Sound) (action : Action) : (machine.act action).Sound := by
  by_cases fromOutside : action.fromOutside
  · obtain ⟨memory, keypad, delay, sound', programSize, acted⟩ :=
      machine.act_of_fromOutside fromOutside
    rw [acted]
    exact ⟨sound.depth, sound.callers, sound.pc, sound.index, sound.wait⟩
  · cases action with
    | step => exact sound.step
    | reset => exact sound_reset machine
    | pass | keys | load => exact absurd rfl fromOutside

end Machine

end ChipEight
