import ChipEight.Proofs.Machine.Invariant
import ChipEight.Proofs.Monitor.Operations

/-!
# Safety

Whatever a host does with a machine and whatever a user types into the monitor,
the invariant holds, and a step ends normally or with a fault whose cause is
there.  Bytes, registers, timers, keys, a key that is held and the dimensions of
the screen are in range by their types.
-/

namespace ChipEight

namespace Machine

theorem Sound.operate {machine : Machine screenWidth screenHeight} (sound : machine.Sound)
    (operation : Monitor.Operation) : (Monitor.operate machine operation).Sound := by
  cases operation with
  | act action => exact sound.act action
  | assign target value =>
    cases target with
    | pc =>
      refine ⟨sound.depth, sound.callers, ?_, sound.index, ?_⟩
      · simp only [Monitor.operate, Monitor.assign]
        omega
      · intro wait pending
        refine ⟨?_, (sound.wait wait pending).2⟩
        simp only [Monitor.operate, Monitor.assign]
        omega
    | index =>
      refine ⟨sound.depth, sound.callers, sound.pc, ?_, sound.wait⟩
      simp only [Monitor.operate, Monitor.assign]
      omega
    | delay | sound | register =>
      exact ⟨sound.depth, sound.callers, sound.pc, sound.index, sound.wait⟩
  | write address value =>
    rw [Monitor.operate]
    split
    · rename_i written writing
      rw [write] at writing
      split at writing
      · cases writing
        exact ⟨sound.depth, sound.callers, sound.pc, sound.index, sound.wait⟩
      · contradiction
    · exact sound
  | trace => exact ⟨sound.depth, sound.callers, sound.pc, sound.index, sound.wait⟩

end Machine

/-- The machines that a host and the monitor can bring about, starting from
power-on. -/
inductive Reachable : {width height : Nat} → Machine width height → Prop where
  | powerOn (size : ScreenSize) (compatibility : Compatibility) (random : RandomBytes) :
      Reachable (Machine.powerOn compatibility random : Machine size.width size.height)
  | act {width height : Nat} {machine : Machine width height} (reachable : Reachable machine)
      (action : Action) : Reachable (machine.act action)
  | line {monitor : Monitor} (reachable : Reachable monitor.machine) (line : String) :
      Reachable (monitor.carryOut line).monitor.machine

theorem Reachable.sound {width height : Nat} {machine : Machine width height}
    (reachable : Reachable machine) : machine.Sound := by
  induction reachable with
  | powerOn size compatibility random => exact Machine.sound_powerOn compatibility random
  | act reachable action ih => exact ih.act action
  | @line monitor reachable line ih =>
    have leads := monitor.carryOut_leads line
    exact leads.invariant (fun _ operation holds => holds.operate operation) ih

namespace Machine

variable {width height : Nat} {machine : Machine width height}

/-- A step faults for a cause that is there. -/
theorem suffers_of_step {fault : Fault} (faulted : machine.step.outcome = .error fault) :
    machine.Suffers fault := by
  have steps := machine.steps_step
  generalize machine.step = result at steps faulted
  cases steps with
  | waits | finishes | executes => contradiction
  | leaves idle outside =>
    cases faulted
    exact Span.at?_eq_none_iff.mp outside
  | faults idle fetched effect =>
    cases faulted
    have suffers := suffers_of_effect effect
    cases fault <;> exact suffers

/-- The ranges of all parts of a machine: those of the invariant, and those that
the types stand for. -/
structure WellFormed (machine : Machine width height) : Prop extends Sound machine where
  memory : machine.memory.toList.length = 0x1000 ∧
    ∀ byte ∈ machine.memory.toList, byte.toNat ≤ 0xFF
  registers : machine.registers.toList.length = 16 ∧
    ∀ value ∈ machine.registers.toList, value.toNat ≤ 0xFF
  timers : machine.delay.value.toNat ≤ 0xFF ∧ machine.sound.value.toNat ≤ 0xFF
  rows : machine.screen.rows.toList.length = height ∧
    ∀ row ∈ machine.screen.rows.toList, row.toList.length = width
  held : ∀ wait, machine.wait = some wait → wait.register.val ≤ 15 ∧
    ∀ key, wait.held = some key → key.val ≤ 15

theorem Sound.wellFormed (sound : machine.Sound) : machine.WellFormed where
  toSound := sound
  memory := ⟨machine.memory.length_toList, fun byte _ => Nat.le_of_lt_succ byte.toNat_lt⟩
  registers := ⟨machine.registers.length_toList, fun value _ => Nat.le_of_lt_succ value.toNat_lt⟩
  timers := ⟨Nat.le_of_lt_succ machine.delay.value.toNat_lt,
    Nat.le_of_lt_succ machine.sound.value.toNat_lt⟩
  rows := ⟨machine.screen.rows.length_toList, fun row _ => row.length_toList⟩
  held wait _ := ⟨Nat.le_of_lt_succ wait.register.isLt, fun key _ => Nat.le_of_lt_succ key.isLt⟩

end Machine

/-- Whatever has happened to a machine, it is in range, and a step ends normally
or with a fault of the memory or of the stack whose cause is there. -/
theorem reachable_safe {width height : Nat} {machine : Machine width height}
    (reachable : Reachable machine) :
    machine.WellFormed ∧
      ((∃ executed, machine.step.outcome = .ok executed) ∨
        ∃ fault, machine.step.outcome = .error fault ∧ machine.Suffers fault) := by
  constructor
  · exact reachable.sound.wellFormed
  · cases ended : machine.step.outcome with
    | ok executed => exact Or.inl ⟨executed, rfl⟩
    | error fault => exact Or.inr ⟨fault, rfl, Machine.suffers_of_step ended⟩

/-- The usual screen. -/
def usualScreen : ScreenSize := ⟨screenWidth, screenHeight, by decide, by decide⟩

theorem Reachable.usualPowerOn (compatibility : Compatibility) (random : RandomBytes) :
    Reachable (Machine.powerOn compatibility random : Machine screenWidth screenHeight) :=
  .powerOn usualScreen compatibility random

/-- A monitor over a machine. -/
def Monitor.over (machine : Machine screenWidth screenHeight) : Monitor where
  console := { machine := machine, speed := 8 }

theorem Reachable.over {machine : Machine screenWidth screenHeight}
    (reachable : Reachable machine) : Reachable (Monitor.over machine).machine :=
  reachable

/-- A machine that has begun to wait for a key. -/
def waitingMachine : Machine screenWidth screenHeight :=
  ((Machine.powerOn .reference (.cycle #[])).act (.load #[0xF0, 0x0A])).act .step

theorem waitingMachine_reachable : Reachable waitingMachine :=
  ((Reachable.usualPowerOn .reference (.cycle #[])).act (.load #[0xF0, 0x0A])).act .step

/-- A wait that is to end on the last byte of memory. -/
theorem waitingMachine_safe :
    Reachable ((Monitor.over waitingMachine).carryOut "setreg pc 0xfff").monitor.machine ∧
      ((Monitor.over waitingMachine).carryOut "setreg pc 0xfff").monitor.machine.WellFormed :=
  have reachable := waitingMachine_reachable.over.line "setreg pc 0xfff"
  ⟨reachable, (reachable_safe reachable).1⟩

end ChipEight
