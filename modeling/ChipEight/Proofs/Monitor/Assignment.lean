import ChipEight.Proofs.Machine.Arithmetic
import ChipEight.Proofs.Machine.Footprint
import ChipEight.Proofs.Machine.Memory
import ChipEight.Proofs.Monitor.Operations
import ChipEight.Proofs.Safety
import ChipEight.Proofs.Text.Hexadecimal

/-!
# Setting registers from the monitor

A register takes the low bits of the number it is set to, twelve, sixteen or eight of
them, and nothing else changes.  The line shown has the number as it was given, which is
what the register holds exactly if the number fits (`Monitor.setRegister_shows`).
-/

namespace ChipEight

variable {width height : Nat}

namespace Monitor

/-! ## What a target holds -/

/-- The numbers a target holds are those from zero up to this one, without it. -/
def Target.limit : Target → Int
  | .pc => 4096
  | .index => 65536
  | .delay | .sound | .register _ => 256

/-- The number a target holds. -/
def Target.held (machine : Machine width height) : Target → Int
  | .pc => machine.pc
  | .index => machine.index
  | .delay => machine.delay.value.toNat
  | .sound => machine.sound.value.toNat
  | .register x => (machine.register x).toNat

/-- Whether one machine is another one but for what a target holds. -/
structure Target.SetsOnly (target : Target) (before after : Machine width height) : Prop where
  pc : target ≠ .pc → after.pc = before.pc
  index : target ≠ .index → after.index = before.index
  delay : target ≠ .delay → after.delay = before.delay
  sound : target ≠ .sound → after.sound = before.sound
  register : ∀ register, target ≠ .register register →
    after.register register = before.register register
  others : after = { before with
    pc := after.pc
    index := after.index
    delay := after.delay
    sound := after.sound
    registers := after.registers }

section Assigning

variable (machine : Machine screenWidth screenHeight) (target : Target) (value : Int)

/-- A target takes the low bits of a value. -/
theorem held_assign : target.held (assign machine target value) = value % target.limit := by
  cases target with
  | pc | index => rfl
  | delay | sound => exact toNat_ofInt value
  | register register =>
    have stored : (assign machine (.register register) value).register register =
        UInt8.ofInt value :=
      machine.register_setRegister_self register _
    rw [Target.held, stored]
    exact toNat_ofInt value

theorem assign_setsOnly : target.SetsOnly machine (assign machine target value) := by
  cases target with
  | pc | index | delay | sound =>
    constructor <;> intros <;> first | rfl | contradiction
  | register register =>
    refine ⟨fun _ => rfl, fun _ => rfl, fun _ => rfl, fun _ => rfl, ?_, rfl⟩
    intro other different
    have apart : other ≠ register := fun same => different (same ▸ rfl)
    exact machine.register_setRegister_of_ne (UInt8.ofInt value) apart

/-- The low bits of a value are the value itself if it fits. -/
theorem emod_limit_eq_iff : value % target.limit = value ↔ 0 ≤ value ∧ value < target.limit := by
  cases target <;> simp only [Target.limit] <;> omega

end Assigning

/-! ## Lines -/

/-- Whether a line sets a target, under a name, to a number. -/
structure Assigns (line name : String) (target : Target) (value : Int) : Prop where
  asks : ∃ argument written rest, Line.parse line = .command .setRegister argument ∧
    wordsOf argument = .ok (name :: written :: rest) ∧ number written = .ok value
  names : target? (Text.lowerCase name) = .ok (some target)

/-- The line that says a register of some name has a value. -/
def assignedLine (name : String) (value : Int) : String :=
  "  " ++ String.ofList ((Text.lowerCase name).toList.map Char.toUpper) ++ " = " ++
    Text.Hex.marked 0 value

theorem assignedLine_inj {name : String} {one other : Int}
    (same : assignedLine name one = assignedLine name other) : one = other := by
  have texts := congrArg String.toList same
  simp only [assignedLine, String.toList_append] at texts
  exact Text.Hex.marked_injective (String.toList_injective (List.append_cancel_left texts))

theorem Assigns.carryOut {line name : String} {target : Target} {value : Int}
    (assigns : Assigns line name target value) (monitor : Monitor) :
    monitor.carryOut line =
      { monitor := monitor.withMachine (assign monitor.machine target value)
        lines := [assignedLine name value] } := by
  obtain ⟨argument, written, rest, parsed, divided, read⟩ := assigns.asks
  have performed : monitor.setRegister argument = .ok
      { monitor := monitor.withMachine (assign monitor.machine target value)
        lines := [assignedLine name value] } := by
    simp only [setRegister, divided, read, assigns.names, bind, Except.bind]
    rfl
  simp only [Monitor.carryOut, parsed, perform, performed]

/-- A line sets a register to the low bits of a number, and nothing else changes.  It shows
the number as it was given, so the value shown is the one held exactly if it fits. -/
theorem setRegister_shows (monitor : Monitor) {line name : String} {target : Target} {value : Int}
    (assigns : Assigns line name target value) :
    ∃ machine,
      monitor.carryOut line =
        { monitor := monitor.withMachine machine, lines := [assignedLine name value] } ∧
      target.held machine = value % target.limit ∧
      target.SetsOnly monitor.machine machine ∧
      ((monitor.carryOut line).lines = [assignedLine name (target.held machine)] ↔
        0 ≤ value ∧ value < target.limit) := by
  have outcome_eq := assigns.carryOut monitor
  have held := held_assign monitor.machine target value
  refine ⟨_, outcome_eq, held, assign_setsOnly monitor.machine target value, ?_⟩
  rw [outcome_eq, held, ← emod_limit_eq_iff]
  constructor
  · intro shown
    exact (assignedLine_inj (List.cons.inj shown).1).symm
  · intro fits
    rw [fits]

/-- A number that fits is held and shown. -/
theorem jump_shown :
    let monitor := Monitor.over (Machine.powerOn .reference (.cycle #[]))
    Assigns "setreg PC 0x2ff" "PC" .pc 0x2FF ∧
      (monitor.carryOut "setreg PC 0x2ff").lines = ["  PC = 0x2ff"] ∧
      (monitor.carryOut "setreg PC 0x2ff").monitor.machine.pc = 0x2FF := by
  intro monitor
  have assigns : Assigns "setreg PC 0x2ff" "PC" .pc 0x2FF :=
    ⟨⟨"PC 0x2ff", "0x2ff", [], by decide +kernel, rfl, rfl⟩, rfl⟩
  obtain ⟨machine, outcome_eq, held, -, -⟩ := setRegister_shows monitor assigns
  refine ⟨assigns, ?_, ?_⟩
  · rw [outcome_eq]
    change [assignedLine "PC" 0x2FF] = ["  PC = 0x2ff"]
    decide +kernel
  · rw [outcome_eq]
    exact held

/-- A number that does not fit is shown all the same. -/
theorem overlong_shown :
    let monitor := Monitor.over (Machine.powerOn .reference (.cycle #[]))
    let outcome := monitor.carryOut "setreg v0 0x1ff"
    outcome.lines = ["  V0 = 0x1ff"] ∧ outcome.monitor.machine.register 0 = 0xFF := by
  intro monitor outcome
  have assigns : Assigns "setreg v0 0x1ff" "v0" (.register 0) 0x1FF :=
    ⟨⟨"v0 0x1ff", "0x1ff", [], by decide +kernel, rfl, rfl⟩, rfl⟩
  have outcome_eq : outcome = _ := assigns.carryOut monitor
  rw [outcome_eq]
  constructor
  · decide +kernel
  · rfl

end Monitor

end ChipEight
