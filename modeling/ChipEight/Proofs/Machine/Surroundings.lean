import ChipEight.Proofs.Machine.Frame
import ChipEight.Proofs.Machine.Run
import ChipEight.Proofs.Machine.Step

/-!
# Steps and the surroundings of a machine

The surroundings of a machine own its keys, its timers and its trace switch, and
they change them between any two steps.  A step that does not look at what they
change commutes with the change (`Machine.step_disturb`): the change may as well
come after the step.  So the rate of the timers and the rate of the instructions
are independent of each other (`Machine.step_commutes`).

Three instructions use the timers and three look at the keys; a wait for a key
looks at the keys as well.
-/

namespace ChipEight

/-- Whether an instruction reads or loads a timer. -/
def Instruction.usesTimers : Instruction → Bool
  | .readDelay _ | .setDelay _ | .setSound _ => true
  | _ => false

/-- Whether an instruction looks at the keys. -/
def Instruction.usesKeys : Instruction → Bool
  | .skipIfKey _ | .skipUnlessKey _ | .waitKey _ => true
  | _ => false

/-- What the surroundings do to their parts of a machine. -/
structure Disturbance where
  /-- What they do to the keys. -/
  keypad : Keypad → Keypad := id
  /-- What they do to the timer that programs read. -/
  delay : Countdown Float → Countdown Float := id
  /-- What they do to the timer that sounds the tone. -/
  sound : Countdown Float → Countdown Float := id
  /-- What they do to the trace switch. -/
  debug : Bool → Bool := id

namespace Disturbance

/-- Time passes for both timers. -/
def passing (elapsed : Float) : Disturbance where
  delay timer := (timer.advance elapsed).1
  sound timer := (timer.advance elapsed).1

/-- Keys change. -/
def pressing (change : Keypad.Change) : Disturbance where
  keypad keypad := keypad.change change

end Disturbance

namespace Machine

variable {width height : Nat} {machine : Machine width height}

/-- The machine after its surroundings have changed it. -/
def disturb (machine : Machine width height) (disturbance : Disturbance) : Machine width height :=
  { machine with
    keypad := disturbance.keypad machine.keypad
    delay := disturbance.delay machine.delay
    sound := disturbance.sound machine.sound
    debug := disturbance.debug machine.debug }

/-! ## Instructions -/

theorem map_within {address : Int} {size : Nat} {change : Span size → Machine width height}
    (after : Machine width height → Machine width height) :
    (within address size change).map after =
      within address size fun span => after (change span) := by
  rw [within, within]
  cases Span.at? address size with
  | none => rfl
  | some span => rfl

theorem advanceIndex_disturb (machine : Machine width height) (count : Nat)
    (disturbance : Disturbance) :
    (machine.disturb disturbance).advanceIndex count =
      (machine.advanceIndex count).disturb disturbance := by
  rw [advanceIndex, advanceIndex, apply_ite (disturb · disturbance)]
  rfl

theorem setRegistersTo_disturb (machine : Machine width height) (x : Register)
    (bytes : Vector UInt8 (x.val + 1)) (disturbance : Disturbance) :
    (machine.disturb disturbance).setRegistersTo x bytes =
      (machine.setRegistersTo x bytes).disturb disturbance := by
  rw [setRegistersTo, setRegistersTo]
  rfl

theorem compute_disturb (machine : Machine width height) (operation : Arithmetic) (x y : Register)
    (disturbance : Disturbance) :
    (machine.disturb disturbance).compute operation x y =
      (machine.compute operation x y).disturb disturbance := by
  have result_eq : operation.apply (machine.disturb disturbance).compatibility.shiftUsesSecond
      ((machine.disturb disturbance).register x) ((machine.disturb disturbance).register y) =
    operation.apply machine.compatibility.shiftUsesSecond (machine.register x)
      (machine.register y) := rfl
  rw [compute, compute, result_eq]
  rcases operation.apply machine.compatibility.shiftUsesSecond (machine.register x)
    (machine.register y) with ⟨result, _ | flag⟩
  · rfl
  · rfl

/-- A look at the keypad depends on the keys alone. -/
theorem polled_disturb (machine : Machine width height) (wait : KeyWait) {disturbance : Disturbance}
    (sameKeys : disturbance.keypad = id) :
    (machine.disturb disturbance).polled wait = (machine.polled wait).disturb disturbance := by
  have keypad_eq : (machine.disturb disturbance).keypad = machine.keypad :=
    congrFun sameKeys machine.keypad
  have poll_eq : wait.poll (machine.disturb disturbance).compatibility.keyOnRelease
      (machine.disturb disturbance).keypad =
    wait.poll machine.compatibility.keyOnRelease machine.keypad := by
    rw [keypad_eq]
    rfl
  rw [polled, polled, poll_eq]
  cases wait.poll machine.compatibility.keyOnRelease machine.keypad with
  | waiting next => rfl
  | finished key => rfl

/-- An instruction that does not look at what the surroundings change commutes with
the change. -/
theorem effect_disturb (machine : Machine width height) (disturbance : Disturbance)
    {instruction : Instruction}
    (timers : instruction.usesTimers → disturbance.delay = id ∧ disturbance.sound = id)
    (keys : instruction.usesKeys → disturbance.keypad = id) :
    (machine.disturb disturbance).effect instruction =
      (machine.effect instruction).map (·.disturb disturbance) := by
  cases instruction with
  | «return» =>
    have calls_eq : (machine.disturb disturbance).calls = machine.calls := rfl
    rw [effect, effect, calls_eq]
    cases machine.calls.top? with
    | none => rfl
    | some caller =>
      simp only [map_within]
      rfl
  | call target =>
    rw [effect, effect, apply_dite (Except.map _)]
    simp only [map_within]
    rfl
  | arithmetic operation x y =>
    exact congrArg Except.ok (machine.advance.compute_disturb operation x y disturbance)
  | jump | jumpOffset | draw | decimal =>
    rw [effect, effect, map_within]
    rfl
  | store x =>
    rw [effect, effect, map_within]
    simp only [← advanceIndex_disturb]
    rfl
  | load x =>
    rw [effect, effect, map_within]
    simp only [← advanceIndex_disturb, ← setRegistersTo_disturb]
    rfl
  | skipIfKey x | skipUnlessKey x =>
    have keypad_eq : (machine.disturb disturbance).keypad = machine.keypad :=
      congrFun (keys rfl) machine.keypad
    rw [effect, effect, keypad_eq]
    rfl
  | waitKey x => exact congrArg Except.ok (machine.polled_disturb ⟨x, none⟩ (keys rfl))
  | readDelay x | setDelay x | setSound x =>
    obtain ⟨keypad, delay, sound, debug⟩ := disturbance
    obtain ⟨rfl, rfl⟩ := timers rfl
    rfl
  | _ => rfl

/-! ## Steps -/

/-- The instruction that the next step fetches, if it fetches one. -/
def upcoming? (machine : Machine width height) : Option Instruction :=
  match machine.wait with
  | some _ => none
  | none => (Span.at? machine.pc 2).map machine.instructionAt

theorem upcoming?_of_at?_eq_some {span : Span 2} (idle : machine.wait = none)
    (fetched : Span.at? machine.pc 2 = some span) :
    machine.upcoming? = some (machine.instructionAt span) := by
  rw [upcoming?, idle, fetched]
  rfl

/-- What comes up first in a loaded program is its first instruction. -/
theorem upcoming?_load (machine : Machine width height) {program : Array UInt8}
    (room : program.size ≤ programRoom) (idle : machine.wait = none)
    (atStart : machine.pc = programStart) :
    (machine.act (.load program)).upcoming? =
      some (.decode (.ofBytes (program[0]?.getD 0) (program[1]?.getD 0))) := by
  have fetched : Span.at? (machine.act (.load program)).pc 2 = some ⟨programStart, by decide⟩ := by
    rw [machine.act_load room]
    exact Span.at?_eq_some_iff.mpr atStart
  have stillIdle : (machine.act (.load program)).wait = none := by
    rw [machine.act_load room, idle]
  rw [upcoming?_of_at?_eq_some stillIdle fetched, instructionAt, wordAt, machine.act_load room]
  simp [bytes, Span.read, Span.place, programStart]

theorem traced_disturb (machine : Machine width height) {disturbance : Disturbance}
    (sameSwitch : disturbance.debug = id) (span : Span 2) :
    (machine.disturb disturbance).traced span = machine.traced span := by
  have debug_eq : (machine.disturb disturbance).debug = machine.debug :=
    congrFun sameSwitch machine.debug
  rw [traced, traced, debug_eq]
  rfl

/-- A step that does not look at what the surroundings change commutes with the
change: the machine after it is changed, while its events and its outcome are the
same. -/
theorem step_disturb (machine : Machine width height) (disturbance : Disturbance)
    (timers : ∀ instruction, machine.upcoming? = some instruction → instruction.usesTimers →
      disturbance.delay = id ∧ disturbance.sound = id)
    (keys : ∀ instruction, machine.upcoming? = some instruction → instruction.usesKeys →
      disturbance.keypad = id)
    (waits : machine.wait ≠ none → disturbance.keypad = id)
    (sameSwitch : disturbance.debug = id) :
    (machine.disturb disturbance).step =
      { machine.step with machine := machine.step.machine.disturb disturbance } := by
  have commutes {span : Span 2} (idle : machine.wait = none)
      (fetched : Span.at? machine.pc 2 = some span) :
      ((machine.disturb disturbance).fetch span).effect (machine.instructionAt span) =
        ((machine.fetch span).effect (machine.instructionAt span)).map (·.disturb disturbance) := by
    have upcoming := upcoming?_of_at?_eq_some idle fetched
    exact (machine.fetch span).effect_disturb disturbance (timers _ upcoming) (keys _ upcoming)
  have keypad_eq (pending : machine.wait ≠ none) :
      (machine.disturb disturbance).keypad = machine.keypad :=
    congrFun (waits pending) machine.keypad
  have steps := machine.steps_step
  generalize machine.step = result at steps
  cases steps with
  | @waits wait next pending polled =>
    rw [← keypad_eq (by simp [pending])] at polled
    exact (machine.disturb disturbance).step_of_waiting pending polled
  | @finishes wait key pending polled =>
    rw [← keypad_eq (by simp [pending])] at polled
    exact (machine.disturb disturbance).step_of_finished pending polled
  | leaves idle outside => exact (machine.disturb disturbance).step_of_outside idle outside
  | @faults span fault idle fetched faulted =>
    have disturbed := commutes idle fetched
    rw [faulted] at disturbed
    rw [(machine.disturb disturbance).step_of_fault idle fetched disturbed,
      machine.traced_disturb sameSwitch]
    rfl
  | @executes span next idle fetched executed =>
    have disturbed := commutes idle fetched
    rw [executed] at disturbed
    rw [(machine.disturb disturbance).step_of_effect idle fetched disturbed,
      machine.traced_disturb sameSwitch]
    rfl

/-! ## Time and keys -/

/-- Unless the next step reads or loads a timer, it does not matter whether time passes
before it or after it; and unless it looks at the keys, it does not matter whether keys
change before it or after it.  The states agree in all their parts, and the steps show
and return the same or fault in the same way. -/
theorem step_commutes (machine : Machine width height) :
    (∀ elapsed,
      (∀ x, machine.upcoming? ≠ some (.readDelay x) ∧ machine.upcoming? ≠ some (.setDelay x) ∧
        machine.upcoming? ≠ some (.setSound x)) →
      (machine.act (.pass elapsed)).step =
        { machine.step with machine := machine.step.machine.act (.pass elapsed) }) ∧
      ∀ change, machine.wait = none →
        (∀ x, machine.upcoming? ≠ some (.skipIfKey x) ∧
          machine.upcoming? ≠ some (.skipUnlessKey x) ∧ machine.upcoming? ≠ some (.waitKey x)) →
        (machine.act (.keys change)).step =
          { machine.step with machine := machine.step.machine.act (.keys change) } := by
  constructor
  · intro elapsed untimed
    refine machine.step_disturb (.passing elapsed) ?_ (fun _ _ _ => rfl) (fun _ => rfl) rfl
    intro instruction upcoming uses
    cases instruction with
    | readDelay x => exact absurd upcoming (untimed x).1
    | setDelay x => exact absurd upcoming (untimed x).2.1
    | setSound x => exact absurd upcoming (untimed x).2.2
    | _ => contradiction
  · intro change idle unasked
    refine machine.step_disturb (.pressing change) (fun _ _ _ => ⟨rfl, rfl⟩) ?_
      (fun pending => absurd idle pending) rfl
    intro instruction upcoming uses
    cases instruction with
    | skipIfKey x => exact absurd upcoming (unasked x).1
    | skipUnlessKey x => exact absurd upcoming (unasked x).2.1
    | waitKey x => exact absurd upcoming (unasked x).2.2
    | _ => contradiction

/-- A machine about to draw while both timers run. -/
def timedDrawing : Machine 64 32 :=
  { powerOn .reference (.cycle #[]) with
    memory := Vector.ofFn fun place =>
      if place.val = programStart then 0xD0
      else if place.val = programStart + 1 then 0x05
      else 0
    delay := ⟨5, 0⟩
    sound := ⟨1, 0⟩ }

theorem timedDrawing_upcoming : timedDrawing.upcoming? = some (.draw 0 0 5) := by
  have fetched : Span.at? timedDrawing.pc 2 = some ⟨programStart, by decide⟩ :=
    Span.at?_eq_some_iff.mpr rfl
  have word_eq : timedDrawing.wordAt ⟨programStart, by decide⟩ = 0xD005 := by
    simp [wordAt, bytes, Span.read, Span.place, timedDrawing, programStart, Word.ofBytes]
  rw [upcoming?_of_at?_eq_some rfl fetched, instructionAt, word_eq]
  decide

/-- The drawing comes out the same before and after a frame and a change of the keys. -/
theorem timedDrawing_commutes :
    timedDrawing.upcoming? = some (.draw 0 0 5) ∧
      (timedDrawing.act (.pass 0.5)).step =
        { timedDrawing.step with machine := timedDrawing.step.machine.act (.pass 0.5) } ∧
      (timedDrawing.act (.keys (.press 5))).step =
        { timedDrawing.step with machine := timedDrawing.step.machine.act (.keys (.press 5)) } := by
  have upcoming := timedDrawing_upcoming
  refine ⟨upcoming, timedDrawing.step_commutes.1 0.5 ?_,
    timedDrawing.step_commutes.2 (.press 5) rfl ?_⟩
  · simp [upcoming]
  · simp [upcoming]

end Machine

end ChipEight
