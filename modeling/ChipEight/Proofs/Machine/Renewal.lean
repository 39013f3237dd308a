import ChipEight.Proofs.Machine.Surroundings

/-!
# What a reset forgets

A machine that has been reset behaves as a new one that was given its memory, the size
of its program, its keys, its trace switch and its source of random bytes
(`Machine.reset_forgets`).  Whatever else it held is gone: registers, pending calls, a
wait and the key held for it, time gathered by the timers, the latch of the fetched word.

The count of unknown words survives a reset.  Nothing reads it, so a machine that starts
with more of them goes through the same states, and the surplus stays what it was.
-/

namespace ChipEight

/-- What whoever asks for an action is told. -/
inductive Answer where
  /-- A step has shown some events, and ended in some way. -/
  | stepped (events : List Event) (outcome : Except Fault (Option Instruction))
  /-- A program of some size has been loaded, or was refused. -/
  | loaded (size : Except ProgramTooLarge Nat)
  /-- Flags for all keys have been taken, or were refused. -/
  | flagged (taken : Except Keypad.CountError Unit)
  /-- Nothing. -/
  | silent

namespace Machine

variable {width height : Nat} {machine : Machine width height}

/-- What a machine answers to an action. -/
def answer (machine : Machine width height) : Action → Answer
  | .step => .stepped machine.step.events machine.step.outcome
  | .load program => .loaded (machine.loadProgram program).outcome
  | .keys (.states states) => .flagged ((Keypad.ofStates states).map fun _ => ())
  | .keys (.press _) | .keys (.release _) | .keys .clear | .pass _ | .reset => .silent

/-- What a machine answers to a sequence of actions, in order. -/
def answers (machine : Machine width height) : List Action → List Answer
  | [] => []
  | first :: rest => machine.answer first :: (machine.act first).answers rest

/-- The machine with a surplus of unknown words. -/
def addUnknowns (machine : Machine width height) (surplus : Nat) : Machine width height :=
  { machine with unknowns := machine.unknowns + surplus }

/-! ## Nothing reads the count of unknown words -/

theorem compute_addUnknowns (machine : Machine width height) (operation : Arithmetic)
    (x y : Register) (surplus : Nat) :
    (machine.addUnknowns surplus).compute operation x y =
      (machine.compute operation x y).addUnknowns surplus := by
  have result_eq : operation.apply (machine.addUnknowns surplus).compatibility.shiftUsesSecond
      ((machine.addUnknowns surplus).register x) ((machine.addUnknowns surplus).register y) =
    operation.apply machine.compatibility.shiftUsesSecond (machine.register x)
      (machine.register y) := rfl
  rw [compute, compute, result_eq]
  rcases operation.apply machine.compatibility.shiftUsesSecond (machine.register x)
    (machine.register y) with ⟨result, _ | flag⟩
  · rfl
  · rfl

theorem polled_addUnknowns (machine : Machine width height) (wait : KeyWait) (surplus : Nat) :
    (machine.addUnknowns surplus).polled wait = (machine.polled wait).addUnknowns surplus := by
  have poll_eq : wait.poll (machine.addUnknowns surplus).compatibility.keyOnRelease
      (machine.addUnknowns surplus).keypad =
    wait.poll machine.compatibility.keyOnRelease machine.keypad := rfl
  rw [polled, polled, poll_eq]
  cases wait.poll machine.compatibility.keyOnRelease machine.keypad with
  | waiting next => rfl
  | finished key => rfl

theorem advanceIndex_addUnknowns (machine : Machine width height) (count surplus : Nat) :
    (machine.addUnknowns surplus).advanceIndex count =
      (machine.advanceIndex count).addUnknowns surplus := by
  rw [advanceIndex, advanceIndex, apply_ite (addUnknowns · surplus)]
  rfl

/-- An instruction commutes with a surplus of unknown words. -/
theorem effect_addUnknowns (machine : Machine width height) (instruction : Instruction)
    (surplus : Nat) :
    (machine.addUnknowns surplus).effect instruction =
      (machine.effect instruction).map (·.addUnknowns surplus) := by
  cases instruction with
  | «return» =>
    have calls_eq : (machine.addUnknowns surplus).calls = machine.calls := rfl
    rw [effect, effect, calls_eq]
    cases machine.calls.top? with
    | none => rfl
    | some caller =>
      simp only [map_within]
      rfl
  | call target =>
    rw [effect, effect, apply_dite (Except.map _)]
    simp only [map_within]
    rfl
  | arithmetic operation x y =>
    exact congrArg Except.ok (machine.advance.compute_addUnknowns operation x y surplus)
  | jump | jumpOffset | draw | decimal =>
    rw [effect, effect, map_within]
    rfl
  | store x | load x =>
    rw [effect, effect, map_within]
    simp only [← advanceIndex_addUnknowns]
    rfl
  | waitKey x => exact congrArg Except.ok (machine.polled_addUnknowns ⟨x, none⟩ surplus)
  | unknown word =>
    have count_eq : machine.unknowns + surplus + 1 = machine.unknowns + 1 + surplus :=
      Nat.add_right_comm machine.unknowns surplus 1
    exact congrArg (fun count => Except.ok { machine.advance with unknowns := count }) count_eq
  | _ => rfl

/-- A step commutes with a surplus of unknown words, and shows and returns the same. -/
theorem step_addUnknowns (machine : Machine width height) (surplus : Nat) :
    (machine.addUnknowns surplus).step =
      { machine.step with machine := machine.step.machine.addUnknowns surplus } := by
  have commutes (span : Span 2) :
      ((machine.addUnknowns surplus).fetch span).effect (machine.instructionAt span) =
        ((machine.fetch span).effect (machine.instructionAt span)).map (·.addUnknowns surplus) :=
    (machine.fetch span).effect_addUnknowns (machine.instructionAt span) surplus
  have steps := machine.steps_step
  generalize machine.step = result at steps
  cases steps with
  | waits pending polled => exact (machine.addUnknowns surplus).step_of_waiting pending polled
  | finishes pending polled => exact (machine.addUnknowns surplus).step_of_finished pending polled
  | leaves idle outside => exact (machine.addUnknowns surplus).step_of_outside idle outside
  | @faults span fault idle fetched faulted =>
    have again := commutes span
    rw [faulted] at again
    exact (machine.addUnknowns surplus).step_of_fault idle fetched again
  | @executes span next idle fetched executed =>
    have again := commutes span
    rw [executed] at again
    exact (machine.addUnknowns surplus).step_of_effect idle fetched again

theorem loadProgram_addUnknowns (machine : Machine width height) (program : Array UInt8)
    (surplus : Nat) :
    (machine.addUnknowns surplus).loadProgram program =
      (machine.loadProgram program).onState (·.addUnknowns surplus) := by
  rcases Nat.lt_or_ge programRoom program.size with tooLarge | room
  · rw [loadProgram_of_tooLarge _ tooLarge, loadProgram_of_tooLarge _ tooLarge]
    rfl
  · rw [loadProgram_of_room _ room, loadProgram_of_room _ room]
    rfl

theorem act_addUnknowns (machine : Machine width height) (action : Action) (surplus : Nat) :
    (machine.addUnknowns surplus).act action = (machine.act action).addUnknowns surplus := by
  cases action with
  | step => rw [act, step_addUnknowns, act]
  | load program =>
    rw [act, act, loadProgram_addUnknowns, EStateM.Result.state_onState]
  | pass | keys | reset => rfl

theorem answer_addUnknowns (machine : Machine width height) (action : Action) (surplus : Nat) :
    (machine.addUnknowns surplus).answer action = machine.answer action := by
  cases action with
  | step => rw [answer, step_addUnknowns, answer]
  | load program =>
    rw [answer, answer, loadProgram_addUnknowns, EStateM.Result.outcome_onState]
  | keys change => cases change <;> rfl
  | pass | reset => rfl

/-- Whatever happens to a machine with a surplus, the surplus stays and is not noticed. -/
theorem run_addUnknowns (machine : Machine width height) (actions : List Action) (surplus : Nat) :
    (machine.addUnknowns surplus).run actions = (machine.run actions).addUnknowns surplus ∧
      (machine.addUnknowns surplus).answers actions = machine.answers actions := by
  induction actions generalizing machine with
  | nil => exact ⟨rfl, rfl⟩
  | cons first rest ih =>
    obtain ⟨run_eq, answers_eq⟩ := ih (machine.act first)
    constructor
    · rw [run_cons, act_addUnknowns, run_eq, run_cons]
    · rw [answers, act_addUnknowns, answer_addUnknowns, answers_eq, answers]

/-! ## Resetting -/

/-- A new machine that is given what a reset keeps of an old one, the count of unknown
words apart. -/
def renewed (machine : Machine width height) : Machine width height :=
  { powerOn machine.compatibility machine.random with
    memory := machine.memory
    programSize := machine.programSize
    keypad := machine.keypad
    debug := machine.debug }

theorem reset_eq_renewed (machine : Machine width height) :
    machine.reset = machine.renewed.addUnknowns machine.unknowns := by
  have none_met : machine.renewed.unknowns + machine.unknowns = machine.unknowns :=
    Nat.zero_add machine.unknowns
  rw [addUnknowns, none_met, reset, renewed, powerOn]

/-- Whatever happens after a reset, a machine goes through the states of a new one that
was given its memory, the size of its program, its keys, its trace switch and its source
of random bytes, except that it has counted the unknown words from before the reset as
well.  And it answers the same to every action. -/
theorem reset_forgets (machine : Machine width height) (actions : List Action) :
    machine.reset.run actions =
        { machine.renewed.run actions with
          unknowns := (machine.renewed.run actions).unknowns + machine.unknowns } ∧
      machine.reset.answers actions = machine.renewed.answers actions := by
  rw [reset_eq_renewed]
  exact machine.renewed.run_addUnknowns actions machine.unknowns

end Machine

end ChipEight
