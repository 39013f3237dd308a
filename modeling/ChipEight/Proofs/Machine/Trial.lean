import ChipEight.Proofs.Machine.Switches

/-!
# Runs up to the first fault

A host runs a machine frame by frame: it takes as many steps as the speed says, and then
time passes (`Action.frames`).  The first fault ends the stepping, while time goes on.
Such a run is a trial; it keeps a record of the instructions completed and of the fault.

A trial without a fault is a run (`Trial.run_of_completes`), and one with a fault is a run
up to that fault (`Trial.exists_first_fault`).  The machine counts what the trial records
(`Trial.cycles_run`).  Where it neither faults nor waits for a key, every step completes an
instruction (`Trial.length_executed`).
-/

namespace ChipEight

namespace Action

/-- What happens to a machine in a frame. -/
def frame (elapsed : Float) (speed : Nat) : List Action :=
  List.replicate speed .step ++ [.pass elapsed]

/-- What happens to a machine in a number of frames. -/
def frames (elapsed : Float) (speed count : Nat) : List Action :=
  (List.replicate count (frame elapsed speed)).flatten

theorem frames_zero (elapsed : Float) (speed : Nat) : frames elapsed speed 0 = [] := rfl

theorem frames_succ (elapsed : Float) (speed count : Nat) :
    frames elapsed speed (count + 1) = frame elapsed speed ++ frames elapsed speed count := rfl

/-- A frame of two steps or more begins with them. -/
theorem frames_eq_cons_cons (elapsed : Float) (speed count : Nat) :
    ∃ rest, frames elapsed (speed + 2) (count + 1) = .step :: .step :: rest :=
  ⟨_, rfl⟩

/-- Whether an action can happen in a frame. -/
def inFrame : Action → Bool
  | .step | .pass _ => true
  | _ => false

/-- Whether an action is a step. -/
def isStep : Action → Bool
  | .step => true
  | _ => false

theorem inFrame_of_mem_frames {elapsed : Float} {speed count : Nat} {action : Action}
    (member : action ∈ frames elapsed speed count) : action.inFrame := by
  simp only [frames, List.mem_flatten, List.mem_replicate] at member
  obtain ⟨_, ⟨-, rfl⟩, member⟩ := member
  rcases List.mem_append.mp member with stepped | passed
  · rw [(List.mem_replicate.mp stepped).2]
    rfl
  · rw [List.mem_singleton.mp passed]
    rfl

theorem countP_isStep_frames (elapsed : Float) (speed count : Nat) :
    (frames elapsed speed count).countP isStep = count * speed := by
  induction count with
  | zero => simp [frames]
  | succ count ih =>
    have one : (frame elapsed speed).countP isStep = speed := by
      simp [frame, isStep, List.countP_replicate]
    rw [frames_succ, List.countP_append, ih, one, Nat.succ_mul, Nat.add_comm]

end Action

namespace Machine

variable {width height : Nat} {machine : Machine width height} {first : Action}
  {rest : List Action}

/-- Whether all steps of a run end without a fault. -/
def Completes (machine : Machine width height) (actions : List Action) : Prop :=
  ∀ front, front ++ [.step] <+: actions →
    ∃ executed, (machine.run front).step.outcome = .ok executed

theorem Completes.head (completes : machine.Completes (.step :: rest)) :
    ∃ executed, machine.step.outcome = .ok executed :=
  completes [] ⟨rest, rfl⟩

theorem Completes.tail (completes : machine.Completes (first :: rest)) :
    (machine.act first).Completes rest :=
  fun front isFront => completes (first :: front) (List.cons_prefix_cons.mpr ⟨rfl, isFront⟩)

theorem Completes.cons (later : (machine.act first).Completes rest)
    (now : first = .step → ∃ executed, machine.step.outcome = .ok executed) :
    machine.Completes (first :: rest) := by
  intro front isFront
  cases front with
  | nil => exact now (List.cons_prefix_cons.mp isFront).1.symm
  | cons other front =>
    obtain ⟨rfl, shorter⟩ := List.cons_prefix_cons.mp isFront
    exact later front shorter

/-- How many instructions a step completes. -/
def completed : Except Fault (Option Instruction) → Nat
  | .ok executed => executed.toList.length
  | .error _ => 0

theorem cycles_step (machine : Machine width height) :
    machine.step.machine.cycles = machine.cycles + completed machine.step.outcome := by
  have steps := machine.steps_step
  generalize machine.step = result at steps ⊢
  cases steps with
  | waits | leaves | faults => rfl
  | finishes => rfl
  | @executes span next idle fetched executed =>
    have next_eq : next.cycles = (machine.fetch span).cycles := cycles_of_effect executed
    exact congrArg (· + 1) next_eq

/-- An instruction that draws a random byte completes where it comes up. -/
theorem outcome_of_draws {instruction : Instruction}
    (upcoming : machine.upcoming? = some instruction) (draws : instruction.drawsByte) :
    machine.step.outcome = .ok (some instruction) := by
  have steps := machine.steps_step
  generalize machine.step = result at steps ⊢
  cases steps with
  | waits pending | finishes pending => simp [upcoming?, pending] at upcoming
  | leaves idle outside => simp [upcoming?, idle, outside] at upcoming
  | executes idle fetched =>
    rw [upcoming?_of_at?_eq_some idle fetched] at upcoming
    exact congrArg Except.ok upcoming
  | faults idle fetched faulted =>
    rw [upcoming?_of_at?_eq_some idle fetched] at upcoming
    rw [Option.some.inj upcoming] at faulted
    cases instruction <;> contradiction

/-- A return from no call faults. -/
theorem outcome_of_stray_return (upcoming : machine.upcoming? = some .return)
    (outermost : machine.stack = []) : machine.step.outcome = .error .stackUnderflow := by
  have untop {span : Span 2} : (machine.fetch span).calls.top? = none :=
    CallStack.top?_eq_none_iff.mpr outermost
  have steps := machine.steps_step
  generalize machine.step = result at steps ⊢
  cases steps with
  | waits pending | finishes pending => simp [upcoming?, pending] at upcoming
  | leaves idle outside => simp [upcoming?, idle, outside] at upcoming
  | @executes span next idle fetched executed =>
    rw [upcoming?_of_at?_eq_some idle fetched] at upcoming
    simp [Option.some.inj upcoming, effect, untop] at executed
  | @faults span fault idle fetched faulted =>
    rw [upcoming?_of_at?_eq_some idle fetched] at upcoming
    simp only [Option.some.inj upcoming, effect, untop] at faulted
    rw [Except.error.inj faulted]

/-- A step of a machine that does not wait completes an instruction or faults. -/
theorem outcome_of_idle (idle : machine.wait = none) : machine.step.outcome ≠ .ok none := by
  have steps := machine.steps_step
  generalize machine.step = result at steps ⊢
  cases steps with
  | waits pending => simp [pending] at idle
  | finishes | leaves | faults | executes => simp

theorem screen_step_of_error {fault : Fault} (faulted : machine.step.outcome = .error fault) :
    machine.step.machine.screen = machine.screen := by
  rw [(machine.atomic_of_fault faulted).1]

end Machine

/-- A run that stops its stepping with the first fault. -/
structure Trial (width height : Nat) where
  /-- The machine. -/
  machine : Machine width height
  /-- The instructions completed so far. -/
  executed : List Instruction := []
  /-- The fault, if there was one. -/
  fault : Option Fault := none

namespace Trial

variable {width height : Nat}

/-- A step, unless there was a fault. -/
def step (trial : Trial width height) : Trial width height :=
  match trial.fault with
  | some _ => trial
  | none =>
    let result := trial.machine.step
    match result.outcome with
    | .ok executed =>
      { trial with
        machine := result.machine, executed := trial.executed ++ executed.toList }
    | .error fault => { trial with machine := result.machine, fault := some fault }

/-- A trial after an action. -/
def act (trial : Trial width height) : Action → Trial width height
  | .step => trial.step
  | action => { trial with machine := trial.machine.act action }

/-- A trial after a sequence of actions. -/
def run (trial : Trial width height) (actions : List Action) : Trial width height :=
  actions.foldl act trial

@[simp]
theorem run_nil (trial : Trial width height) : trial.run [] = trial := rfl

@[simp]
theorem run_cons (trial : Trial width height) (first : Action) (rest : List Action) :
    trial.run (first :: rest) = (trial.act first).run rest := rfl

theorem run_append (trial : Trial width height) (front back : List Action) :
    trial.run (front ++ back) = (trial.run front).run back :=
  List.foldl_append

variable {trial : Trial width height} {fault : Fault}

/-! ## Steps -/

theorem step_of_fault (faulted : trial.fault = some fault) : trial.step = trial := by
  rw [step, faulted]

theorem step_of_ok {executed : Option Instruction} (unfaulted : trial.fault = none)
    (completed : trial.machine.step.outcome = .ok executed) :
    trial.step =
      { trial with
        machine := trial.machine.step.machine
        executed := trial.executed ++ executed.toList } := by
  simp only [step, unfaulted, completed]

theorem step_of_error (unfaulted : trial.fault = none)
    (faulted : trial.machine.step.outcome = .error fault) :
    trial.step = { trial with machine := trial.machine.step.machine, fault := some fault } := by
  simp only [step, unfaulted, faulted]

theorem act_of_ne_step {action : Action} (noStep : action ≠ .step) :
    trial.act action = { trial with machine := trial.machine.act action } := by
  cases action with
  | step => contradiction
  | pass | keys | load | reset => rfl

theorem steps_of_fault (faulted : trial.fault = some fault) (count : Nat) :
    trial.run (List.replicate count .step) = trial := by
  induction count with
  | zero => rfl
  | succ count ih =>
    rw [List.replicate_succ, run_cons, act, step_of_fault faulted]
    exact ih

/-! ## What is recorded stays -/

theorem prefix_act (trial : Trial width height) (action : Action) :
    trial.executed <+: (trial.act action).executed := by
  cases action with
  | step =>
    rw [act]
    cases before : trial.fault with
    | some fault => simp only [step_of_fault before, List.prefix_rfl]
    | none =>
      cases ended : trial.machine.step.outcome with
      | ok executed =>
        rw [step_of_ok before ended]
        exact List.prefix_append _ _
      | error fault =>
        simp only [step_of_error before ended, List.prefix_rfl]
  | pass | keys | load | reset => exact List.prefix_rfl

theorem prefix_run (trial : Trial width height) (actions : List Action) :
    trial.executed <+: (trial.run actions).executed := by
  induction actions generalizing trial with
  | nil => exact List.prefix_rfl
  | cons first rest ih => exact (trial.prefix_act first).trans (ih (trial.act first))

theorem fault_act (faulted : trial.fault = some fault) (action : Action) :
    (trial.act action).fault = some fault := by
  cases action with
  | step =>
    rw [act, step_of_fault faulted]
    exact faulted
  | pass | keys | load | reset => exact faulted

theorem fault_run (faulted : trial.fault = some fault) (actions : List Action) :
    (trial.run actions).fault = some fault := by
  induction actions generalizing trial with
  | nil => exact faulted
  | cons first rest ih => exact ih (fault_act faulted first)

/-- Behind a fault nothing is completed. -/
theorem executed_run_of_fault (faulted : trial.fault = some fault) (actions : List Action) :
    (trial.run actions).executed = trial.executed := by
  induction actions generalizing trial with
  | nil => rfl
  | cons first rest ih =>
    rw [run_cons, ih (fault_act faulted first)]
    cases first with
    | step => rw [act, step_of_fault faulted]
    | pass | keys | load | reset => rfl

/-- A trial without a fault at the end had none before. -/
theorem fault_eq_none_of_run {actions : List Action}
    (unfaulted : (trial.run actions).fault = none) : trial.fault = none := by
  cases before : trial.fault with
  | none => rfl
  | some fault =>
    rw [fault_run before actions] at unfaulted
    contradiction

/-! ## Trials and runs -/

/-- A trial of a machine that completes its steps is a run. -/
theorem run_of_completes {actions : List Action} (unfaulted : trial.fault = none)
    (completes : trial.machine.Completes actions) :
    (trial.run actions).machine = trial.machine.run actions ∧
      (trial.run actions).fault = none := by
  induction actions generalizing trial with
  | nil => exact ⟨rfl, unfaulted⟩
  | cons first rest ih =>
    have later := completes.tail
    cases first with
    | step =>
      obtain ⟨executed, completed⟩ := completes.head
      have stepped := step_of_ok unfaulted completed
      rw [run_cons, act, stepped, Machine.run_cons]
      exact ih unfaulted later
    | pass | keys | load | reset => exact ih unfaulted later

theorem screen_act_of_fault (faulted : trial.fault = some fault) {action : Action}
    (inFrame : action.inFrame) : (trial.act action).machine.screen = trial.machine.screen := by
  cases action with
  | step => rw [act, step_of_fault faulted]
  | pass elapsed => rfl
  | keys | load | reset => contradiction

theorem screen_run_of_fault (faulted : trial.fault = some fault) {actions : List Action}
    (inFrames : ∀ action ∈ actions, action.inFrame) :
    (trial.run actions).machine.screen = trial.machine.screen := by
  induction actions generalizing trial with
  | nil => rfl
  | cons first rest ih =>
    have later : ∀ action ∈ rest, action.inFrame := fun action member =>
      inFrames action (.tail first member)
    rw [run_cons, ih (fault_act faulted first) later,
      screen_act_of_fault faulted (inFrames first (.head rest))]

theorem run_step_of_ok (unfaulted : trial.fault = none) {executed : Option Instruction}
    (completed : trial.machine.step.outcome = .ok executed) (rest : List Action) :
    trial.run (.step :: rest) =
      Trial.run
        { trial with
          machine := trial.machine.step.machine
          executed := trial.executed ++ executed.toList } rest := by
  rw [run_cons, act, step_of_ok unfaulted completed]

/-- The step that faults is the last one. -/
theorem run_step_of_error (unfaulted : trial.fault = none)
    (faulted : trial.machine.step.outcome = .error fault) {rest : List Action}
    (inFrames : ∀ action ∈ rest, action.inFrame) :
    (trial.run (.step :: rest)).fault = some fault ∧
      (trial.run (.step :: rest)).executed = trial.executed ∧
      (trial.run (.step :: rest)).machine.screen = trial.machine.screen := by
  have stepped := step_of_error unfaulted faulted
  have kept : trial.step.fault = some fault := by rw [stepped]
  rw [run_cons, act, fault_run kept, executed_run_of_fault kept,
    screen_run_of_fault kept inFrames, stepped]
  exact ⟨rfl, rfl, Machine.screen_step_of_error faulted⟩

/-- A trial with a fault is a run up to the step that faults.  The screen stays as it is
then. -/
theorem exists_first_fault {actions : List Action} (unfaulted : trial.fault = none)
    (inFrames : ∀ action ∈ actions, action.inFrame)
    (faulted : (trial.run actions).fault = some fault) :
    ∃ front, front ++ [.step] <+: actions ∧ trial.machine.Completes front ∧
      (trial.machine.run front).step.outcome = .error fault ∧
      (trial.run actions).machine.screen = (trial.machine.run front).screen := by
  induction actions generalizing trial with
  | nil =>
    rw [run_nil, unfaulted] at faulted
    contradiction
  | cons first rest ih =>
    have later : ∀ action ∈ rest, action.inFrame := fun action member =>
      inFrames action (.tail first member)
    cases first with
    | keys | load | reset => exact absurd (inFrames _ (.head rest)) Bool.false_ne_true
    | pass elapsed =>
      obtain ⟨front, isFront, completes, met, screen_eq⟩ :=
        @ih (trial.act (.pass elapsed)) unfaulted later faulted
      have completes : (trial.machine.act (.pass elapsed)).Completes front := completes
      exact ⟨.pass elapsed :: front, List.cons_prefix_cons.mpr ⟨rfl, isFront⟩,
        completes.cons nofun, met, screen_eq⟩
    | step =>
      cases ended : trial.machine.step.outcome with
      | error met =>
        obtain ⟨fault_eq, -, screen_eq⟩ := run_step_of_error unfaulted ended later
        obtain rfl : met = fault := Option.some.inj (fault_eq.symm.trans faulted)
        refine ⟨[], ⟨rest, rfl⟩, fun front isFront => ?_, ended, screen_eq⟩
        simp at isFront
      | ok executed =>
        rw [run_step_of_ok unfaulted ended] at faulted ⊢
        let stepped : Trial width height :=
          { trial with
            machine := trial.machine.step.machine
            executed := trial.executed ++ executed.toList }
        obtain ⟨front, isFront, completes, met, screen_eq⟩ := @ih stepped unfaulted later faulted
        have completes : (trial.machine.act .step).Completes front := completes
        exact ⟨.step :: front, List.cons_prefix_cons.mpr ⟨rfl, isFront⟩,
          completes.cons fun _ => ⟨executed, ended⟩, met, screen_eq⟩

/-! ## Counting -/

theorem cycles_act {action : Action} (inFrame : action.inFrame) :
    (trial.act action).machine.cycles + trial.executed.length =
      trial.machine.cycles + (trial.act action).executed.length := by
  cases action with
  | keys | load | reset => contradiction
  | pass elapsed => rfl
  | step =>
    rw [act]
    cases before : trial.fault with
    | some fault => rw [step_of_fault before]
    | none =>
      cases ended : trial.machine.step.outcome with
      | ok executed =>
        rw [step_of_ok before ended, trial.machine.cycles_step, ended, List.length_append]
        simp only [Machine.completed]
        omega
      | error fault =>
        rw [step_of_error before ended, trial.machine.cycles_step, ended]
        rfl

/-- The machine counts the instructions that the trial records. -/
theorem cycles_run {actions : List Action} (inFrames : ∀ action ∈ actions, action.inFrame) :
    (trial.run actions).machine.cycles + trial.executed.length =
      trial.machine.cycles + (trial.run actions).executed.length := by
  induction actions generalizing trial with
  | nil => rfl
  | cons first rest ih =>
    have now := @cycles_act _ _ trial _ (inFrames first (.head rest))
    have later := @ih (trial.act first) fun action member => inFrames action (.tail first member)
    rw [run_cons]
    omega

/-- Every step completes an instruction where a trial neither faults nor waits. -/
theorem length_executed {actions : List Action} (inFrames : ∀ action ∈ actions, action.inFrame)
    (idle : trial.machine.wait = none) (unfaulted : (trial.run actions).fault = none)
    (unasked : ∀ x, .waitKey x ∉ (trial.run actions).executed) :
    (trial.run actions).executed.length =
      trial.executed.length + actions.countP Action.isStep := by
  induction actions generalizing trial with
  | nil => rfl
  | cons first rest ih =>
    have later : ∀ action ∈ rest, action.inFrame := fun action member =>
      inFrames action (.tail first member)
    rw [run_cons] at unfaulted unasked ⊢
    cases first with
    | keys | load | reset => exact absurd (inFrames _ (.head rest)) Bool.false_ne_true
    | pass elapsed => exact @ih (trial.act (.pass elapsed)) later idle unfaulted unasked
    | step =>
      have stillNone : (trial.act .step).fault = none := fault_eq_none_of_run unfaulted
      have before : trial.fault = none := @fault_eq_none_of_run _ _ trial [.step] stillNone
      match ended : trial.machine.step.outcome with
      | .error fault =>
        rw [act, step_of_error before ended] at stillNone
        contradiction
      | .ok none => exact absurd ended (Machine.outcome_of_idle idle)
      | .ok (some instruction) =>
        have stepped : trial.act .step =
            { trial with
              machine := trial.machine.step.machine
              executed := trial.executed ++ [instruction] } :=
          step_of_ok before ended
        have recorded : instruction ∈ ((trial.act .step).run rest).executed :=
          ((trial.act .step).prefix_run rest).subset (by rw [stepped]; simp)
        have idleAfter : (trial.act .step).machine.wait = none := by
          rw [stepped]
          refine Classical.not_not.mp fun waits => ?_
          rcases Machine.wait_step waits with waited | ⟨x, asked⟩
          · exact waited idle
          · rw [ended] at asked
            cases asked
            exact unasked x recorded
        have length_eq : (trial.act .step).executed.length = trial.executed.length + 1 := by
          rw [stepped, List.length_append]
          rfl
        rw [@ih (trial.act .step) later idleAfter unfaulted unasked, length_eq,
          List.countP_cons_of_pos rfl]
        omega

/-! ## Trials on varied machines -/

/-- The trial with a variation of its machine. -/
def vary (trial : Trial width height) (variation : Variation) : Trial width height :=
  { trial with machine := trial.machine.vary variation }

theorem act_vary {variation : Variation} (settings : variation.OfSettings)
    (sameSwitches : variation.compatibility = id) {action : Action}
    (undrawn : ∀ instruction ∈ (trial.act action).executed, ¬ instruction.drawsByte) :
    (trial.vary variation).act action = (trial.act action).vary variation := by
  by_cases isStep : action = .step
  · subst isStep
    cases before : trial.fault with
    | some fault =>
      have beforeVaried : (trial.vary variation).fault = some fault := before
      rw [act, act, step_of_fault before, step_of_fault beforeVaried]
    | none =>
      have indifferent : trial.machine.Indifferent variation := by
        refine
          ⟨settings, fun instruction _ => ?_, fun instruction upcoming draws => ?_, fun _ => ?_⟩
        · rw [sameSwitches]
          exact instruction.not_disputed_self _
        · have ended := Machine.outcome_of_draws upcoming draws
          have recorded : instruction ∈ (trial.act .step).executed := by
            rw [act, step_of_ok before ended]
            simp
          exact absurd draws (undrawn instruction recorded)
        · rw [sameSwitches]
          rfl
      obtain ⟨events, stepped, -⟩ := Machine.step_vary indifferent
      have beforeVaried : (trial.vary variation).fault = none := before
      cases ended : trial.machine.step.outcome with
      | ok executed =>
        have endedVaried : (trial.vary variation).machine.step.outcome = .ok executed := by
          rw [vary, stepped, ended]
        rw [act, act, step_of_ok before ended, step_of_ok beforeVaried endedVaried]
        simp only [vary, stepped]
      | error fault =>
        have endedVaried : (trial.vary variation).machine.step.outcome = .error fault := by
          rw [vary, stepped, ended]
        rw [act, act, step_of_error before ended, step_of_error beforeVaried endedVaried]
        simp only [vary, stepped]
  · rw [act_of_ne_step isStep, act_of_ne_step isStep]
    exact congrArg (fun machine => { trial with machine := machine })
      (Machine.act_vary settings trial.machine isStep)

/-- A trial that draws no random byte does not depend on the source of random bytes, nor
on the trace switch. -/
theorem run_vary {variation : Variation} (settings : variation.OfSettings)
    (sameSwitches : variation.compatibility = id) {actions : List Action}
    (undrawn : ∀ instruction ∈ (trial.run actions).executed, ¬ instruction.drawsByte) :
    (trial.vary variation).run actions = (trial.run actions).vary variation := by
  induction actions generalizing trial with
  | nil => rfl
  | cons first rest ih =>
    rw [run_cons] at undrawn ⊢
    have now := act_vary settings sameSwitches fun instruction member =>
      undrawn instruction (((trial.act first).prefix_run rest).subset member)
    rw [now]
    exact ih undrawn

end Trial

end ChipEight
