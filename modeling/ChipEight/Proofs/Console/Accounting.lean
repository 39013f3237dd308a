import ChipEight.Proofs.Console.Faults
import ChipEight.Proofs.Machine.Counts
import ChipEight.Proofs.Machine.Progress

/-!
# What a frame reports

A frame reports how many of its steps did not fault.  A step that finds the machine still
waiting for a key does not fault, but completes nothing either.  So once the machine waits,
the frame reports its whole speed, while the machine counts only what it has completed
(`Console.runFrame_reports`).
-/

namespace ChipEight

namespace Console

variable {console : Console}

theorem steps_succ_of_ok {executed : Option Instruction}
    (ended : console.machine.step.outcome = .ok executed) (count : Nat) :
    console.steps (count + 1) =
      ((console.cycle.1.steps count).1, (console.cycle.1.steps count).2 + 1) := by
  rw [steps, step_of_ok ended]

/-- Steps of a machine that waits change nothing, and all of them are reported. -/
theorem steps_of_stalled (stalled : console.machine.step = ⟨console.machine, [], .ok none⟩)
    (count : Nat) :
    (console.steps count).1.machine = console.machine ∧ (console.steps count).2 = count := by
  induction count generalizing console with
  | zero => exact ⟨rfl, rfl⟩
  | succ count ih =>
    have ended : console.machine.step.outcome = .ok none := by rw [stalled]
    have machine_eq : console.cycle.1.machine = console.machine := by
      rw [cycle_machine, stalled]
    rw [steps_succ_of_ok ended]
    obtain ⟨same, reported⟩ := ih (by rw [machine_eq, stalled])
    exact ⟨same.trans machine_eq, congrArg (· + 1) reported⟩

/-- Steps get a machine as far as it gets; a wait for a key uses up all that are left. -/
theorem steps_of_advances {machine last : Machine screenWidth screenHeight} {count : Nat}
    {past : List (Machine screenWidth screenHeight)} {halt : Halt}
    (advances : machine.Advances count past halt last) (same : console.machine = machine) :
    (console.steps count).1.machine = last ∧
      (console.steps count).2 = if halt = .waiting then count else past.length := by
  induction advances generalizing console with
  | spent => exact ⟨same, rfl⟩
  | @faults machine budget cause faulted =>
    subst same
    obtain ⟨display, lastFault, paused, notices, stepped⟩ := console.step_eq
    rw [(steps_of_fault faulted budget).1, stepped]
    exact ⟨rfl, rfl⟩
  | @waits machine budget waited =>
    subst same
    have stalled := Machine.step_of_stalled (Machine.wait_of_waited waited)
    rw [← console.cycle_machine] at stalled ⊢
    obtain ⟨unchanged, reported⟩ := steps_of_stalled stalled budget
    rw [steps_succ_of_ok waited]
    exact ⟨unchanged, congrArg (· + 1) reported⟩
  | @executes machine last budget instruction past halt completed rest ih =>
    subst same
    obtain ⟨gotThere, reported⟩ := ih console.cycle_machine
    rw [steps_succ_of_ok completed]
    refine ⟨gotThere, ?_⟩
    rw [reported, List.length_cons]
    split <;> rfl

theorem burst_of_running (running : ¬ console.paused) :
    console.burst = console.steps console.speed := if_neg running

/-- A frame leaves the machine that its steps have left, some time later. -/
theorem runFrame_machine (console : Console) (elapsed : Float) :
    (console.runFrame elapsed).1.machine = console.burst.1.machine.updateTimers elapsed := by
  obtain ⟨tone, audio, toolkit, reportElapsed, reportFrames, notices, passed⟩ :=
    console.burst.1.pass_eq elapsed
  rw [runFrame_eq, passed]

/-- A frame in which the machine comes to wait for a key reports more than it completes. -/
theorem overreports_of_waiting {past : List (Machine screenWidth screenHeight)}
    {last : Machine screenWidth screenHeight} (running : ¬ console.paused)
    (advances : console.machine.Advances console.speed past .waiting last) (elapsed : Float) :
    ¬ (console.runFrame elapsed).1.machine.cycles =
      console.machine.cycles + (console.runFrame elapsed).2 := by
  obtain ⟨gotThere, reported⟩ := steps_of_advances advances rfl
  have counted : (last.updateTimers elapsed).cycles = console.machine.cycles + past.length :=
    advances.cycles
  have fewer : past.length < console.speed := advances.length_past
  rw [runFrame_machine, runFrame_eq, burst_of_running running, gotThere, counted, reported,
    if_pos rfl]
  omega

/-- A paused frame reports nothing and completes nothing.  Any other frame gets its machine
as far as the speed allows, and then time passes.  The machine counts what it has completed:
as many instructions as the speed says, or those before the first fault, or before it waits
for a key.  The frame reports the same number, unless the machine waits for a key; then it
reports the speed, which is more. -/
theorem runFrame_reports (console : Console) (elapsed : Float) :
    (console.paused → (console.runFrame elapsed).2 = 0 ∧
      (console.runFrame elapsed).1.machine = console.machine.updateTimers elapsed) ∧
    (¬ console.paused → ∃ past halt last,
      console.machine.Advances console.speed past halt last ∧
      (console.runFrame elapsed).1.machine = last.updateTimers elapsed ∧
      (console.runFrame elapsed).1.machine.cycles = console.machine.cycles + past.length ∧
      (if halt = .spent then past.length = console.speed else past.length < console.speed) ∧
      (console.runFrame elapsed).2 =
        if halt = .waiting then console.speed else past.length) := by
  rw [runFrame_machine, runFrame_eq]
  refine ⟨fun paused => ?_, fun running => ?_⟩
  · rw [burst, if_pos paused]
    exact ⟨rfl, rfl⟩
  · rw [burst_of_running running]
    obtain ⟨past, halt, last, advances⟩ := console.machine.exists_advances console.speed
    obtain ⟨gotThere, reported⟩ := steps_of_advances advances rfl
    refine ⟨past, halt, last, advances, congrArg (·.updateTimers elapsed) gotThere, ?_,
      advances.length_past, reported⟩
    rw [gotThere]
    exact advances.cycles

/-- A console about to wait for a key, two steps a frame. -/
def stalling : Console :=
  { create 2 .reference (.cycle #[]) false with machine := .asking }

theorem stalling_advances :
    ∃ last, Machine.asking.Advances 2 [.asking] .waiting last := by
  have begins := Machine.asking_beginsWait
  simp only [Machine.beginsWait, Bool.and_eq_true, Option.isNone_iff_eq_none,
    Option.isSome_iff_ne_none] at begins
  obtain ⟨idle, waits⟩ := begins
  obtain ⟨instruction, completed⟩ := Machine.completed_of_begun idle waits
  have stalled := Machine.step_of_stalled waits
  exact ⟨_, .executes completed (.waits (by rw [stalled]))⟩

/-- The second step of the frame completes nothing and is reported all the same. -/
theorem stalling_overreports :
    ¬ (stalling.runFrame frameTime).1.machine.cycles =
      stalling.machine.cycles + (stalling.runFrame frameTime).2 := by
  have running : ¬ stalling.paused := Bool.false_ne_true
  obtain ⟨last, advances⟩ := stalling_advances
  have advances : stalling.machine.Advances stalling.speed [.asking] .waiting last := advances
  exact overreports_of_waiting running advances frameTime

end Console

end ChipEight
