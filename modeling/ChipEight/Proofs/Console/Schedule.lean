import ChipEight.Proofs.Console.Source
import ChipEight.Proofs.Machine.Trial

/-!
# Frames follow the schedule

Frame by frame a console does to its machine what a trial does: as many steps as its speed
says, up to the first fault, and then time passes (`Console.Follows.runFrame`).  A fault
pauses the console, and a paused console takes no steps.

The same holds for a session whose display gives no input (`Console.Follows.runFrom`).
Every frame then takes a sixtieth of a second, and all frames are run.
-/

namespace ChipEight

namespace Console

variable {console : Console} {trial : Trial screenWidth screenHeight} {speed : Nat}
  {earlier : Option Fault}

/-- Whether a console is where a trial is: it has the machine and the fault of the trial,
and pauses if there is a fault.  Until there is one it keeps the fault met earlier. -/
structure Follows (speed : Nat) (earlier : Option Fault) (trial : Trial screenWidth screenHeight)
    (console : Console) : Prop where
  machine : console.machine = trial.machine
  lastFault : console.lastFault = trial.fault.or earlier
  paused : console.paused = trial.fault.isSome
  speed : console.speed = speed

/-! ## Frames -/

/-- A step of a console that runs.  The flag tells whether the trial goes on. -/
theorem Follows.step (follows : console.Follows speed earlier trial)
    (running : trial.fault = none) :
    console.step.1.Follows speed earlier trial.step ∧ console.step.2 = trial.step.fault.isNone := by
  obtain ⟨display, notices, cycled⟩ := console.cycle_eq
  have machine_eq : console.machine.step.machine = trial.machine.step.machine :=
    congrArg (·.step.machine) follows.machine
  cases ended : console.machine.step.outcome with
  | ok executed =>
    have endedThere : trial.machine.step.outcome = .ok executed := follows.machine ▸ ended
    rw [step_of_ok ended, Trial.step_of_ok running endedThere, cycled]
    refine ⟨⟨machine_eq, follows.lastFault, follows.paused, follows.speed⟩, ?_⟩
    rw [running]
    rfl
  | error fault =>
    have endedThere : trial.machine.step.outcome = .error fault := follows.machine ▸ ended
    rw [step_of_error ended, Trial.step_of_error running endedThere, cycled]
    exact ⟨⟨machine_eq, rfl, rfl, follows.speed⟩, rfl⟩

/-- Steps of a console that runs, up to the first fault. -/
theorem Follows.steps (follows : console.Follows speed earlier trial) (running : trial.fault = none)
    (count : Nat) :
    (console.steps count).1.Follows speed earlier (trial.run (List.replicate count .step)) := by
  induction count generalizing console trial with
  | zero => exact follows
  | succ count ih =>
    obtain ⟨stepped, goesOn⟩ := follows.step running
    rw [Console.steps, List.replicate_succ, Trial.run_cons, Trial.act]
    rcases step_eq : console.step with ⟨next, _ | _⟩ <;> rw [step_eq] at stepped goesOn
    · -- The trial has met a fault, and takes no further steps.
      obtain ⟨fault, faulted⟩ := Option.isSome_iff_exists.mp
        (Option.isNone_eq_false_iff.mp goesOn.symm)
      rw [Trial.steps_of_fault faulted]
      exact stepped
    · exact ih stepped (Option.isNone_iff_eq_none.mp goesOn.symm)

theorem Follows.burst (follows : console.Follows speed earlier trial) :
    console.burst.1.Follows speed earlier (trial.run (List.replicate speed .step)) := by
  rw [Console.burst, follows.paused, follows.speed]
  cases before : trial.fault with
  | none => exact follows.steps before speed
  | some fault =>
    rw [Trial.steps_of_fault before]
    exact follows

theorem Follows.pass (follows : console.Follows speed earlier trial) (elapsed : Float) :
    (console.pass elapsed).Follows speed earlier (trial.act (.pass elapsed)) := by
  obtain ⟨tone, audio, toolkit, reportElapsed, reportFrames, notices, passed⟩ :=
    console.pass_eq elapsed
  have machine_eq : console.machine.updateTimers elapsed = trial.machine.updateTimers elapsed :=
    congrArg (·.updateTimers elapsed) follows.machine
  rw [passed]
  exact ⟨machine_eq, follows.lastFault, follows.paused, follows.speed⟩

/-- A frame does what the trial does in a frame. -/
theorem Follows.runFrame (follows : console.Follows speed earlier trial) (elapsed : Float) :
    (console.runFrame elapsed).1.Follows speed earlier
      (trial.run (Action.frame elapsed speed)) := by
  rw [runFrame_eq, Action.frame, Trial.run_append]
  exact follows.burst.pass elapsed

/-- Frames do what the trial does in as many frames. -/
theorem Follows.frames (follows : console.Follows speed earlier trial) (elapsed : Float)
    (count : Nat) :
    (console.calls (List.replicate count (.frame elapsed))).Follows speed earlier
      (trial.run (Action.frames elapsed speed count)) := by
  induction count generalizing console trial with
  | zero => exact follows
  | succ count ih =>
    rw [List.replicate_succ, calls_cons, Action.frames_succ, Trial.run_append]
    exact ih (follows.runFrame elapsed)

/-! ## Sessions without input -/

/-- Whether the display is a recorder that has no commands and no script. -/
def Unscripted (console : Console) : Prop :=
  ∃ recorder, console.display = some (.recorder recorder) ∧ recorder.pending = [] ∧
    recorder.script = []

theorem unscripted_iff (console : Console) :
    console.Unscripted ↔ ∃ elapsed, console.source = .script [] [] elapsed := by
  rw [Unscripted, source]
  rcases console.display with _ | recorder | window
  · simp
  · simp
  · simp

theorem Unscripted.runFrame (unscripted : console.Unscripted) (elapsed : Float) :
    (console.runFrame elapsed).1.Unscripted := by
  rw [unscripted_iff] at unscripted ⊢
  rw [source_runFrame]
  exact unscripted

/-- Without input nothing precedes a frame. -/
theorem Unscripted.turn (unscripted : console.Unscripted) :
    ∃ recorder, console.turn =
        ({ console with display := some (.recorder recorder) }, .frame frameTime) ∧
      recorder.pending = [] ∧ recorder.script = [] := by
  obtain ⟨recorder, display_eq, pending, script⟩ := unscripted
  refine ⟨recorder.poll.1, ?_, ?_⟩
  · simp [Console.turn, Console.poll, display_eq, Recorder.poll, Recorder.upcoming, pending, script,
      handleAll, Console.tick, Recorder.elapsedTime]
  · simp [Recorder.poll, script]

/-- A session without input runs all its frames. -/
theorem Follows.runFrom (follows : console.Follows speed earlier trial)
    (unscripted : console.Unscripted) (before budget : Nat) :
    (console.runFrom before budget).console.Follows speed earlier
        (trial.run (Action.frames frameTime speed budget)) ∧
      (console.runFrom before budget).frames = before + budget := by
  induction budget generalizing console trial before with
  | zero => exact ⟨follows, rfl⟩
  | succ budget ih =>
    obtain ⟨recorder, turned, pending, script⟩ := unscripted.turn
    have follows :
        { console with display := some (.recorder recorder) }.Follows speed earlier trial :=
      ⟨follows.machine, follows.lastFault, follows.paused, follows.speed⟩
    have unscripted : { console with display := some (.recorder recorder) }.Unscripted :=
      ⟨recorder, rfl, pending, script⟩
    rw [Console.runFrom, turned, Action.frames_succ, Trial.run_append]
    obtain ⟨ran, frames_eq⟩ := ih (follows.runFrame frameTime) (unscripted.runFrame frameTime)
      (before + 1)
    exact ⟨ran, by rw [frames_eq]; omega⟩

end Console

end ChipEight
