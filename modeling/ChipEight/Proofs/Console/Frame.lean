import ChipEight.Console.Run
import ChipEight.Proofs.Machine.Step

/-!
# What the parts of a frame leave alone

A step, a report and a change of the tone each touch a few parts of a console.  The
lemmas here say which, once for each of them.  A frame is a burst of instructions, after
which time passes (`Console.runFrame_eq`).
-/

namespace ChipEight

namespace Console

theorem showScreen_eq (console : Console) :
    ∃ display, console.showScreen = { console with display := display } := by
  rw [showScreen]
  split
  · exact ⟨console.display, rfl⟩
  · exact ⟨_, rfl⟩
  · exact ⟨_, rfl⟩

theorem updateTone_eq (console : Console) :
    ∃ tone audio toolkit, console.updateTone =
      { console with tone := tone, audio := audio, toolkit := toolkit } := by
  simp only [updateTone]
  split
  · exact ⟨console.tone, console.audio, console.toolkit, rfl⟩
  · split <;> exact ⟨_, _, _, rfl⟩

theorem reportFrameRate_eq (console : Console) (elapsed : Float) :
    ∃ reportElapsed reportFrames notices, console.reportFrameRate elapsed =
      { console with
        reportElapsed := reportElapsed, reportFrames := reportFrames
        notices := console.notices ++ notices } := by
  simp only [reportFrameRate]
  split
  · exact ⟨_, _, #[], by rw [Array.append_empty]⟩
  · split
    · exact ⟨_, _, #[_], rfl⟩
    · exact ⟨_, _, #[], by rw [Array.append_empty]⟩

/-- An event reaches the display or the reports. -/
theorem deliver_eq (console : Console) (event : Event) :
    ∃ display notices, console.deliver event =
      { console with display := display, notices := console.notices ++ notices } := by
  cases event with
  | drawn =>
    obtain ⟨display, shown⟩ := console.showScreen_eq
    exact ⟨display, #[], by rw [deliver, shown, Array.append_empty]⟩
  | trace address word => exact ⟨console.display, #[.machine (.trace address word)], rfl⟩
  | unknown address word => exact ⟨console.display, #[.machine (.unknown address word)], rfl⟩

theorem deliverAll_eq (events : List Event) (console : Console) :
    ∃ display notices, events.foldl deliver console =
      { console with display := display, notices := console.notices ++ notices } := by
  induction events generalizing console with
  | nil => exact ⟨console.display, #[], by rw [Array.append_empty, List.foldl_nil]⟩
  | cons event rest ih =>
    obtain ⟨first, firstNotices, delivered⟩ := console.deliver_eq event
    obtain ⟨display, notices, deliveredAll⟩ := ih (console.deliver event)
    refine ⟨display, firstNotices ++ notices, ?_⟩
    rw [List.foldl_cons, deliveredAll, delivered, Array.append_assoc]

/-- A step is the step of the machine, with its events passed on. -/
theorem cycle_eq (console : Console) :
    ∃ display notices, console.cycle =
      ({ console with
          machine := console.machine.step.machine
          display := display, notices := console.notices ++ notices },
        console.machine.step.outcome) := by
  obtain ⟨display, notices, delivered⟩ := deliverAll_eq console.machine.step.events
    { console with machine := console.machine.step.machine }
  exact ⟨display, notices, by rw [cycle, delivered]⟩

theorem cycle_machine (console : Console) :
    console.cycle.1.machine = console.machine.step.machine := by
  obtain ⟨display, notices, cycled⟩ := console.cycle_eq
  rw [cycled]

theorem reset_eq (console : Console) :
    ∃ display tone audio toolkit, console.reset =
      { console with
        machine := console.machine.reset, paused := false, lastFault := none
        display := display, tone := tone, audio := audio, toolkit := toolkit
        notices := console.notices.push .resetting } := by
  obtain ⟨display, shown⟩ := showScreen_eq { console.note .resetting with
    machine := console.machine.reset, paused := false, lastFault := none }
  obtain ⟨tone, audio, toolkit, toned⟩ := updateTone_eq { console.note .resetting with
    machine := console.machine.reset, paused := false, lastFault := none, display := display }
  exact ⟨display, tone, audio, toolkit, by rw [reset, shown, toned]; rfl⟩

theorem reset_machine (console : Console) : console.reset.machine = console.machine.reset := by
  obtain ⟨display, tone, audio, toolkit, reset_eq⟩ := console.reset_eq
  rw [reset_eq]

theorem step_of_ok {console : Console} {executed : Option Instruction}
    (ended : console.machine.step.outcome = .ok executed) :
    console.step = (console.cycle.1, true) := by
  obtain ⟨display, notices, cycled⟩ := console.cycle_eq
  rw [step, cycled, ended]

/-- A step that meets a fault keeps it and pauses. -/
theorem step_of_error {console : Console} {fault : Fault}
    (faulted : console.machine.step.outcome = .error fault) :
    console.step = (console.cycle.1.contain fault, false) := by
  obtain ⟨display, notices, cycled⟩ := console.cycle_eq
  rw [step, cycled, faulted]

/-- What a step changes besides the machine. -/
theorem step_eq (console : Console) :
    ∃ display lastFault paused notices, console.step.1 =
      { console with
        machine := console.machine.step.machine
        display := display, lastFault := lastFault, paused := paused, notices := notices } := by
  obtain ⟨display, notices, cycled⟩ := console.cycle_eq
  cases ended : console.machine.step.outcome with
  | ok executed =>
    rw [step_of_ok ended, cycled]
    exact ⟨display, console.lastFault, console.paused, _, rfl⟩
  | error fault =>
    rw [step_of_error ended, cycled]
    exact ⟨display, some fault, true, _, rfl⟩

theorem poll_eq (console : Console) :
    ∃ display toolkit keypad, console.poll.1 =
      { console with
        machine := { console.machine with keypad := keypad }
        display := display, toolkit := toolkit } := by
  rw [poll]
  split
  · exact ⟨console.display, console.toolkit, console.machine.keypad, rfl⟩
  · exact ⟨_, console.toolkit, _, rfl⟩
  · simp only
    split
    · exact ⟨_, _, _, rfl⟩
    · exact ⟨_, _, console.machine.keypad, rfl⟩

theorem tick_eq (console : Console) :
    ∃ display toolkit,
      console.tick.1 = { console with display := display, toolkit := toolkit } := by
  rw [tick]
  split
  · exact ⟨console.display, console.toolkit, rfl⟩
  · exact ⟨console.display, console.toolkit, rfl⟩
  · exact ⟨_, _, rfl⟩

/-- The instructions of a frame, with their number: none while the console pauses. -/
def burst (console : Console) : Console × Nat :=
  if console.paused then (console, 0) else console.steps console.speed

/-- Time passes: for the timers, the tone and the reports. -/
def pass (console : Console) (elapsed : Float) : Console :=
  let timed := { console with machine := console.machine.updateTimers elapsed }.updateTone
  { timed with frames := timed.frames + 1 }.reportFrameRate elapsed

/-- A frame is its instructions, and then time passes. -/
theorem runFrame_eq (console : Console) (elapsed : Float) :
    console.runFrame elapsed = (console.burst.1.pass elapsed, console.burst.2) := rfl

theorem pass_eq (console : Console) (elapsed : Float) :
    ∃ tone audio toolkit reportElapsed reportFrames notices, console.pass elapsed =
      { console with
        machine := console.machine.updateTimers elapsed, frames := console.frames + 1
        tone := tone, audio := audio, toolkit := toolkit
        reportElapsed := reportElapsed, reportFrames := reportFrames
        notices := console.notices ++ notices } := by
  obtain ⟨tone, audio, toolkit, toned⟩ := updateTone_eq
    { console with machine := console.machine.updateTimers elapsed }
  obtain ⟨reportElapsed, reportFrames, notices, reported⟩ := reportFrameRate_eq
    { console with
      machine := console.machine.updateTimers elapsed, frames := console.frames + 1
      tone := tone, audio := audio, toolkit := toolkit } elapsed
  exact ⟨tone, audio, toolkit, reportElapsed, reportFrames, notices, by rw [pass, toned, reported]⟩

theorem pass_paused (console : Console) (elapsed : Float) :
    (console.pass elapsed).paused = console.paused := by
  obtain ⟨tone, audio, toolkit, reportElapsed, reportFrames, notices, passed⟩ :=
    console.pass_eq elapsed
  rw [passed]

end Console

end ChipEight
