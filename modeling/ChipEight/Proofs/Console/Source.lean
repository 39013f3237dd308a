import ChipEight.Proofs.Console.Operations
import Mathlib.Logic.Function.Iterate

/-!
# Where the input of a console comes from

A recorder has been given commands and a script, and so it is known from the start which
rounds a session will have that polls it: the commands of each poll, and the time that the
frame after it takes (`Console.Source.round`).  Without a display no commands are given,
and every frame takes a sixtieth of a second.  What a window will give is not known.

Only a poll takes something of what is to come, and only commands that are left for the next
poll add to it; all else leaves it alone (`Console.source_operate`).
-/

namespace ChipEight

namespace Console

/-! ## Rounds to come -/

/-- A round of a session. -/
@[ext]
structure Round where
  /-- The commands of its poll. -/
  commands : List Command
  /-- The time that its frame takes. -/
  elapsed : Float

/-- Where the input of a console comes from. -/
inductive Source where
  /-- There is no display. -/
  | nowhere
  /-- From a recorder: the commands that wait, the frames to come, and the time that the
  frame under way takes, if the script tells. -/
  | script (pending : List Command) (frames : List ScriptFrame) (elapsed : Option Float)
  /-- From a window. -/
  | window

namespace Source

/-- The rounds to come.  Waiting commands belong to the first of them. -/
def round : Source → Nat → Round
  | script pending frames _, index =>
    let frame := frames[index]?.getD {}
    { commands := (if index = 0 then pending else []) ++ frame.commands
      elapsed := frame.elapsed.getD frameTime }
  | nowhere, _ | window, _ => ⟨[], frameTime⟩

/-- What is left after a poll. -/
def next : Source → Source
  | script _ frames _ => script [] frames.tail (frames.head?.getD {}).elapsed
  | nowhere => nowhere
  | window => window

/-- The time that the frame under way takes. -/
def time : Source → Float
  | script _ _ elapsed => elapsed.getD frameTime
  | nowhere | window => frameTime

theorem time_next (source : Source) : source.next.time = (source.round 0).elapsed := by
  cases source with
  | script pending frames elapsed => rw [next, time, round, List.head?_eq_getElem?]
  | nowhere | window => rfl

theorem round_next (source : Source) (index : Nat) :
    source.next.round index = source.round (index + 1) := by
  cases source with
  | script pending frames elapsed => simp [next, round]
  | nowhere | window => rfl

theorem round_iterate (source : Source) (polls index : Nat) :
    (next^[polls] source).round index = source.round (index + polls) := by
  induction polls generalizing source with
  | zero => rfl
  | succ polls ih => rw [Function.iterate_succ_apply, ih, round_next, Nat.add_assoc]

theorem next_ne_window {source : Source} (scripted : source ≠ window) :
    source.next ≠ window := by
  cases source with
  | script | nowhere => simp [next]
  | window => contradiction

theorem iterate_ne_window {source : Source} (scripted : source ≠ window) (polls : Nat) :
    next^[polls] source ≠ window := by
  induction polls generalizing source with
  | zero => exact scripted
  | succ polls ih => exact ih (next_ne_window scripted)

end Source

/-- Where the input of the console comes from. -/
def source (console : Console) : Source :=
  match console.display with
  | none => .nowhere
  | some (.recorder recorder) => .script recorder.pending recorder.script recorder.elapsed
  | some (.window _) => .window

/-! ## What leaves the input alone -/

theorem source_showScreen (console : Console) : console.showScreen.source = console.source := by
  rw [showScreen]
  split
  · rfl
  · rename_i recorder shows
    simp only [source, shows, Recorder.draw]
  · rename_i window shows
    simp only [source, shows]

theorem source_deliverAll (events : List Event) (console : Console) :
    (events.foldl deliver console).source = console.source := by
  induction events generalizing console with
  | nil => rfl
  | cons event rest ih =>
    rw [List.foldl_cons, ih]
    cases event with
    | drawn => exact console.source_showScreen
    | trace | unknown => rfl

/-- Whether an operation leaves alone what is to come. -/
def Operation.silent : Operation → Bool
  | .poll | .queue _ => false
  | _ => true

theorem source_operate (console : Console) {operation : Operation}
    (silent : operation.silent = true) :
    (console.operate operation).source = console.source := by
  cases operation with
  | step =>
    have cycled : console.cycle.1.source = console.source :=
      source_deliverAll console.machine.step.events
        { console with machine := console.machine.step.machine }
    cases ended : console.machine.step.outcome with
    | ok executed =>
      rw [operate, step_of_ok ended]
      exact cycled
    | error fault =>
      rw [operate, step_of_error ended]
      exact cycled
  | pass elapsed =>
    obtain ⟨tone, audio, toolkit, reportElapsed, reportFrames, notices, passed⟩ :=
      console.pass_eq elapsed
    rw [operate, passed]
    rfl
  | command command =>
    cases command with
    | reset =>
      let fresh := { console.note .resetting with
        machine := console.machine.reset, paused := false, lastFault := none }
      obtain ⟨tone, audio, toolkit, toned⟩ := fresh.showScreen.updateTone_eq
      change fresh.showScreen.updateTone.source = console.source
      rw [toned]
      exact fresh.source_showScreen
    | _ => rfl
  | tick =>
    rw [operate, tick]
    split
    · rfl
    · rfl
    · rename_i window shows
      simp only [source, shows]
  | load program name =>
    obtain ⟨programName, loaded⟩ := console.call_load_eq program name
    rw [operate, loaded]
    rfl
  | keys change => rfl
  | poll | queue => contradiction

theorem source_operateAll (console : Console) (operations : List Operation)
    (silent : ∀ operation ∈ operations, operation.silent = true) :
    (console.operateAll operations).source = console.source := by
  induction operations generalizing console with
  | nil => rfl
  | cons first rest ih =>
    obtain ⟨silent, rest_silent⟩ := List.forall_mem_cons.mp silent
    rw [operateAll_cons, ih _ rest_silent, source_operate _ silent]

theorem source_carryOut (console : Console) (commands : List Command) :
    (console.carryOut commands).source = console.source := by
  apply source_operateAll
  simp [Operation.silent]

theorem source_runFrame (console : Console) (elapsed : Float) :
    (console.runFrame elapsed).1.source = console.source := by
  rw [runFrame_eq_operateAll]
  apply source_operateAll
  rintro operation part
  rcases List.mem_append.mp part with stepping | passing
  · rw [List.eq_of_mem_replicate stepping]
    rfl
  · rw [List.mem_singleton.mp passing]
    rfl

/-! ## Polls without a window -/

variable {console : Console}

/-- Without a window a poll gives the commands of the first round to come. -/
theorem poll_of_scripted (scripted : console.source ≠ .window) :
    console.poll = (console.poll.1, .ok (console.source.round 0).commands) ∧
      console.poll.1.source = console.source.next := by
  rcases shows : console.display with _ | recorder | window
  · have nowhere : console.source = .nowhere := by rw [source, shows]
    have unchanged : console.poll = (console, .ok []) := by rw [poll, shows]
    rw [unchanged, nowhere]
    exact ⟨rfl, rfl⟩
  · have waits : console.source = .script recorder.pending recorder.script recorder.elapsed := by
      rw [source, shows]
    have commands_eq : (console.source.round 0).commands = recorder.poll.2.1 := by
      simp [waits, Source.round, Recorder.poll, Recorder.upcoming, List.head?_eq_getElem?]
    rw [commands_eq, waits, poll, shows]
    exact ⟨rfl, rfl⟩
  · rw [source, shows] at scripted
    contradiction

theorem tick_of_scripted (scripted : console.source ≠ .window) :
    console.tick = (console, .ok console.source.time) := by
  rcases shows : console.display with _ | recorder | window
  · rw [tick, source, shows]
    rfl
  · rw [tick, source, shows]
    rfl
  · rw [source, shows] at scripted
    contradiction

/-- Whatever commands are carried out after the poll, the display then tells the time of the
same round. -/
theorem tick_carryOut_poll (scripted : console.source ≠ .window) (commands : List Command) :
    let ready := console.poll.1.carryOut commands
    ready.source = console.source.next ∧
      ready.tick = (ready, .ok (console.source.round 0).elapsed) := by
  intro ready
  have ready_source : ready.source = console.source.next :=
    (source_carryOut _ _).trans (poll_of_scripted scripted).2
  constructor
  · exact ready_source
  · rw [tick_of_scripted (ready_source ▸ Source.next_ne_window scripted), ready_source,
      Source.time_next]

end Console

end ChipEight
