import ChipEight.Proofs.Console.Frame
import ChipEight.Proofs.Machine.Run

/-!
# What a host asks of a console

A host calls a console: it loads programs, changes keys, asks for steps, frames and
whole sessions, and hands over commands.  A call that is refused, such as loading a
program without room, leaves the console as it was.

Every call has a trace of what it does to the machine: its steps, each with the machine
that took it, and its resets.  The trace of a call follows the call, so that a frame ends
its trace with the first fault, and a session with the first command to quit.

A call is made of a few operations.  What each of them preserves, beside the trace that
it leaves, is preserved by every sequence of calls (`Console.Preserved.calls`).
-/

namespace ChipEight

namespace Console

/-- What a host can ask of a console. -/
inductive Call where
  /-- Load a program under a name. -/
  | load (program : Array UInt8) (name : Option String)
  /-- Change the keys. -/
  | keys (change : Keypad.Change)
  /-- Leave commands for the next poll of a recorder. -/
  | queue (commands : List Command)
  /-- Take a step. -/
  | step
  /-- Run a frame. -/
  | frame (elapsed : Float)
  /-- Run a session with at most so many frames, or until its script ends it. -/
  | run (budget : Option Int)
  /-- Carry out a command. -/
  | command (command : Command)
  /-- Reset. -/
  | reset

/-- Leave commands for the next poll of a recorder. -/
def queue (console : Console) (commands : List Command) : Console :=
  match console.display with
  | some (.recorder recorder) =>
    { console with
      display := some (.recorder { recorder with pending := recorder.pending ++ commands }) }
  | _ => console

/-- The console after a call. -/
def call (console : Console) : Call → Console
  | .load program name => (console.loadProgram program name).state
  | .keys change => { console with machine := console.machine.act (.keys change) }
  | .queue commands => console.queue commands
  | .step => console.step.1
  | .frame elapsed => (console.runFrame elapsed).1
  | .run (some budget) => (console.run budget).console
  | .run none => console.runScript.console
  | .command command => (console.handle command).1
  | .reset => console.reset

/-- The console after a sequence of calls. -/
def calls (console : Console) (calls : List Call) : Console :=
  calls.foldl call console

@[simp]
theorem calls_cons (console : Console) (first : Call) (rest : List Call) :
    console.calls (first :: rest) = (console.call first).calls rest := rfl

theorem calls_append (console : Console) (front back : List Call) :
    console.calls (front ++ back) = (console.calls front).calls back :=
  List.foldl_append

/-! ## Loading -/

section Loading

variable (console : Console) {program : Array UInt8} {name : Option String}

theorem run_adaptExcept {ε ε' σ α : Type} (adapt : ε → ε') (action : EStateM ε σ α) (start : σ) :
    (action.adaptExcept adapt).run start =
      match action.run start with
      | .ok value state => .ok value state
      | .error refusal state => .error (adapt refusal) state := by
  simp only [EStateM.run, EStateM.adaptExcept]
  cases action start with
  | ok value state => rfl
  | error refusal state => rfl

theorem run_onMachine_load :
    (onMachine (Machine.load program)).run console =
      (console.machine.loadProgram program).onState fun machine =>
        { console with machine := machine } :=
  rfl

/-- A console whose machine refuses a program is left as it was. -/
theorem loadProgram_of_tooLarge (tooLarge : programRoom < program.size) :
    console.loadProgram program name = .error ⟨program.size⟩ console := by
  rw [loadProgram, load, EStateM.run_bind, run_onMachine_load,
    console.machine.loadProgram_of_tooLarge tooLarge]
  rfl

theorem loadProgram_of_room (room : program.size ≤ programRoom) :
    console.loadProgram program name =
      .ok program.size { console with
        machine := console.machine.act (.load program), programName := name } := by
  rw [loadProgram, load, EStateM.run_bind, run_onMachine_load,
    console.machine.loadProgram_eq_ok room]
  rfl

/-- A console that refuses a program keeps the name of the one it has. -/
theorem call_load_of_tooLarge (tooLarge : programRoom < program.size) :
    console.call (.load program name) = console := by
  rw [call, console.loadProgram_of_tooLarge tooLarge]
  rfl

theorem call_load_of_room (room : program.size ≤ programRoom) :
    console.call (.load program name) =
      { console with machine := console.machine.act (.load program), programName := name } := by
  rw [call, console.loadProgram_of_room room]
  rfl

/-- What has been read from a file is loaded, and reported if it is accepted. -/
theorem loadFile_of_read {files : Files} {file : String}
    (read : files.read (Path.ofString file) = .ok program) :
    console.loadFile files file =
      match console.loadProgram program (some (Path.ofString file).name) with
      | .ok size loaded => .ok size (loaded.note (.loaded (Path.ofString file) size))
      | .error refused left => .error (.tooLarge refused) left := by
  rw [loadFile, loadFrom, readFile, read]
  simp only [pure_bind, EStateM.run_bind, run_adaptExcept, loadProgram]
  cases (load program (some (Path.ofString file).name)).run console with
  | ok size loaded => rfl
  | error refused left => rfl

end Loading

/-- Loading changes the machine and the name of its program, if anything. -/
theorem call_load_eq (console : Console) (program : Array UInt8) (name : Option String) :
    ∃ programName, console.call (.load program name) =
      { console with
        machine := console.machine.act (.load program), programName := programName } := by
  rcases Nat.lt_or_ge programRoom program.size with tooLarge | room
  · refine ⟨console.programName, ?_⟩
    rw [console.call_load_of_tooLarge tooLarge, console.machine.act_load_of_tooLarge tooLarge]
  · exact ⟨name, console.call_load_of_room room⟩

theorem queue_eq (console : Console) (commands : List Command) :
    ∃ display, console.queue commands = { console with display := display } := by
  rw [queue]
  split
  · exact ⟨_, rfl⟩
  · exact ⟨console.display, rfl⟩

/-! ## Traces -/

/-- Something that a console does to its machine. -/
inductive Deed where
  /-- The machine takes a step. -/
  | step (machine : Machine screenWidth screenHeight)
  /-- The machine is reset. -/
  | reset

/-- The trace of at most `count` steps. -/
def stepsDeeds (console : Console) : Nat → List Deed
  | 0 => []
  | count + 1 =>
    .step console.machine ::
      match console.step with
      | (console, true) => console.stepsDeeds count
      | (_, false) => []

/-- The trace of a frame. -/
def frameDeeds (console : Console) : List Deed :=
  if console.paused then [] else console.stepsDeeds console.speed

/-- The trace of a command. -/
def commandDeeds : Command → List Deed
  | .reset => [.reset]
  | _ => []

/-- The trace of commands that are carried out in order. -/
def commandsDeeds (console : Console) : List Command → List Deed
  | [] => []
  | command :: rest =>
    commandDeeds command ++
      match console.handle command with
      | (console, true) => console.commandsDeeds rest
      | (_, false) => []

/-- The trace of everything that precedes a frame. -/
def turnDeeds (console : Console) : List Deed :=
  match console.poll with
  | (_, .error _) => []
  | (console, .ok commands) => console.commandsDeeds commands

/-- The trace of a session. -/
def sessionDeeds (console : Console) : Nat → List Deed
  | 0 => []
  | budget + 1 =>
    console.turnDeeds ++
      match console.turn with
      | (console, .frame elapsed) =>
        console.frameDeeds ++ (console.runFrame elapsed).1.sessionDeeds budget
      | (_, .quit) | (_, .failed _) => []

/-- The trace of a call. -/
def callDeeds (console : Console) : Call → List Deed
  | .load _ _ | .keys _ | .queue _ => []
  | .step => [.step console.machine]
  | .frame _ => console.frameDeeds
  | .run (some budget) => console.sessionDeeds budget.toNat
  | .run none => console.sessionDeeds console.remainingPolls
  | .command command => commandDeeds command
  | .reset => [.reset]

/-- The trace of a sequence of calls. -/
def callsDeeds (console : Console) : List Call → List Deed
  | [] => []
  | first :: rest => console.callDeeds first ++ (console.call first).callsDeeds rest

/-! ## What calls preserve -/

/-- Whether the operations that calls are made of preserve an invariant of the trace so
far and the console after it. -/
structure Preserved (Invariant : List Deed → Console → Prop) : Prop where
  step : ∀ {past console}, Invariant past console →
    Invariant (past ++ [.step console.machine]) console.step.1
  pass : ∀ {past console} elapsed, Invariant past console → Invariant past (console.pass elapsed)
  command : ∀ {past console} command, Invariant past console →
    Invariant (past ++ commandDeeds command) (console.handle command).1
  poll : ∀ {past console}, Invariant past console → Invariant past console.poll.1
  tick : ∀ {past console}, Invariant past console → Invariant past console.tick.1
  load : ∀ {past console} program name, Invariant past console →
    Invariant past (console.call (.load program name))
  keys : ∀ {past console} change, Invariant past console →
    Invariant past (console.call (.keys change))
  queue : ∀ {past console} commands, Invariant past console →
    Invariant past (console.queue commands)

namespace Preserved

variable {Invariant : List Deed → Console → Prop} {past : List Deed} {console : Console}

theorem steps (preserved : Preserved Invariant) (holds : Invariant past console) (count : Nat) :
    Invariant (past ++ console.stepsDeeds count) (console.steps count).1 := by
  induction count generalizing console past with
  | zero =>
    rw [stepsDeeds, List.append_nil]
    exact holds
  | succ count ih =>
    have stepped := preserved.step holds
    rw [Console.steps, stepsDeeds, List.append_cons]
    rcases step_eq : console.step with ⟨next, _ | _⟩ <;> rw [step_eq] at stepped
    · rw [List.append_nil]
      exact stepped
    · exact ih stepped

theorem burst (preserved : Preserved Invariant) (holds : Invariant past console) :
    Invariant (past ++ console.frameDeeds) console.burst.1 := by
  rw [Console.burst, frameDeeds]
  split
  · rw [List.append_nil]
    exact holds
  · exact preserved.steps holds console.speed

theorem runFrame (preserved : Preserved Invariant) (holds : Invariant past console)
    (elapsed : Float) :
    Invariant (past ++ console.frameDeeds) (console.runFrame elapsed).1 :=
  preserved.pass elapsed (preserved.burst holds)

theorem handleAll (preserved : Preserved Invariant) (holds : Invariant past console)
    (commands : List Command) :
    Invariant (past ++ console.commandsDeeds commands) (console.handleAll commands).1 := by
  induction commands generalizing console past with
  | nil =>
    rw [commandsDeeds, List.append_nil]
    exact holds
  | cons command rest ih =>
    have handled := preserved.command command holds
    rw [Console.handleAll, commandsDeeds, ← List.append_assoc]
    rcases handle_eq : console.handle command with ⟨next, _ | _⟩ <;> rw [handle_eq] at handled
    · rw [List.append_nil]
      exact handled
    · exact ih handled

theorem turn (preserved : Preserved Invariant) (holds : Invariant past console) :
    Invariant (past ++ console.turnDeeds) console.turn.1 := by
  have polled := preserved.poll holds
  rw [Console.turn, turnDeeds]
  rcases poll_eq : console.poll with ⟨next, error | commands⟩ <;> rw [poll_eq] at polled
  · rw [List.append_nil]
    exact polled
  · have handled := preserved.handleAll polled commands
    rcases handle_eq : next.handleAll commands with ⟨after, _ | _⟩ <;> rw [handle_eq] at handled
    · simpa only [handle_eq] using handled
    · have ticked := preserved.tick handled
      rcases tick_eq : after.tick with ⟨last, error | elapsed⟩ <;> rw [tick_eq] at ticked
      · simpa only [handle_eq, tick_eq] using ticked
      · simpa only [handle_eq, tick_eq] using ticked

theorem runFrom (preserved : Preserved Invariant) (holds : Invariant past console)
    (count budget : Nat) :
    Invariant (past ++ console.sessionDeeds budget) (console.runFrom count budget).console := by
  induction budget generalizing console past count with
  | zero =>
    rw [Console.runFrom, sessionDeeds, List.append_nil]
    exact holds
  | succ budget ih =>
    have turned := preserved.turn holds
    rw [Console.runFrom, sessionDeeds, ← List.append_assoc]
    rcases turn_eq : console.turn with ⟨next, elapsed | _ | error⟩ <;> rw [turn_eq] at turned
    · -- Only a turn that leads to a frame goes on.
      rw [← List.append_assoc]
      exact ih (preserved.runFrame turned elapsed) (count + 1)
    · rw [List.append_nil]
      exact turned
    · rw [List.append_nil]
      exact turned

theorem call (preserved : Preserved Invariant) (holds : Invariant past console) (call : Call) :
    Invariant (past ++ console.callDeeds call) (console.call call) := by
  cases call with
  | step => exact preserved.step holds
  | frame elapsed => exact preserved.runFrame holds elapsed
  | command given => exact preserved.command given holds
  | reset => exact preserved.command .reset holds
  | run budget =>
    cases budget with
    | none => exact preserved.runFrom holds 0 console.remainingPolls
    | some budget => exact preserved.runFrom holds 0 budget.toNat
  | load program name =>
    rw [callDeeds, List.append_nil]
    exact preserved.load program name holds
  | keys change =>
    rw [callDeeds, List.append_nil]
    exact preserved.keys change holds
  | queue commands =>
    rw [callDeeds, List.append_nil]
    exact preserved.queue commands holds

/-- What the operations preserve is preserved by every sequence of calls. -/
theorem calls (preserved : Preserved Invariant) (holds : Invariant past console)
    (calls : List Call) :
    Invariant (past ++ console.callsDeeds calls) (console.calls calls) := by
  induction calls generalizing console past with
  | nil =>
    rw [callsDeeds, List.append_nil]
    exact holds
  | cons first rest ih =>
    rw [calls_cons, callsDeeds, ← List.append_assoc]
    exact ih (preserved.call holds first)

end Preserved

/-! ## The speed -/

variable {console : Console}

/-- Whether the speed is one that can be set. -/
def Paced (console : Console) : Prop :=
  1 ≤ console.speed ∧ console.speed ≤ 255

theorem paced_setSpeed (console : Console) (speed : Int) : (console.setSpeed speed).Paced := by
  change 1 ≤ clampSpeed speed ∧ clampSpeed speed ≤ 255
  rw [clampSpeed]
  omega

theorem paced_create (speed : Int) (compatibility : Compatibility) (random : RandomBytes)
    (debug : Bool) : (create speed compatibility random debug).Paced :=
  paced_setSpeed (create speed compatibility random debug) speed

theorem Paced.step (paced : console.Paced) : console.step.1.Paced := by
  obtain ⟨display, lastFault, paused, notices, stepped⟩ := console.step_eq
  rw [stepped]
  exact paced

theorem Paced.pass (paced : console.Paced) (elapsed : Float) : (console.pass elapsed).Paced := by
  obtain ⟨tone, audio, toolkit, reportElapsed, reportFrames, notices, passed⟩ :=
    console.pass_eq elapsed
  rw [passed]
  exact paced

theorem Paced.handle (paced : console.Paced) (command : Command) :
    (console.handle command).1.Paced := by
  cases command with
  | speedUp | speedDown => exact paced_setSpeed console _
  | reset =>
    obtain ⟨display, tone, audio, toolkit, reset_eq⟩ := console.reset_eq
    rw [Console.handle, reset_eq]
    exact paced
  | _ => exact paced

/-- No call leaves a speed that cannot be set. -/
theorem preserved_paced : Preserved fun _ console => console.Paced where
  step paced := paced.step
  pass elapsed paced := paced.pass elapsed
  command command paced := paced.handle command
  poll {_ console} paced := by
    obtain ⟨display, toolkit, keypad, polled⟩ := console.poll_eq
    rw [polled]
    exact paced
  tick {_ console} paced := by
    obtain ⟨display, toolkit, ticked⟩ := console.tick_eq
    rw [ticked]
    exact paced
  load {_ console} program name paced := by
    obtain ⟨programName, loaded⟩ := console.call_load_eq program name
    rw [loaded]
    exact paced
  keys change paced := paced
  queue {_ console} commands paced := by
    obtain ⟨display, queued⟩ := console.queue_eq commands
    rw [queued]
    exact paced

theorem Paced.calls (paced : console.Paced) (calls : List Call) : (console.calls calls).Paced :=
  @Preserved.calls _ [] console preserved_paced paced calls

end Console

end ChipEight
