import ChipEight.Proofs.Console.Calls
import Mathlib.Data.List.TakeWhile

/-!
# What calls are made of

A call is a sequence of operations, each of which changes the console once: steps and the
passing of time make a frame; polls, commands, ticks and frames make a session.  The
operations of a call follow the call, as its trace does, and carrying them out one after
the other comes to the same as the call (`Console.calls_eq`).  So what is to hold at every
moment of a call can be said of the operations done so far.
-/

namespace ChipEight

namespace Console

/-- The operations that calls are made of. -/
inductive Operation where
  /-- Take a step. -/
  | step
  /-- Let time pass, at the end of a frame. -/
  | pass (elapsed : Float)
  /-- Carry out a command. -/
  | command (command : Command)
  /-- Poll the display. -/
  | poll
  /-- Ask the display how long the frame takes. -/
  | tick
  /-- Load a program under a name. -/
  | load (program : Array UInt8) (name : Option String)
  /-- Change the keys. -/
  | keys (change : Keypad.Change)
  /-- Leave commands for the next poll of a recorder. -/
  | queue (commands : List Command)

/-- The console after an operation. -/
def operate (console : Console) : Operation → Console
  | .step => console.step.1
  | .pass elapsed => console.pass elapsed
  | .command command => (console.handle command).1
  | .poll => console.poll.1
  | .tick => console.tick.1
  | .load program name => console.call (.load program name)
  | .keys change => console.call (.keys change)
  | .queue commands => console.queue commands

/-- The console after a sequence of operations. -/
def operateAll (console : Console) (operations : List Operation) : Console :=
  operations.foldl operate console

@[simp]
theorem operateAll_nil (console : Console) : console.operateAll [] = console := rfl

@[simp]
theorem operateAll_cons (console : Console) (first : Operation) (rest : List Operation) :
    console.operateAll (first :: rest) = (console.operate first).operateAll rest := rfl

theorem operateAll_append (console : Console) (front back : List Operation) :
    console.operateAll (front ++ back) = (console.operateAll front).operateAll back :=
  List.foldl_append

/-- The console after commands that are carried out one after the other. -/
def carryOut (console : Console) (commands : List Command) : Console :=
  console.operateAll (commands.map .command)

/-! ## The operations of a call -/

/-- The operations of a frame: as many steps as its trace has, and then time passes. -/
def frameOperations (console : Console) (elapsed : Float) : List Operation :=
  List.replicate console.frameDeeds.length .step ++ [.pass elapsed]

/-- The commands before the first one to quit. -/
def heeded (commands : List Command) : List Command :=
  commands.takeWhile (· != .quit)

theorem heeded_of_stays {commands : List Command} (stays : .quit ∉ commands) :
    heeded commands = commands := by
  rw [heeded, List.takeWhile_eq_self_iff]
  rintro command given
  exact bne_iff_ne.mpr fun quits => stays (quits ▸ given)

theorem heeded_append_quit {before : List Command} (stays : .quit ∉ before)
    (after : List Command) : heeded (before ++ .quit :: after) = before := by
  have all_stay : ∀ command ∈ before, (command != .quit) = true := by
    rintro command given
    exact bne_iff_ne.mpr fun quits => stays (quits ▸ given)
  rw [heeded, List.takeWhile_append_of_pos all_stay, List.takeWhile_cons_of_neg (by simp),
    List.append_nil]

/-- The operations of everything that precedes a frame. -/
def turnOperations (console : Console) : List Operation :=
  .poll ::
    match console.poll with
    | (_, .error _) => []
    | (_, .ok commands) =>
      (heeded commands).map .command ++ if .quit ∈ commands then [] else [.tick]

/-- The operations of a session. -/
def sessionOperations (console : Console) : Nat → List Operation
  | 0 => []
  | budget + 1 =>
    console.turnOperations ++
      match console.turn with
      | (console, .frame elapsed) =>
        console.frameOperations elapsed ++ (console.runFrame elapsed).1.sessionOperations budget
      | (_, .quit) | (_, .failed _) => []

/-- The operations of a call. -/
def callOperations (console : Console) : Call → List Operation
  | .load program name => [.load program name]
  | .keys change => [.keys change]
  | .queue commands => [.queue commands]
  | .step => [.step]
  | .frame elapsed => console.frameOperations elapsed
  | .run (some budget) => console.sessionOperations budget.toNat
  | .run none => console.sessionOperations console.remainingPolls
  | .command command => [.command command]
  | .reset => [.command .reset]

/-- The operations of a sequence of calls. -/
def callsOperations (console : Console) : List Call → List Operation
  | [] => []
  | first :: rest => console.callOperations first ++ (console.call first).callsOperations rest

/-! ## Calls are their operations -/

theorem steps_eq (console : Console) (count : Nat) :
    (console.steps count).1 =
      console.operateAll (List.replicate (console.stepsDeeds count).length .step) := by
  induction count generalizing console with
  | zero => rfl
  | succ count ih =>
    rw [steps, stepsDeeds, List.length_cons, List.replicate_succ, operateAll_cons, operate]
    rcases step_eq : console.step with ⟨next, _ | _⟩
    · rfl
    · exact ih next

theorem runFrame_eq_operateAll (console : Console) (elapsed : Float) :
    (console.runFrame elapsed).1 = console.operateAll (console.frameOperations elapsed) := by
  have burst_eq : console.burst.1 =
      console.operateAll (List.replicate console.frameDeeds.length .step) := by
    rw [burst, frameDeeds]
    split
    · rfl
    · exact console.steps_eq console.speed
  rw [runFrame_eq, burst_eq, frameOperations, operateAll_append]
  rfl

/-- No command but one to quit ends a session. -/
theorem handle_of_ne_quit (console : Console) {command : Command} (stays : command ≠ .quit) :
    console.handle command = (console.operate (.command command), true) := by
  cases command with
  | quit => contradiction
  | _ => rfl

/-- Commands are carried out in order, up to the first one to quit. -/
theorem handleAll_eq (console : Console) (commands : List Command) :
    console.handleAll commands =
      (console.operateAll ((heeded commands).map .command), decide (.quit ∉ commands)) := by
  induction commands generalizing console with
  | nil => rfl
  | cons first rest ih =>
    by_cases quits : first = .quit
    · subst quits
      rfl
    · have heeded_eq : heeded (first :: rest) = first :: heeded rest :=
        List.takeWhile_cons_of_pos (bne_iff_ne.mpr quits)
      have stays_iff : .quit ∉ first :: rest ↔ .quit ∉ rest := by
        simp [Ne.symm quits]
      rw [handleAll, console.handle_of_ne_quit quits, heeded_eq, List.map_cons, operateAll_cons]
      simp only [ih, stays_iff]

theorem turn_eq_operateAll (console : Console) :
    console.turn.1 = console.operateAll console.turnOperations := by
  rw [turn, turnOperations, operateAll_cons, operate]
  rcases console.poll with ⟨polled, error | commands⟩
  · rfl
  · by_cases quits : .quit ∈ commands
    · simp only [handleAll_eq, quits, not_true, decide_false, if_true, List.append_nil]
    · simp only [handleAll_eq, quits, not_false_iff, decide_true, if_false, operateAll_append]
      rcases tick_eq : (polled.operateAll ((heeded commands).map .command)).tick with
        ⟨ticked, error | elapsed⟩
      · simp [operate, tick_eq]
      · simp [operate, tick_eq]

theorem runFrom_eq_operateAll (console : Console) (count budget : Nat) :
    (console.runFrom count budget).console =
      console.operateAll (console.sessionOperations budget) := by
  induction budget generalizing console count with
  | zero => rfl
  | succ budget ih =>
    have turned := console.turn_eq_operateAll
    rw [runFrom, sessionOperations, operateAll_append, ← turned]
    rcases console.turn with ⟨ready, elapsed | _ | error⟩
    · rw [operateAll_append, ← runFrame_eq_operateAll]
      exact ih (ready.runFrame elapsed).1 (count + 1)
    · rfl
    · rfl

theorem call_eq_operateAll (console : Console) (call : Call) :
    console.call call = console.operateAll (console.callOperations call) := by
  cases call with
  | frame elapsed => exact console.runFrame_eq_operateAll elapsed
  | run budget =>
    cases budget with
    | none => exact console.runFrom_eq_operateAll 0 console.remainingPolls
    | some budget => exact console.runFrom_eq_operateAll 0 budget.toNat
  | load | keys | queue | step | command | reset => rfl

theorem callsOperations_append (console : Console) (front back : List Call) :
    console.callsOperations (front ++ back) =
      console.callsOperations front ++ (console.calls front).callsOperations back := by
  induction front generalizing console with
  | nil => rfl
  | cons first rest ih =>
    rw [List.cons_append, callsOperations, ih, callsOperations, calls_cons, List.append_assoc]

/-- Calls come to the same as their operations. -/
theorem calls_eq (console : Console) (calls : List Call) :
    console.calls calls = console.operateAll (console.callsOperations calls) := by
  induction calls generalizing console with
  | nil => rfl
  | cons first rest ih =>
    rw [calls_cons, callsOperations, operateAll_append, ← call_eq_operateAll]
    exact ih (console.call first)

end Console

end ChipEight
