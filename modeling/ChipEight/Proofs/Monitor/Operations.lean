import ChipEight.Monitor.Session
import ChipEight.Proofs.Console.Frame
import ChipEight.Proofs.Except
import ChipEight.Proofs.Machine.Run

/-!
# What a monitor line does to the machine

However a line reads, all it does to the machine is a sequence of a few operations:
steps and the other actions, setting a register, writing a byte, and turning the
trace on or off.  `Monitor.operations` lists them in order, and carrying them out comes
to the same as the line (`Monitor.machine_carryOut`).  So what all these operations
preserve holds under the monitor (`Monitor.carryOut_leads`).
-/

namespace ChipEight

/-! ## Operations -/

namespace Monitor

/-- What a line can do to the machine at a time. -/
inductive Operation where
  /-- The machine acts, or is acted on. -/
  | act (action : Action)
  /-- A register is set. -/
  | assign (target : Target) (value : Int)
  /-- A byte is written, where the address lies in memory. -/
  | write (address value : Int)
  /-- The trace is turned on or off. -/
  | trace

/-- The machine after an operation. -/
def operate (machine : Machine screenWidth screenHeight) :
    Operation → Machine screenWidth screenHeight
  | .act action => machine.act action
  | .assign target value => assign machine target value
  | .write address value =>
    match machine.write address value with
    | .ok written => written
    | .error _ => machine
  | .trace => { machine with debug := !machine.debug }

/-- The machine after a sequence of operations. -/
def operateAll (machine : Machine screenWidth screenHeight) (operations : List Operation) :
    Machine screenWidth screenHeight :=
  operations.foldl operate machine

@[simp]
theorem operateAll_nil (machine : Machine screenWidth screenHeight) :
    operateAll machine [] = machine := rfl

@[simp]
theorem operateAll_cons (machine : Machine screenWidth screenHeight) (first : Operation)
    (rest : List Operation) :
    operateAll machine (first :: rest) = operateAll (operate machine first) rest := rfl

theorem operateAll_append (machine : Machine screenWidth screenHeight)
    (front back : List Operation) :
    operateAll machine (front ++ back) = operateAll (operateAll machine front) back :=
  List.foldl_append

/-- Whether operations lead from one machine to another. -/
def Leads (machine next : Machine screenWidth screenHeight) : Prop :=
  ∃ operations : List Operation, operations.foldl operate machine = next

/-- What every operation preserves is preserved. -/
theorem Leads.invariant {first second : Machine screenWidth screenHeight}
    {Invariant : Machine screenWidth screenHeight → Prop}
    (preserved : ∀ machine operation,
      Invariant machine → Invariant (Monitor.operate machine operation))
    (leads : Leads first second) (holds : Invariant first) : Invariant second := by
  rcases leads with ⟨operations, rfl⟩
  induction operations generalizing first with
  | nil => exact holds
  | cons operation rest ih => exact ih (preserved first operation holds)

/-! ## The operations of a command -/

/-- How many of a number of steps are taken: none from where a breakpoint holds them up, and
none after the first one that completes no instruction.  A breakpoint does not hold up the
first step of a run. -/
def stepsTaken (breakpoints : List Int) (first : Bool)
    (machine : Machine screenWidth screenHeight) : Nat → Nat
  | 0 => 0
  | count + 1 =>
    if !first && atBreakpoint breakpoints machine then 0
    else
      match machine.step.outcome with
      | .ok (some _) => stepsTaken breakpoints false machine.step.machine count + 1
      | .ok none | .error _ => 1

/-- Steps, one after the other. -/
def stepOperations (count : Nat) : List Operation :=
  List.replicate count (.act .step)

/-- The operations of a number of frames, up to where the run stops. -/
def frameOperations (breakpoints : List Int) (first : Bool) (console : Console) :
    Nat → List Operation
  | 0 => []
  | count + 1 =>
    stepOperations (stepsTaken breakpoints first console.machine console.speed) ++
      match runSteps breakpoints first console console.speed with
      | (_, some _) => []
      | (next, none) =>
        .act (.pass frameTime) :: frameOperations breakpoints false (passFrame next) count

/-- The numbers that are written from an address on: those before the first one that is
refused or that has no place in memory. -/
def accepted (place : Int) : List (Except ArgumentError Int) → List Int
  | [] | .error _ :: _ => []
  | .ok value :: rest => if inMemory place 1 then value :: accepted (place + 1) rest else []

/-- Writes to consecutive addresses. -/
def writeOperations (place : Int) : List Int → List Operation
  | [] => []
  | value :: rest => .write place value :: writeOperations (place + 1) rest

/-- The operations for an argument that is granted; there are none for one that is refused. -/
def granted {α : Type} (read : Except ArgumentError α) (operations : α → List Operation) :
    List Operation :=
  match read with
  | .ok value => operations value
  | .error _ => []

/-- The operations of the words that set a register. -/
def assignOperations : List String → List Operation
  | name :: value :: _ =>
    granted (number value) fun value =>
      granted (target? (Text.lowerCase name)) fun target =>
        (target.map (.assign · value)).toList
  | _ => []

/-- The operations of the words that write memory. -/
def memoryOperations (machine : Machine screenWidth screenHeight) : List String → List Operation
  | place :: first :: rest =>
    granted (address machine place) fun start =>
      writeOperations start (accepted start ((first :: rest).map number))
  | _ => []

/-- The operations of the words that change keys. -/
def keyOperations : List String → List Operation
  | [] => []
  | action :: rest =>
    if Text.lowerCase action = "clear" then [.act (.keys .clear)]
    else
      match rest with
      | [] => []
      | digit :: _ =>
        if Text.lowerCase action = "press" then
          granted (integer .sixteen digit) fun number => [.act (.keys (.press number))]
        else if Text.lowerCase action = "release" then
          granted (integer .sixteen digit) fun number => [.act (.keys (.release number))]
        else []

section KeyOperations

variable {action : String} {rest : List String}

theorem keyOperations_of_clear (rest : List String) (clear : Text.lowerCase action = "clear") :
    keyOperations (action :: rest) = [.act (.keys .clear)] := by
  simp [keyOperations, clear]

theorem keyOperations_of_press (digit : String) (tail : List String)
    (press : Text.lowerCase action = "press") :
    keyOperations (action :: digit :: tail) =
      granted (integer .sixteen digit) fun number => [.act (.keys (.press number))] := by
  simp [keyOperations, press]

theorem keyOperations_of_release (digit : String) (tail : List String)
    (release : Text.lowerCase action = "release") :
    keyOperations (action :: digit :: tail) =
      granted (integer .sixteen digit) fun number => [.act (.keys (.release number))] := by
  simp [keyOperations, release]

theorem keyOperations_of_other (noClear : Text.lowerCase action = "clear" → False)
    (noPress : ∀ digit tail, Text.lowerCase action = "press" → rest = digit :: tail → False)
    (noRelease : ∀ digit tail, Text.lowerCase action = "release" → rest = digit :: tail → False) :
    keyOperations (action :: rest) = [] := by
  have other : Text.lowerCase action ≠ "clear" := noClear
  cases rest with
  | nil => simp [keyOperations, other]
  | cons digit tail =>
    have notPress : Text.lowerCase action ≠ "press" := fun press => noPress _ _ press rfl
    have notRelease : Text.lowerCase action ≠ "release" :=
      fun release => noRelease _ _ release rfl
    simp [keyOperations, other, notPress, notRelease]

end KeyOperations

/-- The operations of a command. -/
def commandOperations (monitor : Monitor) (verb : Verb) (argument : String) : List Operation :=
  match verb with
  | .step =>
    granted (numberOr 1 argument) fun count =>
      stepOperations (stepsTaken [] true monitor.machine count.toNat)
  | .run =>
    granted (numberOr 600 argument) fun count =>
      frameOperations monitor.breakpoints true monitor.console count.toNat
  | .tick =>
    granted (numberOr 1 argument) fun count =>
      List.replicate count.toNat (.act (.pass frameTime))
  | .reset => [.act .reset]
  | .setRegister => granted (wordsOf argument) assignOperations
  | .setMemory => granted (wordsOf argument) (memoryOperations monitor.machine)
  | .key => granted (wordsOf argument) keyOperations
  | .debug => [.trace]
  | .breakpoint | .removeBreakpoint | .registers | .status | .dump | .disassemble | .screen
  | .speed | .quit | .endOfInput | .help => []

/-- The operations of a line. -/
def operations (monitor : Monitor) (line : String) : List Operation :=
  match Line.parse line with
  | .command verb argument => monitor.commandOperations verb argument
  | .empty | .unknown _ => []

/-- Whether a command does these operations to a machine; one that is refused does none. -/
inductive Does (machine : Machine screenWidth screenHeight) :
    Except ArgumentError Outcome → List Operation → Prop where
  | performs {outcome : Outcome} {operations : List Operation}
      (machine_eq : outcome.monitor.machine = operateAll machine operations) :
      Does machine (.ok outcome) operations
  | refuses (error : ArgumentError) : Does machine (.error error) []

namespace Does

variable {α : Type} {machine : Machine screenWidth screenHeight}
  {rest : α → Except ArgumentError Outcome}

/-- A command that leaves the machine as it is does nothing to it. -/
theorem nil {outcome : Outcome} (machine_eq : outcome.monitor.machine = machine) :
    Does machine (.ok outcome) [] :=
  .performs machine_eq

theorem bind {operations : α → List Operation} (read : Except ArgumentError α)
    (each : ∀ value, Does machine (rest value) (operations value)) :
    Does machine (read >>= rest) (granted read operations) := by
  cases read with
  | error cause => exact .refuses cause
  | ok value => exact each value

theorem bind_nil (read : Except ArgumentError α) (each : ∀ value, Does machine (rest value) []) :
    Does machine (read >>= rest) [] := by
  cases read with
  | error cause => exact .refuses cause
  | ok value => exact each value

end Does

/-! ## Commands are their operations -/

/-- A run takes as many steps as nothing holds it up. -/
theorem machine_runSteps (breakpoints : List Int) (count : Nat) (first : Bool)
    (console : Console) :
    (runSteps breakpoints first console count).1.machine =
      operateAll console.machine
        (stepOperations (stepsTaken breakpoints first console.machine count)) := by
  induction count generalizing first console with
  | zero => rfl
  | succ count ih =>
    rw [runSteps, stepsTaken]
    split
    · rfl
    · obtain ⟨display, notices, cycled⟩ := console.cycle_eq
      rw [cycled]
      match console.machine.step.outcome with
      | .error fault => rfl
      | .ok none => rfl
      | .ok (some instruction) => exact ih false _

/-- Stepping is a run without breakpoints. -/
theorem machine_stepLines (count : Nat) (first : Bool) (console : Console)
    (shown : Array String) :
    (stepLines console shown count).1.machine =
      operateAll console.machine (stepOperations (stepsTaken [] first console.machine count)) := by
  induction count generalizing first console shown with
  | zero => rfl
  | succ count ih =>
    have free : ¬ (!first && atBreakpoint [] console.machine) := by simp [atBreakpoint]
    obtain ⟨display, notices, cycled⟩ := console.cycle_eq
    rw [stepLines, stepsTaken, if_neg free, cycled]
    match console.machine.step.outcome with
    | .error fault => rfl
    | .ok none => rfl
    | .ok (some instruction) => exact ih false _ _

theorem machine_runFrames (breakpoints : List Int) (count : Nat) (first : Bool)
    (console : Console) :
    (runFrames breakpoints first console count).1.machine =
      operateAll console.machine (frameOperations breakpoints first console count) := by
  induction count generalizing first console with
  | zero => rfl
  | succ count ih =>
    have ran := machine_runSteps breakpoints console.speed first console
    rw [runFrames, frameOperations, operateAll_append, ← ran]
    rcases runSteps breakpoints first console console.speed with ⟨next, _ | stop⟩
    · exact ih false (passFrame next)
    · rfl

theorem repeat_updateTimers (machine : Machine screenWidth screenHeight) (elapsed : Float)
    (count : Nat) :
    count.repeat (·.updateTimers elapsed) machine =
      operateAll machine (List.replicate count (.act (.pass elapsed))) := by
  induction count with
  | zero => rfl
  | succ count ih =>
    rw [Nat.repeat, ih, List.replicate_succ', operateAll_append]
    rfl

theorem write_of_inMemory (machine : Machine screenWidth screenHeight) {place : Int}
    (inside : inMemory place 1) (value : Int) :
    machine.write place value = .ok (operate machine (.write place value)) := by
  cases located : Span.at? place 1 with
  | none => exact absurd inside (Span.at?_eq_none_iff.mp located)
  | some span => simp only [operate, Machine.write, located]

theorem write_of_outside (machine : Machine screenWidth screenHeight) {place : Int}
    (outside : ¬ inMemory place 1) (value : Int) :
    machine.write place value = .error (.memory place 1) := by
  rw [Machine.write, Span.at?_eq_none_iff.mpr outside]

/-- Numbers are written up to the first one that is refused. -/
theorem machine_writeNumbers (numbers : List (Except ArgumentError Int))
    (machine : Machine screenWidth screenHeight) (place : Int) :
    (writeNumbers machine place numbers).1 =
      operateAll machine (writeOperations place (accepted place numbers)) := by
  induction numbers generalizing machine place with
  | nil => rfl
  | cons number rest ih =>
    cases number with
    | error error => rfl
    | ok value =>
      rw [writeNumbers, accepted]
      by_cases inside : inMemory place 1
      · rw [write_of_inMemory machine inside, if_pos inside]
        exact ih _ _
      · rw [write_of_outside machine inside, if_neg inside]
        rfl

theorem machine_writeFrom (monitor : Monitor) (start : Int)
    (numbers : List (Except ArgumentError Int)) :
    (monitor.writeFrom start numbers).monitor.machine =
      (writeNumbers monitor.machine start numbers).1 := rfl

section Commands

variable (monitor : Monitor) (argument : String)

theorem step_does :
    Does monitor.machine (monitor.step argument)
      (granted (numberOr 1 argument) fun count =>
        stepOperations (stepsTaken [] true monitor.machine count.toNat)) := by
  refine .bind _ fun count => .performs ?_
  exact machine_stepLines count.toNat true monitor.console #[]

theorem run_does :
    Does monitor.machine (monitor.run argument)
      (granted (numberOr 600 argument) fun count =>
        frameOperations monitor.breakpoints true monitor.console count.toNat) := by
  refine .bind _ fun count => .performs ?_
  exact machine_runFrames monitor.breakpoints count.toNat true monitor.console

theorem tick_does :
    Does monitor.machine (monitor.tick argument)
      (granted (numberOr 1 argument) fun count =>
        List.replicate count.toNat (.act (.pass frameTime))) := by
  refine .bind _ fun count => .performs ?_
  exact repeat_updateTimers monitor.machine frameTime count.toNat

theorem breakpoint_does : Does monitor.machine (monitor.breakpoint argument) [] := by
  rw [breakpoint]
  split
  · exact .nil rfl
  · exact .bind_nil _ fun _ => .nil rfl

theorem removeBreakpoint_does : Does monitor.machine (monitor.removeBreakpoint argument) [] := by
  rw [removeBreakpoint]
  split
  · exact .nil rfl
  · exact .bind_nil _ fun _ => .nil rfl

theorem setRegister_does :
    Does monitor.machine (monitor.setRegister argument)
      (granted (wordsOf argument) assignOperations) := by
  refine .bind _ fun words => ?_
  rcases words with _ | ⟨name, _ | ⟨value, rest⟩⟩
  · exact .nil rfl
  · exact .nil rfl
  · rw [assignOperations]
    refine .bind _ fun value => .bind _ fun target => ?_
    cases target with
    | none => exact .nil rfl
    | some target => exact .performs rfl

theorem setMemory_does :
    Does monitor.machine (monitor.setMemory argument)
      (granted (wordsOf argument) (memoryOperations monitor.machine)) := by
  refine .bind _ fun words => ?_
  rcases words with _ | ⟨place, _ | ⟨first, rest⟩⟩
  · exact .nil rfl
  · exact .nil rfl
  · rw [memoryOperations]
    refine .bind (address monitor.machine place) fun start => .performs ?_
    rw [machine_writeFrom, machine_writeNumbers]

theorem dump_does : Does monitor.machine (monitor.dump argument) [] := by
  refine .bind_nil _ fun words => ?_
  cases words with
  | nil => exact .nil rfl
  | cons place rest => exact .bind_nil _ fun _ => .bind_nil _ fun _ => .nil rfl

theorem disassemble_does : Does monitor.machine (monitor.disassemble argument) [] := by
  refine .bind_nil _ fun words => .bind_nil _ fun start => .bind_nil _ fun count => ?_
  split
  · exact .nil rfl
  · exact .nil rfl

theorem key_does :
    Does monitor.machine (monitor.key argument) (granted (wordsOf argument) keyOperations) := by
  refine .bind _ fun words => ?_
  cases words with
  | nil => exact .nil rfl
  | cons action rest =>
    dsimp only
    split
    case h_1 clear =>
      rw [keyOperations_of_clear _ clear]
      exact .performs rfl
    case h_2 digit tail press =>
      rw [keyOperations_of_press digit tail press]
      exact .bind _ fun _ => .performs rfl
    case h_3 digit tail release =>
      rw [keyOperations_of_release digit tail release]
      exact .bind _ fun _ => .performs rfl
    case h_4 noClear noPress noRelease =>
      rw [keyOperations_of_other noClear noPress noRelease]
      exact .nil rfl

theorem speed_does : Does monitor.machine (monitor.speed argument) [] := by
  rw [speed]
  split
  · exact .nil rfl
  · exact .bind_nil _ fun _ => .nil rfl

/-- A command does its operations. -/
theorem perform_does (verb : Verb) :
    Does monitor.machine (monitor.perform verb argument)
      (monitor.commandOperations verb argument) := by
  cases verb with
  | step => exact monitor.step_does argument
  | run => exact monitor.run_does argument
  | tick => exact monitor.tick_does argument
  | reset => exact .performs monitor.console.reset_machine
  | breakpoint => exact monitor.breakpoint_does argument
  | removeBreakpoint => exact monitor.removeBreakpoint_does argument
  | setRegister => exact monitor.setRegister_does argument
  | dump => exact monitor.dump_does argument
  | setMemory => exact monitor.setMemory_does argument
  | disassemble => exact monitor.disassemble_does argument
  | key => exact monitor.key_does argument
  | speed => exact monitor.speed_does argument
  | debug => exact .performs rfl
  | registers | status | screen | quit | endOfInput | help => exact .nil rfl

end Commands

/-- A line does its operations to the machine, and nothing else. -/
theorem machine_carryOut (monitor : Monitor) (line : String) :
    (monitor.carryOut line).monitor.machine =
      operateAll monitor.machine (monitor.operations line) := by
  rw [carryOut, operations]
  cases Line.parse line with
  | empty => rfl
  | unknown text => rfl
  | command verb argument =>
    have does := monitor.perform_does argument verb
    simp only
    generalize monitor.perform verb argument = performed at does ⊢
    generalize monitor.commandOperations verb argument = operations at does ⊢
    cases does with
    | performs machine_eq => exact machine_eq
    | refuses error => rfl

/-- The monitor after a number of lines. -/
def carryOutAll (monitor : Monitor) (lines : List String) : Monitor :=
  lines.foldl (fun monitor line => (monitor.carryOut line).monitor) monitor

/-- The operations of a number of lines. -/
def operationsAll (monitor : Monitor) : List String → List Operation
  | [] => []
  | line :: rest =>
    monitor.operations line ++ (monitor.carryOut line).monitor.operationsAll rest

theorem machine_carryOutAll (monitor : Monitor) (lines : List String) :
    (monitor.carryOutAll lines).machine =
      operateAll monitor.machine (monitor.operationsAll lines) := by
  induction lines generalizing monitor with
  | nil => rfl
  | cons line rest ih =>
    rw [operationsAll, operateAll_append, ← monitor.machine_carryOut line]
    exact ih (monitor.carryOut line).monitor

/-- All a line does to the machine is a sequence of operations. -/
theorem carryOut_leads (monitor : Monitor) (line : String) :
    Leads monitor.machine (monitor.carryOut line).monitor.machine :=
  ⟨monitor.operations line, (monitor.machine_carryOut line).symm⟩

end Monitor

end ChipEight
