import ChipEight.Machine.Step
import ChipEight.Proofs.Machine.Loading
import ChipEight.Proofs.Machine.Memory

/-!
# Runs

Between the steps of a machine its surroundings act on it: they let time pass,
change keys, load programs and reset it.  A run is any sequence of steps and of
these actions.

An action that is refused, such as loading a program without room, leaves the
machine as it was.
-/

namespace ChipEight

/-- What an input source does to the keys. -/
inductive Keypad.Change where
  /-- Put the key down that a number names. -/
  | press (number : Int)
  /-- Let the key up that a number names. -/
  | release (number : Int)
  /-- Replace all keys; there must be sixteen flags. -/
  | states (states : List Bool)
  /-- Let all keys up. -/
  | clear

/-- The keypad after a change. -/
def Keypad.change (keypad : Keypad) : Keypad.Change → Keypad
  | .press number => keypad.press (Key.ofInt number)
  | .release number => keypad.release (Key.ofInt number)
  | .states states =>
    match Keypad.ofStates states with
    | .ok changed => changed
    | .error _ => keypad
  | .clear => .released

/-- What can happen to a machine. -/
inductive Action where
  /-- It takes a step. -/
  | step
  /-- Time passes. -/
  | pass (elapsed : Float)
  /-- Keys change. -/
  | keys (change : Keypad.Change)
  /-- A program is loaded. -/
  | load (program : Array UInt8)
  /-- It is reset. -/
  | reset

/-- Whether an action is neither a step nor a reset. -/
def Action.fromOutside : Action → Bool
  | .step | .reset => false
  | _ => true

namespace Machine

variable {width height : Nat}

/-- The machine after an action. -/
def act (machine : Machine width height) : Action → Machine width height
  | .step => machine.step.machine
  | .pass elapsed => machine.updateTimers elapsed
  | .keys change => { machine with keypad := machine.keypad.change change }
  | .load program => (machine.loadProgram program).state
  | .reset => machine.reset

/-- The machine after a sequence of actions. -/
def run (machine : Machine width height) (actions : List Action) : Machine width height :=
  actions.foldl act machine

@[simp]
theorem run_nil (machine : Machine width height) : machine.run [] = machine := rfl

@[simp]
theorem run_cons (machine : Machine width height) (first : Action) (rest : List Action) :
    machine.run (first :: rest) = (machine.act first).run rest := rfl

theorem run_append (machine : Machine width height) (front back : List Action) :
    machine.run (front ++ back) = (machine.run front).run back :=
  List.foldl_append

/-- The machine after a number of steps. -/
def after (machine : Machine width height) (count : Nat) : Machine width height :=
  machine.run (List.replicate count .step)

theorem loadProgram_eq_ok (machine : Machine width height) {program : Array UInt8}
    (room : program.size ≤ programRoom) :
    machine.loadProgram program = .ok program.size (machine.act (.load program)) := by
  rw [act, machine.loadProgram_of_room room]
  rfl

/-- A program that there is no room for leaves everything as it was. -/
theorem act_load_of_tooLarge (machine : Machine width height) {program : Array UInt8}
    (tooLarge : programRoom < program.size) : machine.act (.load program) = machine := by
  rw [act, machine.loadProgram_of_tooLarge tooLarge]
  rfl

/-- A program that there is room for is loaded. -/
theorem act_load (machine : Machine width height) {program : Array UInt8}
    (room : program.size ≤ programRoom) :
    machine.act (.load program) =
      { machine with
        memory := Vector.ofFn fun place =>
          if place.val < programStart then machine.memory[place]
          else program[place.val - programStart]?.getD 0
        programSize := program.size } := by
  rw [act, machine.loadProgram_of_room room]
  refine congrArg (fun memory => { machine with memory := memory, programSize := program.size })
    (Vector.ext fun place inMemory => Option.some.inj ?_)
  rw [← Vector.getElem?_eq_getElem, ← Vector.getElem?_toList,
    machine.memory.getElem?_loaded room inMemory, Vector.getElem_ofFn]
  split
  · rw [Vector.getElem?_toList, Vector.getElem?_eq_getElem]
    rfl
  · rfl

/-- A load changes memory and the size of the program only. -/
theorem exists_act_load (machine : Machine width height) (program : Array UInt8) :
    ∃ memory programSize, machine.act (.load program) =
      { machine with memory := memory, programSize := programSize } := by
  rcases Nat.lt_or_ge programRoom program.size with tooLarge | room
  · exact ⟨_, _, machine.act_load_of_tooLarge tooLarge⟩
  · exact ⟨_, _, machine.act_load room⟩

@[simp]
theorem wait_load (machine : Machine width height) (program : Array UInt8) :
    (machine.act (.load program)).wait = machine.wait := by
  obtain ⟨memory, programSize, loaded⟩ := machine.exists_act_load program
  rw [loaded]

@[simp]
theorem pc_load (machine : Machine width height) (program : Array UInt8) :
    (machine.act (.load program)).pc = machine.pc := by
  obtain ⟨memory, programSize, loaded⟩ := machine.exists_act_load program
  rw [loaded]

@[simp]
theorem compatibility_load (machine : Machine width height) (program : Array UInt8) :
    (machine.act (.load program)).compatibility = machine.compatibility := by
  obtain ⟨memory, programSize, loaded⟩ := machine.exists_act_load program
  rw [loaded]

@[simp]
theorem keypad_load (machine : Machine width height) (program : Array UInt8) :
    (machine.act (.load program)).keypad = machine.keypad := by
  obtain ⟨memory, programSize, loaded⟩ := machine.exists_act_load program
  rw [loaded]

/-- An action from outside changes memory, keys and timers only. -/
theorem act_of_fromOutside (machine : Machine width height) {action : Action}
    (fromOutside : action.fromOutside) :
    ∃ memory keypad delay sound programSize, machine.act action =
      { machine with
          memory := memory, keypad := keypad, delay := delay, sound := sound
          programSize := programSize } := by
  cases action with
  | step | reset => contradiction
  | pass elapsed => exact ⟨_, _, _, _, _, rfl⟩
  | keys change => exact ⟨_, _, _, _, _, rfl⟩
  | load program =>
    obtain ⟨memory, programSize, loaded⟩ := machine.exists_act_load program
    exact ⟨_, _, _, _, _, loaded⟩

end Machine

end ChipEight
