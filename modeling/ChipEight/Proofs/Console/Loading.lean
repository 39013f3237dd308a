import ChipEight.Proofs.CommandLine.Loading
import ChipEight.Proofs.Console.Calls
import Mathlib.Data.List.Induction

/-!
# Loading as a whole

A program that there is room for replaces the whole program area, and a larger one changes
nothing: neither the machine nor the name under which the console holds its program.  So
what is left after any sequence of loads is the work of the last one that was accepted
(`Machine.run_loads`, `Console.calls_loads`).
-/

namespace ChipEight

section Overwriting

variable {State Input : Type} {change : State → Input → State} {accepts : Input → Bool}

/-- Where inputs that are not accepted change nothing and the others overwrite each other,
the last one that is accepted decides. -/
theorem foldl_eq_of_overwrites
    (refuses : ∀ state input, accepts input = false → change state input = state)
    (overwrites : ∀ state first second, accepts second →
      change (change state first) second = change state second)
    (inputs : List Input) (state : State) :
    inputs.foldl change state =
      (inputs.filter accepts).getLast?.elim state (change state) := by
  induction inputs using List.reverseRecOn with
  | nil => rfl
  | append_singleton earlier last ih =>
    rw [List.foldl_append, List.foldl_cons, List.foldl_nil, List.filter_append, ih]
    cases accepted : accepts last with
    | false =>
      rw [List.filter_cons_of_neg (by simp [accepted]), List.filter_nil, List.append_nil,
        refuses _ _ accepted]
    | true =>
      rw [List.filter_cons_of_pos accepted, List.filter_nil, List.getLast?_concat]
      cases (earlier.filter accepts).getLast? with
      | none => rfl
      | some before => exact overwrites state before last accepted

end Overwriting

/-- Whether there is room for a program. -/
def hasRoom (program : Array UInt8) : Bool :=
  decide (program.size ≤ programRoom)

namespace Machine

variable {width height : Nat} (machine : Machine width height) {program : Array UInt8}

/-- A load overwrites what an earlier one has left. -/
theorem act_load_act_load (first : Array UInt8) (room : program.size ≤ programRoom) :
    (machine.act (.load first)).act (.load program) = machine.act (.load program) := by
  by_cases fits : first.size ≤ programRoom
  · -- Below the program area both have the bytes of the machine, above it neither looks at it.
    have bytes_eq (place : Fin memorySize) :
        (if place.val < programStart then (machine.act (.load first)).memory[place]
          else program[place.val - programStart]?.getD 0) =
        if place.val < programStart then machine.memory[place]
          else program[place.val - programStart]?.getD 0 := by
      split
      · rename_i below
        rw [act_load _ fits, Fin.getElem_fin, Vector.getElem_ofFn, if_pos below]
      · rfl
    rw [act_load _ room, act_load _ room, funext bytes_eq, act_load _ fits]
  · rw [machine.act_load_of_tooLarge (Nat.lt_of_not_le fits)]

/-- Of any programs that are loaded one after the other, the last one that there is room
for decides. -/
theorem run_loads (programs : List (Array UInt8)) :
    machine.run (programs.map .load) =
      (programs.filter hasRoom).getLast?.elim machine fun last => machine.act (.load last) := by
  rw [run, List.foldl_map]
  refine foldl_eq_of_overwrites (fun machine program refused => ?_) ?_ programs machine
  · exact machine.act_load_of_tooLarge (Nat.lt_of_not_le (of_decide_eq_false refused))
  · exact fun machine first second room => machine.act_load_act_load first (of_decide_eq_true room)

end Machine

namespace Console

variable (console : Console) {program : Array UInt8} {name : Option String}

theorem loadFile_of_tooLarge {files : Files} {file : String}
    (read : files.read (Path.ofString file) = .ok program)
    (tooLarge : programRoom < program.size) :
    console.loadFile files file = .error (.tooLarge ⟨program.size⟩) console := by
  rw [console.loadFile_of_read read, console.loadProgram_of_tooLarge tooLarge]

/-- Of any programs that a console loads one after the other, the last one that there is
room for decides, and gives its name. -/
theorem calls_loads (loads : List (Array UInt8 × Option String)) :
    console.calls (loads.map fun load => .load load.1 load.2) =
      (loads.filter fun load => hasRoom load.1).getLast?.elim console fun last =>
        console.call (.load last.1 last.2) := by
  rw [calls, List.foldl_map]
  refine foldl_eq_of_overwrites (fun console load refused => ?_) ?_ loads console
  · exact console.call_load_of_tooLarge (Nat.lt_of_not_le (of_decide_eq_false refused))
  · intro console first second room
    have room := of_decide_eq_true room
    by_cases fits : first.1.size ≤ programRoom
    · rw [call_load_of_room _ fits, call_load_of_room _ room, call_load_of_room _ room,
        console.machine.act_load_act_load first.1 room]
    · rw [console.call_load_of_tooLarge (Nat.lt_of_not_le fits)]

end Console

/-- A program is loaded as a whole or not at all, by a machine and by a console, from bytes
and from a file.

A program that is too large is refused, and what is left is what there was, the name of the
program included.  Any other one leaves the memory below the program area as it was and
fills the program area, with zeros behind it; besides, only the size and the name of the
program change.

So of any sequence of loads, accepted or refused, the last accepted one alone decides. -/
theorem load_whole {width height : Nat} (machine : Machine width height) (console : Console)
    (program : Array UInt8) (name : Option String) :
    (3584 < program.size →
      machine.loadProgram program = .error ⟨program.size⟩ machine ∧
      machine.act (.load program) = machine ∧
      console.loadProgram program name = .error ⟨program.size⟩ console ∧
      console.call (.load program name) = console ∧
      ∀ files file, files.read (Path.ofString file) = .ok program →
        console.loadFile files file = .error (.tooLarge ⟨program.size⟩) console) ∧
    (program.size ≤ 3584 →
      (∃ memory : Memory,
        memory.toList = machine.memory.toList.take 0x200 ++ program.toList ++
          List.replicate (3584 - program.size) 0 ∧
        machine.loadProgram program =
          .ok program.size { machine with memory := memory, programSize := program.size } ∧
        machine.act (.load program) =
          { machine with memory := memory, programSize := program.size }) ∧
      (∃ loaded, console.machine.loadProgram program = .ok program.size loaded ∧
        console.loadProgram program name =
          .ok program.size { console with machine := loaded, programName := name } ∧
        console.call (.load program name) =
          { console with machine := loaded, programName := name }) ∧
      ∀ files file, files.read (Path.ofString file) = .ok program →
        console.loadFile files file =
          .ok program.size ((console.call (.load program (some (Path.ofString file).name))).note
            (.loaded (Path.ofString file) program.size))) ∧
    (∀ programs : List (Array UInt8),
      machine.run (programs.map .load) =
        (programs.filter hasRoom).getLast?.elim machine fun last => machine.act (.load last)) ∧
    ∀ loads : List (Array UInt8 × Option String),
      console.calls (loads.map fun load => .load load.1 load.2) =
        (loads.filter fun load => hasRoom load.1).getLast?.elim console fun last =>
          console.call (.load last.1 last.2) := by
  refine ⟨fun tooLarge => ?_, fun room => ⟨?_, ?_, ?_⟩, machine.run_loads, console.calls_loads⟩
  · exact ⟨machine.loadProgram_of_tooLarge tooLarge, machine.act_load_of_tooLarge tooLarge,
      console.loadProgram_of_tooLarge tooLarge, console.call_load_of_tooLarge tooLarge,
      fun files file read => console.loadFile_of_tooLarge read tooLarge⟩
  · refine ⟨_, machine.memory.toList_loaded room, machine.loadProgram_of_room room, ?_⟩
    rw [Machine.act, machine.loadProgram_of_room room]
    rfl
  · exact ⟨_, console.machine.loadProgram_eq_ok room, console.loadProgram_of_room room,
      console.call_load_of_room room⟩
  · intro files file read
    rw [CommandLine.loadFile_eq console read room, console.call_load_of_room room]
    rfl

end ChipEight
