import ChipEight.Proofs.Instruction.Listing
import ChipEight.Proofs.Safety
import ChipEight.Proofs.Text.Integer
import Mathlib.Data.List.DropRight

/-!
# How a monitor line ends

Whatever a line says, the monitor carries it out and then waits for the next one or is
left as asked.  One kind of line alone breaks off: a listing with at least one row that
starts before the first byte of memory (`Overreaches`).  It then shows nothing and changes
nothing, and its address is a number in the line, since the machine holds no address below
zero (`lines_return`).

Nothing else that a line looks up is missing either: a step that is shown has a row of
memory or a register that waits (`Furnished`), a register is named by one of the sixteen
digits, and a line that is not understood has a first word.
-/

namespace ChipEight

namespace Text

/-- A text without the blanks around it does not begin with one. -/
theorem not_isBlank_of_trim_eq_cons {text rest : List Char} {first : Char}
    (trimmed : trim text = first :: rest) : ¬ isBlank first := by
  have front : trim text <+: text.dropWhile isBlank := List.rdropWhile_prefix isBlank _
  obtain ⟨back, dropped⟩ := front
  rw [trimmed, List.cons_append] at dropped
  have ink := List.head?_dropWhile_not isBlank text
  rw [← dropped, List.head?_cons] at ink
  exact Bool.not_eq_true _ ▸ ink

theorem firstWord_ne_nil {text : List Char} {first : Char} (ink : ¬ isBlank first) :
    firstWord (first :: text) ≠ [] := by
  rw [firstWord, List.dropWhile_cons_of_neg ink, List.takeWhile_cons_of_pos (by simpa using ink)]
  exact List.cons_ne_nil _ _

end Text

namespace Monitor

/-! ## Command words -/

/-- The word that a line begins with. -/
def Line.word (line : String) : String :=
  String.ofList ((Text.trim line.toList).takeWhile inWord)

/-- What follows the word of a line. -/
def Line.argument (line : String) : String :=
  String.ofList (Text.trim ((Text.trim line.toList).dropWhile inWord))

theorem Verb.ofWord?_eq_disassemble_iff {word : String} :
    Verb.ofWord? word = some .disassemble ↔ word = "disasm" := by
  constructor
  · intro named
    rw [Verb.ofWord?.eq_def] at named
    split at named <;> first | rfl | contradiction
  · rintro rfl
    rfl

namespace Line

theorem split_eq_command_iff {text : List Char} {verb : Verb} {argument : String} :
    split text = .command verb argument ↔
      Verb.ofWord? (String.ofList (text.takeWhile inWord)) = some verb ∧
        argument = String.ofList (Text.trim (text.dropWhile inWord)) := by
  rw [split]
  cases Verb.ofWord? (String.ofList (text.takeWhile inWord)) with
  | none => simp
  | some found => simp [eq_comm]

/-- A line that begins with a question mark asks for help. -/
theorem split_help (rest : List Char) :
    ∃ argument, split ("help ".toList ++ rest) = .command .help argument :=
  ⟨_, split_eq_command_iff.mpr ⟨rfl, rfl⟩⟩

/-- A line is a listing if its word says so. -/
theorem parse_eq_disassemble_iff {line argument : String} :
    parse line = .command .disassemble argument ↔
      word line = "disasm" ∧ argument = Line.argument line := by
  rw [word, Line.argument, parse]
  split
  · rename_i empty
    rw [empty]
    simp
  · rename_i rest marked
    obtain ⟨topic, asked⟩ := split_help rest
    rw [asked, marked, List.takeWhile_cons_of_neg (by decide)]
    simp
  · rw [split_eq_command_iff, Verb.ofWord?_eq_disassemble_iff]

/-- A line that is not understood has a word to report. -/
theorem firstWord_of_unknown {line text : String} (unknown : parse line = .unknown text) :
    Text.firstWord text.toList ≠ [] := by
  rw [parse] at unknown
  split at unknown
  · exact nomatch unknown
  · rename_i rest marked
    obtain ⟨topic, asked⟩ := split_help rest
    exact nomatch asked.symm.trans unknown
  · rename_i noText noMark
    rw [split] at unknown
    split at unknown
    · exact nomatch unknown
    · cases unknown
      cases trimmed : Text.trim line.toList with
      | nil => exact absurd trimmed noText
      | cons first rest =>
        rw [String.toList_ofList]
        exact Text.firstWord_ne_nil (Text.not_isBlank_of_trim_eq_cons trimmed)

end Line

/-! ## Commands that return -/

/-- Whether a command that does not refuse its argument stays within memory. -/
def Returns (performed : Except ArgumentError Outcome) : Prop :=
  ∀ outcome error, performed = .ok outcome → outcome.ending ≠ .leftMemory error

namespace Returns

theorem ok {outcome : Outcome} (inside : ∀ error, outcome.ending ≠ .leftMemory error) :
    Returns (.ok outcome) := by
  rintro _ error performed
  cases performed
  exact inside error

theorem goesOn {outcome : Outcome} (stays : outcome.ending = .goesOn) : Returns (.ok outcome) :=
  ok fun _ left => Ending.noConfusion (stays.symm.trans left)

theorem bind {α : Type} {first : Except ArgumentError α} {rest : α → Except ArgumentError Outcome}
    (each : ∀ value, Returns (rest value)) : Returns (first >>= rest) := by
  intro outcome error performed
  obtain ⟨value, -, ended⟩ := bind_eq_ok_iff.mp performed
  exact each value outcome error ended

end Returns

section Commands

variable (monitor : Monitor) (argument : String)

theorem step_returns : Returns (monitor.step argument) :=
  .bind fun _ => .goesOn rfl

theorem run_returns : Returns (monitor.run argument) :=
  .bind fun _ => .goesOn rfl

theorem tick_returns : Returns (monitor.tick argument) :=
  .bind fun _ => .goesOn rfl

theorem breakpoint_returns : Returns (monitor.breakpoint argument) := by
  rw [breakpoint]
  split
  · exact .goesOn rfl
  · exact .bind fun _ => .goesOn rfl

theorem removeBreakpoint_returns : Returns (monitor.removeBreakpoint argument) := by
  rw [removeBreakpoint]
  split
  · exact .goesOn rfl
  · exact .bind fun _ => .goesOn rfl

theorem setRegister_returns : Returns (monitor.setRegister argument) := by
  refine .bind fun words => ?_
  split
  · refine .bind fun value => .bind fun target => ?_
    cases target with
    | none => exact .goesOn rfl
    | some target => exact .goesOn rfl
  · exact .goesOn rfl

theorem dump_returns : Returns (monitor.dump argument) := by
  refine .bind fun words => ?_
  split
  · exact .goesOn rfl
  · exact .bind fun start => .bind fun count => .goesOn rfl

theorem setMemory_returns : Returns (monitor.setMemory argument) := by
  refine .bind fun words => ?_
  split
  · exact .bind fun start => .goesOn rfl
  · exact .goesOn rfl

theorem key_returns : Returns (monitor.key argument) := by
  refine .bind fun words => ?_
  split
  · exact .goesOn rfl
  · split
    · exact .goesOn rfl
    · exact .bind fun number => .goesOn rfl
    · exact .bind fun number => .goesOn rfl
    · exact .goesOn rfl

theorem speed_returns : Returns (monitor.speed argument) := by
  rw [speed]
  split
  · exact .goesOn rfl
  · exact .bind fun number => .goesOn rfl

/-- Every command but the listing returns. -/
theorem perform_returns {verb : Verb} (other : verb ≠ .disassemble) :
    Returns (monitor.perform verb argument) := by
  cases verb with
  | step => exact monitor.step_returns argument
  | run => exact monitor.run_returns argument
  | tick => exact monitor.tick_returns argument
  | breakpoint => exact monitor.breakpoint_returns argument
  | removeBreakpoint => exact monitor.removeBreakpoint_returns argument
  | setRegister => exact monitor.setRegister_returns argument
  | dump => exact monitor.dump_returns argument
  | setMemory => exact monitor.setMemory_returns argument
  | key => exact monitor.key_returns argument
  | speed => exact monitor.speed_returns argument
  | disassemble => contradiction
  | reset | registers | status | screen | debug | help => exact .goesOn rfl
  | quit | endOfInput => exact .ok fun _ left => Ending.noConfusion left

end Commands

/-! ## Listings -/

/-- Whether an argument asks for a listing of so many rows from an address on. -/
def AsksFor (monitor : Monitor) (argument : String) (start count : Int) : Prop :=
  ∃ words, wordsOf argument = .ok words ∧
    addressOr monitor.machine monitor.machine.pc words = .ok start ∧
    countOr 16 words.tail = .ok count

/-- Whether a line is a listing with at least one row that starts before the first byte. -/
structure Overreaches (monitor : Monitor) (line : String) (start : Int) : Prop where
  word : Line.word line = "disasm"
  asked : ∃ count, 1 ≤ count ∧ monitor.AsksFor (Line.argument line) start count
  before : start < -(memorySize : Int)

section Listings

variable {monitor : Monitor} {argument line : String} {start count : Int}

/-- A listing that is refused leaves the monitor as it is. -/
theorem disassemble_of_asksFor {error : Listing.AddressError}
    (asked : monitor.AsksFor argument start count)
    (refused : Listing.rows monitor.machine.memory.toArray start count.toNat = .error error) :
    monitor.disassemble argument = .ok { monitor, lines := [], ending := .leftMemory error } := by
  obtain ⟨words, divided, placed, counted⟩ := asked
  rw [disassemble, divided]
  simp only [bind, Except.bind, placed, counted, refused]
  rfl

/-- A listing that leaves memory was refused. -/
theorem asksFor_of_leftMemory {outcome : Outcome} {error : Listing.AddressError}
    (performed : monitor.disassemble argument = .ok outcome)
    (left : outcome.ending = .leftMemory error) :
    ∃ start count, monitor.AsksFor argument start count ∧
      Listing.rows monitor.machine.memory.toArray start count.toNat = .error error := by
  obtain ⟨words, divided, ended⟩ := bind_eq_ok_iff.mp performed
  obtain ⟨start, placed, ended⟩ := bind_eq_ok_iff.mp ended
  obtain ⟨count, counted, ended⟩ := bind_eq_ok_iff.mp ended
  refine ⟨start, count, ⟨words, divided, placed, counted⟩, ?_⟩
  split at ended
  · cases ended
    contradiction
  · rename_i refused
    cases ended
    cases left
    exact refused

/-- A line that overreaches shows nothing and changes nothing. -/
theorem Overreaches.carryOut (overreaches : monitor.Overreaches line start) :
    monitor.carryOut line =
      { monitor, lines := [], ending := .leftMemory (Listing.refusal start) } := by
  obtain ⟨word, ⟨count, some_rows, asked⟩, before⟩ := overreaches
  have refused : Listing.rows monitor.machine.memory.toArray start count.toNat =
      .error (Listing.refusal start) := by
    refine Listing.rows_eq_error_iff.mpr ⟨by omega, ?_, rfl⟩
    rw [Vector.size_toArray]
    exact before
  rw [Monitor.carryOut, Line.parse_eq_disassemble_iff.mpr ⟨word, rfl⟩]
  simp only [perform, disassemble_of_asksFor asked refused]

/-- Only a line that overreaches leaves memory. -/
theorem overreaches_of_leftMemory {error : Listing.AddressError}
    (left : (monitor.carryOut line).ending = .leftMemory error) :
    ∃ start, monitor.Overreaches line start := by
  rw [Monitor.carryOut] at left
  split at left
  · contradiction
  · contradiction
  · rename_i verb argument parsed
    cases performed : monitor.perform verb argument with
    | error cause =>
      rw [performed] at left
      contradiction
    | ok outcome =>
      rw [performed] at left
      by_cases listing : verb = .disassemble
      · subst listing
        obtain ⟨word, rfl⟩ := Line.parse_eq_disassemble_iff.mp parsed
        obtain ⟨start, count, asked, refused⟩ := asksFor_of_leftMemory performed left
        obtain ⟨some_rows, before, -⟩ := Listing.rows_eq_error_iff.mp refused
        rw [Vector.size_toArray] at before
        exact ⟨start, word, ⟨count, by omega, asked⟩, before⟩
      · exact absurd left (monitor.perform_returns argument listing outcome error performed)

/-- The machine holds no address below zero, so one that a line gives is a number. -/
theorem integer_of_address (sound : monitor.machine.Sound) {place : String}
    (placed : address monitor.machine place = .ok start) (before : start < 0) :
    integer .marked (Text.lowerCase (Text.trimString place)) = .ok start := by
  have pc := sound.pc
  have index := sound.index
  rw [address] at placed
  split at placed
  · cases placed
    omega
  · cases placed
    omega
  · obtain ⟨register, named, ended⟩ := bind_eq_ok_iff.mp placed
    cases ended
    omega
  · exact placed

theorem Overreaches.written (sound : monitor.machine.Sound)
    (overreaches : monitor.Overreaches line start) :
    ∃ place rest, wordsOf (Line.argument line) = .ok (place :: rest) ∧
      integer .marked (Text.lowerCase (Text.trimString place)) = .ok start := by
  obtain ⟨word, ⟨count, some_rows, words, divided, placed, counted⟩, before⟩ := overreaches
  cases words with
  | nil =>
    have pc := sound.pc
    cases placed
    omega
  | cons place rest =>
    exact ⟨place, rest, divided, integer_of_address sound placed (by omega)⟩

end Listings

/-! ## What is looked up -/

/-- A digit that names a register is one of sixteen. -/
theorem integer_digit {name digit : String} {value : Int} (named : digit? name = some digit)
    (read : integer .sixteen digit = .ok value) : 0 ≤ value ∧ value < 16 := by
  have accepted : Text.readInteger .sixteen digit = .ok value := by
    rw [integer] at read
    cases found : Text.readInteger .sixteen digit with
    | error cause =>
      rw [found] at read
      contradiction
    | ok found_value =>
      rw [found] at read
      cases read
      rfl
  rw [digit?] at named
  split at named
  · split at named
    · rename_i single
      cases named
      exact Text.readInteger_codePoint (by rwa [String.toList_ofList]) accepted
    · contradiction
  · contradiction

/-- Whether what a step of a machine shows is there: the row that it executed, or the
register that waits. -/
structure Furnished (machine : Machine screenWidth screenHeight) : Prop where
  row : ∀ instruction, machine.step.outcome = .ok (some instruction) →
    ∃ row, Listing.rowAt machine.step.machine.memory.toArray machine.pc = .ok row
  register : machine.step.outcome = .ok none → ∃ wait, machine.step.machine.wait = some wait

theorem furnished_of_sound {machine : Machine screenWidth screenHeight} (sound : machine.Sound) :
    Furnished machine where
  row _ _ := Listing.rowAt_ok (by have := sound.pc; omega)
  register stalled := by
    have steps := machine.steps_step
    generalize machine.step = result at steps stalled ⊢
    cases steps with
    | waits => exact ⟨_, rfl⟩
    | finishes | executes => exact nomatch stalled
    | leaves | faults => contradiction

/-! ## Lines -/

/-- A line breaks off exactly if it is a listing with a row that starts before the first
byte of memory, at an address it gives as a number.  It then shows nothing and changes
nothing.  All else that a line looks up is there. -/
theorem lines_return {monitor : Monitor} (reachable : Reachable monitor.machine) (line : String) :
    ((∃ error, (monitor.carryOut line).ending = .leftMemory error) ↔
      ∃ start, monitor.Overreaches line start) ∧
    (∀ start, monitor.Overreaches line start →
      monitor.carryOut line =
        { monitor, lines := [], ending := .leftMemory (Listing.refusal start) } ∧
      ∃ place rest, wordsOf (Line.argument line) = .ok (place :: rest) ∧
        integer .marked (Text.lowerCase (Text.trimString place)) = .ok start) ∧
    (∀ machine, Leads monitor.machine machine → Furnished machine) ∧
    (∀ name digit value, digit? name = some digit → integer .sixteen digit = .ok value →
      0 ≤ value ∧ value < 16) ∧
    ∀ text, Line.parse line = .unknown text → Text.firstWord text.toList ≠ [] := by
  refine ⟨⟨?_, ?_⟩, ?_, ?_, ?_, ?_⟩
  · rintro ⟨error, left⟩
    exact overreaches_of_leftMemory left
  · rintro ⟨start, overreaches⟩
    exact ⟨Listing.refusal start, by rw [overreaches.carryOut]⟩
  · intro start overreaches
    exact ⟨overreaches.carryOut, overreaches.written reachable.sound⟩
  · intro machine leads
    have sound := leads.invariant (fun _ operation holds => holds.operate operation) reachable.sound
    exact furnished_of_sound sound
  · intro name digit value named read
    exact integer_digit named read
  · intro text unknown
    exact Line.firstWord_of_unknown unknown

/-- A listing from before the first byte, of a machine at power-on. -/
theorem earlyListing_breaks_off :
    let monitor := Monitor.over (Machine.powerOn .reference (.cycle #[]))
    Reachable monitor.machine ∧ monitor.Overreaches "disasm -5000" (-5000) ∧
      monitor.carryOut "disasm -5000" =
        { monitor, lines := [], ending := .leftMemory .beforeFirst } := by
  intro monitor
  have reachable : Reachable monitor.machine := .usualPowerOn .reference (.cycle #[])
  have overreaches : monitor.Overreaches "disasm -5000" (-5000) := by
    refine ⟨by decide +kernel, ⟨16, by decide, ["-5000"], ?_, rfl, rfl⟩, by decide⟩
    rfl
  exact ⟨reachable, overreaches, ((lines_return reachable "disasm -5000").2.1 _ overreaches).1⟩

end Monitor

end ChipEight
