import ChipEight.Proofs.Machine.Memory
import ChipEight.Proofs.Monitor.Operations
import ChipEight.Proofs.Safety
import ChipEight.Proofs.Text.Hexadecimal

/-!
# Writing memory from the monitor

The numbers of a line go to memory one by one.  Where one of them is refused, because it
is none or because it has no place, the line reports that, and those before it stay
written; nothing else changes (`Monitor.setMemory_writes`).  So a report of success is
true, but an error does not mean that memory is as it was.
-/

namespace ChipEight

namespace Monitor

/-! ## Numbers in memory -/

/-- Whether numbers have been written to a memory from an address on: their low eight bits
stand at consecutive places, in order, and all else is as before. -/
structure Written (before after : Memory) (start : Int) (values : List Int) : Prop where
  within : ∀ offset (inList : offset < values.length), ∃ place : Fin memorySize,
    (place : Int) = start + offset ∧ ((after.get place).toNat : Int) = values[offset] % 256
  elsewhere : ∀ place : Fin memorySize,
    (place : Int) < start ∨ start + values.length ≤ place → after.get place = before.get place

theorem written_nil (memory : Memory) (start : Int) : Written memory memory start [] where
  within _ inList := absurd inList (Nat.not_lt_zero _)
  elsewhere _ _ := rfl

/-- The first number is written, and then the others behind it. -/
theorem Written.cons {before after : Memory} {start value : Int} {rest : List Int}
    {span : Span 1} (located : Span.at? start 1 = some span)
    (written : Written (span.write before #v[UInt8.ofInt value]) after (start + 1) rest) :
    Written before after start (value :: rest) where
  within offset inList := by
    have start_eq := Span.at?_eq_some_iff.mp located
    cases offset with
    | zero =>
      have place_eq : ((span.place 0 : Fin memorySize) : Int) = start := by
        simp [Span.place, start_eq]
      refine ⟨span.place 0, by omega, ?_⟩
      rw [written.elsewhere _ (.inl (by omega)), Span.get_write_place]
      exact toNat_ofInt value
    | succ offset =>
      obtain ⟨place, place_eq, held⟩ := written.within offset (Nat.lt_of_succ_lt_succ inList)
      exact ⟨place, by omega, held⟩
  elsewhere place outside := by
    have start_eq := Span.at?_eq_some_iff.mp located
    rw [List.length_cons] at outside
    rw [written.elsewhere place (by omega)]
    refine span.agreeOutside_write before _ place fun offset same => ?_
    have place_eq := congrArg Fin.val same
    simp only [Span.place] at place_eq
    omega

/-- How writing ends with numbers left for an address: with nothing to report where none are
left, else with the reason why the first of them is refused. -/
inductive WritingEnds (place : Int) : List (Except ArgumentError Int) → Option String → Prop where
  /-- All numbers are written. -/
  | done : WritingEnds place [] none
  /-- What comes next is no number. -/
  | unread (error : ArgumentError) (rest : List (Except ArgumentError Int)) :
      WritingEnds place (.error error :: rest) (some error.message)
  /-- The next number has no place in memory. -/
  | outside (value : Int) (rest : List (Except ArgumentError Int))
      (outside : ¬ inMemory place 1) :
      WritingEnds place (.ok value :: rest) (some (Fault.memory place 1).message)

/-- Numbers are written up to the first one that is refused, and only memory changes. -/
theorem writeNumbers_writes (numbers : List (Except ArgumentError Int))
    (machine : Machine screenWidth screenHeight) (place : Int) :
    ∃ memory values left, numbers = values.map .ok ++ left ∧
      (writeNumbers machine place numbers).1 = { machine with memory := memory } ∧
      Written machine.memory memory place values ∧
      WritingEnds (place + values.length) left (writeNumbers machine place numbers).2 := by
  induction numbers generalizing machine place with
  | nil => exact ⟨machine.memory, [], [], rfl, rfl, written_nil _ _, .done⟩
  | cons number rest ih =>
    cases number with
    | error error =>
      refine ⟨machine.memory, [], .error error :: rest, rfl, rfl, written_nil _ _, ?_⟩
      exact .unread error rest
    | ok value =>
      cases located : Span.at? place 1 with
      | none =>
        have outside := Span.at?_eq_none_iff.mp located
        rw [writeNumbers, write_of_outside machine outside]
        refine ⟨machine.memory, [], .ok value :: rest, rfl, rfl, written_nil _ _, ?_⟩
        rw [List.length_nil, Int.natCast_zero, Int.add_zero]
        exact .outside value rest outside
      | some span =>
        have wrote : machine.write place value = .ok (machine.fill span #v[UInt8.ofInt value]) := by
          rw [Machine.write, located]
        obtain ⟨memory, values, left, numbers_eq, machine_eq, written, ends⟩ :=
          ih (machine.fill span #v[UInt8.ofInt value]) (place + 1)
        rw [writeNumbers, wrote]
        refine ⟨memory, value :: values, left, by rw [numbers_eq]; rfl, machine_eq,
          written.cons located, ?_⟩
        have next : place + 1 + values.length = place + (value :: values).length := by
          rw [List.length_cons]
          omega
        rw [← next]
        exact ends

/-! ## The line shown -/

/-- The line for numbers that are all written. -/
def wroteLine (count : Nat) (start : Int) : String :=
  s!"  Wrote {count} bytes at " ++ Text.Hex.address start

/-- The line for too few words. -/
def setMemoryUsage : String :=
  "Usage: setmem <addr> <byte...>"

theorem toList_wroteLine (count : Nat) (start : Int) :
    (wroteLine count start).toList = "  Wrote ".toList ++
      (Nat.toDigits 10 count ++ (" bytes at ".toList ++ (Text.Hex.address start).toList)) := by
  have count_eq : (toString count).toList = Nat.toDigits 10 count := Nat.toList_repr
  simp only [wroteLine, String.toList_append, count_eq, List.append_assoc]
  rfl

/-- The line says how many numbers are written and where. -/
theorem wroteLine_inj {count otherCount : Nat} {start otherStart : Int}
    (same : wroteLine count start = wroteLine otherCount otherStart) :
    count = otherCount ∧ start = otherStart := by
  have texts := congrArg String.toList same
  rw [toList_wroteLine, toList_wroteLine] at texts
  have texts := List.append_cancel_left texts
  have number (count : Nat) (start : Int) :
      (Nat.toDigits 10 count ++ (" bytes at ".toList ++ (Text.Hex.address start).toList)).takeWhile
        Char.isDigit = Nat.toDigits 10 count := by
    rw [List.takeWhile_append_of_pos fun c member =>
      Nat.isDigit_of_mem_toDigits (by decide) (by decide) member]
    simp
  have digits := congrArg (List.takeWhile Char.isDigit) texts
  rw [number, number] at digits
  constructor
  · have values := congrArg (Text.Integer.digitsValue 10) digits
    rwa [Text.Integer.digitsValue_toDigits (by decide) (by decide),
      Text.Integer.digitsValue_toDigits (by decide) (by decide)] at values
  · rw [digits] at texts
    have addresses := List.append_cancel_left (List.append_cancel_left texts)
    exact Text.Hex.marked_injective (String.toList_injective addresses)

/-- No report of an error looks like one of success. -/
theorem wroteLine_ne_errorLine (count : Nat) (start : Int) (message : String) :
    errorLine message ≠ wroteLine count start := by
  intro same
  have texts := congrArg String.toList same
  rw [toList_wroteLine, errorLine, String.toList_append] at texts
  exact absurd (List.cons.inj texts).1 (by decide)

theorem wroteLine_ne_usage (count : Nat) (start : Int) :
    setMemoryUsage ≠ wroteLine count start := by
  intro same
  have texts := congrArg String.toList same
  rw [toList_wroteLine] at texts
  exact absurd (List.cons.inj texts).1 (by decide)

/-! ## The command -/

/-- What an argument asks to write: an address, and the numbers from there on; nothing where
there are too few words. -/
def request (monitor : Monitor) (argument : String) :
    Except ArgumentError (Option (Int × List (Except ArgumentError Int))) := do
  match ← wordsOf argument with
  | place :: first :: rest => do
    let start ← address monitor.machine place
    return some (start, (first :: rest).map number)
  | _ => return none

theorem setMemory_eq (monitor : Monitor) (argument : String) :
    monitor.setMemory argument = (monitor.request argument).map fun asked =>
      match asked with
      | some (start, numbers) => monitor.writeFrom start numbers
      | none => { monitor, lines := [setMemoryUsage] } := by
  rw [setMemory, request]
  cases wordsOf argument with
  | error error => rfl
  | ok words =>
    rcases words with _ | ⟨place, _ | ⟨first, rest⟩⟩
    · rfl
    · rfl
    · dsimp only [bind, Except.bind]
      cases address monitor.machine place with
      | error error => rfl
      | ok start => rfl

/-- What writing memory comes to: the memory afterwards and the line shown. -/
inductive Writes (monitor : Monitor) (argument : String) (memory : Memory) : String → Prop where
  /-- All numbers are written. -/
  | whole {start : Int} {values : List Int}
      (asked : monitor.request argument = .ok (some (start, values.map .ok)))
      (written : Written monitor.machine.memory memory start values) :
      Writes monitor argument memory (wroteLine values.length start)
  /-- A number is refused; those before it are written. -/
  | upTo {start : Int} {values : List Int} {left : List (Except ArgumentError Int)}
      {message : String}
      (asked : monitor.request argument = .ok (some (start, values.map .ok ++ left)))
      (written : Written monitor.machine.memory memory start values)
      (ends : WritingEnds (start + values.length) left (some message)) :
      Writes monitor argument memory (errorLine message)
  /-- There are too few words. -/
  | tooFew (asked : monitor.request argument = .ok none)
      (same : memory = monitor.machine.memory) : Writes monitor argument memory setMemoryUsage
  /-- The words or the address are refused. -/
  | refused {error : ArgumentError} (asked : monitor.request argument = .error error)
      (same : memory = monitor.machine.memory) :
      Writes monitor argument memory (errorLine error.message)

/-- Success is reported for what is written as a whole. -/
theorem Writes.of_wroteLine {monitor : Monitor} {argument report : String} {memory : Memory}
    (writes : monitor.Writes argument memory report) {count : Nat} {start : Int}
    (success : report = wroteLine count start) :
    ∃ values : List Int, values.length = count ∧
      monitor.request argument = .ok (some (start, values.map .ok)) ∧
      Written monitor.machine.memory memory start values := by
  cases writes with
  | whole asked written =>
    obtain ⟨rfl, rfl⟩ := wroteLine_inj success
    exact ⟨_, rfl, asked, written⟩
  | upTo => exact absurd success (wroteLine_ne_errorLine _ _ _)
  | tooFew => exact absurd success (wroteLine_ne_usage _ _)
  | refused => exact absurd success (wroteLine_ne_errorLine _ _ _)

theorem carryOut_of_request {monitor : Monitor} {line argument : String} {start : Int}
    {numbers : List (Except ArgumentError Int)}
    (parsed : Line.parse line = .command .setMemory argument)
    (asked : monitor.request argument = .ok (some (start, numbers))) :
    monitor.carryOut line = monitor.writeFrom start numbers := by
  simp only [carryOut, parsed, perform, setMemory_eq, asked, Except.map]

theorem exists_writes (monitor : Monitor) {line argument : String}
    (parsed : Line.parse line = .command .setMemory argument) :
    ∃ memory report,
      monitor.carryOut line =
        { monitor := monitor.withMachine { monitor.machine with memory := memory }
          lines := [report] } ∧ monitor.Writes argument memory report := by
  cases asked : monitor.request argument with
  | error error =>
    refine ⟨monitor.machine.memory, errorLine error.message, ?_, .refused asked rfl⟩
    simp only [carryOut, parsed, perform, setMemory_eq, asked, Except.map]
    rfl
  | ok request =>
    rcases request with _ | ⟨start, numbers⟩
    · refine ⟨monitor.machine.memory, setMemoryUsage, ?_, .tooFew asked rfl⟩
      simp only [carryOut, parsed, perform, setMemory_eq, asked, Except.map]
      rfl
    · obtain ⟨memory, values, left, rfl, machine_eq, written, ends⟩ :=
        writeNumbers_writes numbers monitor.machine start
      rw [carryOut_of_request parsed asked, writeFrom, machine_eq]
      generalize (writeNumbers monitor.machine start (values.map .ok ++ left)).2 = report at ends ⊢
      cases ends with
      | done =>
        rw [List.append_nil] at asked ⊢
        rw [List.length_map]
        exact ⟨memory, wroteLine values.length start, rfl, .whole asked written⟩
      | unread error rest =>
        exact ⟨memory, errorLine error.message, rfl, .upTo asked written (.unread error rest)⟩
      | outside value rest outside =>
        exact ⟨memory, errorLine _, rfl, .upTo asked written (.outside value rest outside)⟩

/-- Writing memory changes nothing but memory, and there exactly the places of the numbers
before the first one that is refused.  If it reports success, all numbers that the line asks
for are written. -/
theorem setMemory_writes (monitor : Monitor) {line argument : String}
    (parsed : Line.parse line = .command .setMemory argument) :
    ∃ memory report,
      monitor.carryOut line =
        { monitor := monitor.withMachine { monitor.machine with memory := memory }
          lines := [report] } ∧
      monitor.Writes argument memory report ∧
      ∀ count start, report = wroteLine count start → ∃ values : List Int,
        values.length = count ∧ monitor.request argument = .ok (some (start, values.map .ok)) ∧
        Written monitor.machine.memory memory start values := by
  obtain ⟨memory, report, outcome_eq, writes⟩ := monitor.exists_writes parsed
  exact ⟨memory, report, outcome_eq, writes, fun _ _ => writes.of_wroteLine⟩

/-- Both numbers of a line are written. -/
theorem twoBytes_written :
    let monitor := Monitor.over (Machine.powerOn .reference (.cycle #[]))
    Line.parse "setmem 0x300 1 -2" = .command .setMemory "0x300 1 -2" ∧
      ∃ memory, (monitor.carryOut "setmem 0x300 1 -2").monitor =
          monitor.withMachine { monitor.machine with memory := memory } ∧
        Written monitor.machine.memory memory 0x300 [1, -2] := by
  intro monitor
  have parsed : Line.parse "setmem 0x300 1 -2" = .command .setMemory "0x300 1 -2" := by
    decide +kernel
  have asked : monitor.request "0x300 1 -2" = .ok (some (0x300, [1, -2].map .ok)) := by rfl
  obtain ⟨memory, report, outcome_eq, -, success⟩ := setMemory_writes monitor parsed
  have shown : (monitor.carryOut "setmem 0x300 1 -2").lines = [wroteLine 2 0x300] := by rfl
  rw [outcome_eq] at shown
  obtain ⟨values, -, request_eq, written⟩ := success 2 0x300 (List.cons.inj shown).1
  refine ⟨parsed, memory, by rw [outcome_eq], ?_⟩
  rw [asked] at request_eq
  have entries := (Prod.mk.inj (Option.some.inj (Except.ok.inj request_eq))).2
  rwa [(List.map_inj_right fun _ _ => Except.ok.inj).mp entries]

/-- The first of two numbers is written, although the line reports that the second one has
no place. -/
theorem secondByte_outside :
    let monitor := Monitor.over (Machine.powerOn .reference (.cycle #[]))
    let outcome := monitor.carryOut "setmem 0xfff 1 2"
    let last : Fin memorySize := ⟨0xFFF, by decide⟩
    outcome.lines = ["Error: Memory fault: 1 byte(s) at 0x1000 outside 0x000-0xfff"] ∧
      monitor.machine.memory.get last = 0 ∧ outcome.monitor.machine.memory.get last = 1 := by
  intro monitor outcome last
  have parsed : Line.parse "setmem 0xfff 1 2" = .command .setMemory "0xfff 1 2" := by
    decide +kernel
  have asked : monitor.request "0xfff 1 2" = .ok (some (0xFFF, [.ok 1, .ok 2])) := by rfl
  have outcome_eq : outcome = monitor.writeFrom 0xFFF [.ok 1, .ok 2] :=
    carryOut_of_request parsed asked
  let span : Span 1 := ⟨0xFFF, by decide⟩
  have machine_eq : outcome.monitor.machine = monitor.machine.fill span #v[1] := by
    rw [outcome_eq]
    rfl
  refine ⟨?_, ?_, ?_⟩
  · rw [outcome_eq]
    rfl
  · exact Vector.getElem_ofFn _
  · rw [machine_eq]
    exact span.get_write_place _ _ 0

end Monitor

end ChipEight
