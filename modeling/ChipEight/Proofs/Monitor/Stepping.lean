import ChipEight.Proofs.Instruction.Listing
import ChipEight.Proofs.Machine.Counts
import ChipEight.Proofs.Machine.Progress
import ChipEight.Proofs.Machine.Transfer
import ChipEight.Proofs.Monitor.Operations

/-!
# What stepping shows

Under the monitor, stepping shows a line for every instruction that completes, in order, and
one more where it gets no further.  A line shows where the machine stood and the word that
it has executed.  The text, however, is that of the word which stands there after the step
(`Monitor.step_shows`).

The two words are the same unless an instruction overwrites itself, or the word that began
a wait for a key has been overwritten since then (`Machine.Preserves`).
-/

namespace ChipEight

namespace Machine

variable {width height : Nat} {machine : Machine width height}

/-! ## The word that is executed -/

/-- The word that the next step executes if it completes: the one at the program counter,
or, while the machine waits for a key, the one that began the wait. -/
def due? (machine : Machine width height) : Option Word :=
  match machine.wait with
  | some _ => some machine.word
  | none => (Span.at? machine.pc 2).map machine.wordAt

theorem due?_of_fetched {span : Span 2} (idle : machine.wait = none)
    (fetched : Span.at? machine.pc 2 = some span) :
    machine.due? = some (machine.wordAt span) := by
  rw [due?, idle, fetched]
  rfl

theorem word_of_effect {instruction : Instruction} {next : Machine width height}
    (executed : machine.effect instruction = .ok next) : next.word = machine.word := by
  cases Machine.effects executed with
  | clears | draws | returns | calls => rfl
  | moves movesData keeps => exact keeps.word
  | @asks x =>
    rw [polled]
    cases KeyWait.poll ⟨x, none⟩ machine.compatibility.keyOnRelease machine.keypad with
    | waiting wait => rfl
    | finished key => rfl

/-- What a step completes is left in the latch. -/
theorem due?_of_completed {instruction : Instruction}
    (completed : machine.step.outcome = .ok (some instruction)) :
    machine.due? = some machine.step.machine.word ∧
      instruction = .decode machine.step.machine.word := by
  have steps := machine.steps_step
  generalize machine.step = result at steps completed ⊢
  cases steps with
  | waits | leaves | faults => cases completed
  | finishes pending =>
    cases completed
    rw [due?, pending]
    exact ⟨rfl, rfl⟩
  | @executes span next idle fetched executed =>
    cases completed
    have latched : next.word = machine.wordAt span := word_of_effect executed
    rw [due?_of_fetched idle fetched, latched]
    exact ⟨rfl, rfl⟩

/-! ## The word that is stored -/

/-- The word that stands at an address, with a zero for a byte past the end of memory. -/
def storedAt (machine : Machine width height) (address : Int) : Word :=
  (Listing.Row.reading machine.memory.toArray address.toNat).word

theorem getD_toArray (memory : Memory) (place : Fin memorySize) :
    memory.toArray[place.val]?.getD 0 = memory.get place := by
  have inside : place.val < memory.toArray.size := by
    rw [Vector.size_toArray]
    exact place.isLt
  rw [Array.getElem?_eq_getElem inside]
  rfl

theorem wordAt_eq (machine : Machine width height) (span : Span 2) :
    machine.wordAt span =
      .ofBytes (machine.memory.get (span.place 0)) (machine.memory.get (span.place 1)) :=
  rfl

theorem nn_wordAt (machine : Machine width height) (span : Span 2) :
    (machine.wordAt span).nn = machine.memory.get (span.place 1) :=
  Word.nn_ofBytes _ _

theorem storedAt_of_at? (machine : Machine width height) {address : Int} {span : Span 2}
    (located : Span.at? address 2 = some span) :
    machine.storedAt address = machine.wordAt span := by
  have start_eq : address.toNat = span.start := by
    have := Span.at?_eq_some_iff.mp located
    omega
  have first := getD_toArray machine.memory (span.place 0)
  have second := getD_toArray machine.memory (span.place 1)
  simp only [Span.place, Fin.val_zero, Fin.val_one, Nat.add_zero] at first second
  rw [storedAt, start_eq, Listing.Row.reading, first, second, wordAt_eq]
  rfl

/-- Whether the word at the program counter is the one that is executed, and stays there:
the instruction writes neither of its bytes, and none has changed since a wait for a key
began. -/
def Preserves (machine : Machine width height) (executed : Word) : Prop :=
  match machine.wait with
  | some _ => machine.storedAt machine.pc = executed
  | none =>
    ∀ offset < ((Instruction.decode executed).footprint machine.compatibility).bytes,
      machine.index + offset ≠ machine.pc ∧ machine.index + offset ≠ machine.pc + 1

theorem memory_step_of_waiting {wait : KeyWait} (pending : machine.wait = some wait) :
    machine.step.machine.memory = machine.memory := by
  have steps := machine.steps_step
  generalize machine.step = result at steps ⊢
  cases steps with
  | waits | finishes => rfl
  | leaves idle | faults idle | executes idle => exact nomatch pending.symm.trans idle

/-- A word that is preserved is the one that stands where it was executed. -/
theorem Preserves.storedAt_step {executed : Word} (preserves : machine.Preserves executed)
    (due : machine.due? = some executed)
    (completed : machine.step.outcome = .ok (some (.decode executed))) :
    machine.step.machine.storedAt machine.pc = executed := by
  rw [Preserves] at preserves
  rw [due?] at due
  cases pending : machine.wait with
  | some wait =>
    rw [pending] at preserves
    rw [storedAt, memory_step_of_waiting pending]
    exact preserves
  | none =>
    rw [pending] at preserves due
    obtain ⟨span, fetched, rfl⟩ := Option.map_eq_some_iff.mp due
    obtain ⟨instruction, -, same, agrees, -⟩ := step_agreesOutside pending completed
    obtain rfl := Option.some.inj same
    have pc_eq := Span.at?_eq_some_iff.mp fetched
    rw [storedAt_of_at? _ fetched, wordAt, wordAt]
    have kept : machine.step.machine.bytes span = machine.bytes span := by
      refine agrees.bytes_eq span fun offset written mine => ?_
      obtain ⟨notFirst, notSecond⟩ := preserves offset written
      have place_eq : (span.place mine).val = span.start + mine.val := rfl
      have := mine.isLt
      omega
    rw [kept]

/-- A store of one register over the instruction itself replaces its first byte. -/
theorem Stores.wordAt_self {block : Span 1} (stores : machine.Stores 0 block) {span : Span 2}
    (same : block.start = span.start) :
    machine.step.machine.wordAt span =
      .ofBytes (machine.register 0) (machine.memory.get (span.place 1)) := by
  have high : machine.step.machine.memory.get (span.place 0) = machine.register 0 := by
    have place_eq : span.place 0 = block.place 0 := Fin.ext same.symm
    rw [place_eq, ← block.get_read]
    exact (congrArg (·.get 0) stores.stored).trans (Vector.getElem_ofFn Nat.zero_lt_one)
  have low :
      machine.step.machine.memory.get (span.place 1) = machine.memory.get (span.place 1) := by
    refine stores.elsewhere _ fun offset shared => ?_
    have value_eq : block.start + offset.val = span.start + 1 := congrArg Fin.val shared
    omega
  rw [wordAt_eq, high, low]

end Machine

namespace Monitor

open Machine

/-! ## Lines -/

/-- The line for a word executed at an address, with the text of a word. -/
def steppedLine (address : Int) (executed shown : Word) : String :=
  "  " ++ Text.Hex.address address ++ ": " ++ Text.Hex.bare 4 executed.toNat ++ "  " ++ shown.text

/-- The line for the next step of a machine, if it completes. -/
def completedLine (machine : Machine screenWidth screenHeight) : String :=
  executedLine machine.step.machine machine.pc

/-- The line where a machine gets no further, unless it has taken all its steps. -/
def haltLines (last : Machine screenWidth screenHeight) : Halt → List String
  | .spent => []
  | .fault cause => ["Fault: " ++ cause.message]
  | .waiting =>
    ["  " ++ Text.Hex.address last.pc ++ ": waiting for key -> " ++ waitingRegister last]

theorem textAt_eq (machine : Machine screenWidth screenHeight) {address : Int}
    (inside : 0 ≤ address) : textAt machine address = (machine.storedAt address).text := by
  have address_eq : address = address.toNat := (Int.toNat_of_nonneg inside).symm
  rw [textAt, storedAt, address_eq, Listing.rowAt_natCast]
  rfl

theorem completedLine_eq {machine : Machine screenWidth screenHeight} (inside : 0 ≤ machine.pc) :
    completedLine machine =
      steppedLine machine.pc machine.step.machine.word
        (machine.step.machine.storedAt machine.pc) := by
  rw [completedLine, executedLine, steppedLine, textAt_eq _ inside]

/-- What the line for a completed step shows: where the machine stood, the word that it has
executed, and the text of the word that stands there afterwards. -/
structure Shows (machine : Machine screenWidth screenHeight) (executed shown : Word) : Prop where
  due : machine.due? = some executed
  completed : machine.step.outcome = .ok (some (.decode executed))
  line : completedLine machine = steppedLine machine.pc executed shown
  stored : machine.step.machine.storedAt machine.pc = shown
  preserved : machine.Preserves executed → shown = executed

theorem exists_shows {machine : Machine screenWidth screenHeight} {instruction : Instruction}
    (sound : machine.Sound) (completed : machine.step.outcome = .ok (some instruction)) :
    ∃ executed shown, Shows machine executed shown := by
  obtain ⟨due, rfl⟩ := due?_of_completed completed
  exact ⟨_, _, due, completed, completedLine_eq sound.pc.1, rfl,
    fun preserves => preserves.storedAt_step due completed⟩

/-! ## Stepping -/

/-- A step that waits for a key does not move. -/
theorem pc_of_waited {machine : Machine screenWidth screenHeight}
    (waited : machine.step.outcome = .ok none) : machine.step.machine.pc = machine.pc := by
  have steps := machine.steps_step
  generalize machine.step = result at steps waited ⊢
  cases steps with
  | finishes | leaves | faults | executes => cases waited
  | waits => rfl

/-- Stepping gets a machine as far as it gets, and shows a line for each step. -/
theorem stepLines_of_advances {machine last : Machine screenWidth screenHeight} {count : Nat}
    {past : List (Machine screenWidth screenHeight)} {halt : Halt}
    (advances : machine.Advances count past halt last) (console : Console)
    (same : console.machine = machine) (shown : Array String) :
    (stepLines console shown count).1.machine = last ∧
      (stepLines console shown count).2.toList =
        shown.toList ++ (past.map completedLine ++ haltLines last halt) := by
  -- The lines shown already only grow, so the claim is about any number of them.
  induction advances generalizing console shown with
  | spent => exact ⟨same, (List.append_nil _).symm⟩
  | @faults machine budget cause faulted =>
    subst same
    obtain ⟨display, notices, cycled⟩ := console.cycle_eq
    rw [stepLines, cycled, faulted]
    exact ⟨rfl, Array.toList_push⟩
  | @waits machine budget waited =>
    subst same
    obtain ⟨display, notices, cycled⟩ := console.cycle_eq
    rw [stepLines, cycled, waited, ← pc_of_waited waited]
    exact ⟨rfl, Array.toList_push⟩
  | @executes machine last budget instruction past halt completed rest ih =>
    subst same
    have goesOn := ih console.cycle.1 console.cycle_machine
    obtain ⟨display, notices, cycled⟩ := console.cycle_eq
    rw [cycled] at goesOn
    rw [stepLines, cycled, completed]
    obtain ⟨gotThere, lines_eq⟩ := goesOn (shown.push (completedLine console.machine))
    refine ⟨gotThere, lines_eq.trans ?_⟩
    rw [Array.toList_push, List.append_assoc]
    rfl

theorem step_of_read {monitor : Monitor} {argument : String} {count : Int}
    (read : numberOr 1 argument = .ok count) :
    monitor.step argument = .ok
      { monitor := { monitor with console := (stepLines monitor.console #[] count.toNat).1 }
        lines := (stepLines monitor.console #[] count.toNat).2.toList } := by
  rw [step, read]
  rfl

/-- What stepping does, for every machine that there can be and every number of steps.

The machine completes as many instructions as it is told to, or stops at the first fault or
where it waits for a key.  There is a line for each completed step, in order, and one for
the fault or the wait, after which nothing happens any more.

A line for a completed step shows the address where the machine stood and the word that it
has executed.  The text is that of the word that stands there after the step; it belongs to
the word shown beside it if that word is preserved. -/
theorem step_shows {monitor : Monitor} {argument : String} {count : Int}
    (reachable : Reachable monitor.machine) (read : numberOr 1 argument = .ok count) :
    ∃ past halt last outcome,
      monitor.machine.Advances count.toNat past halt last ∧
      past = (List.range past.length).map monitor.machine.after ∧
      monitor.step argument = .ok outcome ∧ outcome.monitor.machine = last ∧
      outcome.lines = past.map completedLine ++ haltLines last halt ∧
      ∀ machine ∈ past, ∃ executed shown, Shows machine executed shown := by
  obtain ⟨past, halt, last, advances⟩ := monitor.machine.exists_advances count.toNat
  obtain ⟨-, soundPast⟩ := advances.invariant (fun _ sound => sound.step) reachable.sound
  obtain ⟨gotThere, lines_eq⟩ := stepLines_of_advances advances monitor.console rfl #[]
  refine ⟨past, halt, last, _, advances, advances.past_eq, step_of_read read, gotThere,
    lines_eq, ?_⟩
  intro machine member
  obtain ⟨instruction, completed⟩ := advances.completed machine member
  exact exists_shows (soundPast machine member) completed

theorem asking_reachable : Reachable Machine.asking :=
  (Reachable.usualPowerOn .reference (.cycle #[])).act (.load #[0xF3, 0x0A])

theorem asking_reads : Machine.asking.Reads (.waitKey 3) := by
  have room : (#[0xF3, 0x0A] : Array UInt8).size ≤ programRoom := by decide
  rw [Machine.asking]
  exact Machine.reads_load _ room rfl rfl (by decide)

theorem asking_due : Machine.asking.due? = some 0xF30A := by
  have room : (#[0xF3, 0x0A] : Array UInt8).size ≤ programRoom := by decide
  have fetched : Span.at? Machine.asking.pc 2 = some ⟨programStart, by decide⟩ := by
    rw [Machine.asking_parts.2.1]
    exact Span.at?_eq_some_iff.mpr rfl
  have word_eq : Machine.asking.wordAt ⟨programStart, by decide⟩ = 0xF30A := by
    rw [Machine.asking, Machine.wordAt_load _ room (Nat.add_zero _).symm]
    decide
  rw [due?_of_fetched Machine.asking_parts.1 fetched, word_eq]

/-- A machine that has begun to wait for a key. -/
def stalled : Machine 64 32 :=
  Machine.asking.act .step

theorem stalled_reachable : Reachable stalled :=
  asking_reachable.act .step

theorem step_stalled : stalled.step = ⟨stalled, [], .ok none⟩ := by
  have waits := Machine.asking_beginsWait
  simp only [Machine.beginsWait, Bool.and_eq_true, Option.isSome_iff_ne_none] at waits
  rw [stalled, Machine.act]
  exact step_of_stalled waits.2

/-- It stands where it has begun to wait, with no key down. -/
theorem stalled_parts :
    stalled.wait = some ⟨3, none⟩ ∧ stalled.pc = programStart ∧
      stalled.memory = Machine.asking.memory ∧ stalled.compatibility = .reference ∧
      stalled.keypad = .released := by
  obtain ⟨idle, pc_eq, compatibility_eq, keypad_eq⟩ := Machine.asking_parts
  have reads := asking_reads
  rw [stalled, Machine.act]
  -- Unfolding the machine is what takes time.
  obtain ⟨machine, machine_eq⟩ : ∃ machine, machine = Machine.asking := ⟨_, rfl⟩
  rw [← machine_eq] at idle pc_eq compatibility_eq keypad_eq reads ⊢
  obtain ⟨span, -, -, step_eq⟩ := reads.step idle
  have stalled_eq := step_eq _ rfl
  have goesOn : KeyWait.poll ⟨3, none⟩ (machine.fetch span).compatibility.keyOnRelease
      (machine.fetch span).keypad = .waiting ⟨3, none⟩ := by
    rw [Machine.fetch, compatibility_eq, keypad_eq]
    decide
  rw [Machine.polled, goesOn] at stalled_eq
  rw [stalled_eq]
  exact ⟨rfl, pc_eq, rfl, compatibility_eq, keypad_eq⟩

/-- The instruction that waits for a key is shown; then the machine gets no further, however
often it is told to step. -/
theorem asking_shown :
    Reachable (Monitor.over Machine.asking).machine ∧ numberOr 1 "5" = .ok 5 ∧
      ∃ outcome, (Monitor.over Machine.asking).step "5" = .ok outcome ∧
        outcome.monitor.machine = stalled ∧
        outcome.lines =
          ["  0x200: f30a  LD V3, K", "  0x200: waiting for key -> V3"] := by
  have reachable := asking_reachable.over
  have step_eq := step_stalled
  obtain ⟨pending, stalled_pc, -⟩ := stalled_parts
  obtain ⟨idle, pc_eq, -⟩ := Machine.asking_parts
  have due := asking_due
  obtain ⟨span, -, asked, -⟩ := asking_reads.step idle
  have asked : Machine.asking.step.outcome = .ok (some (.waitKey 3)) := asked
  rw [stalled, Machine.act] at step_eq pending stalled_pc ⊢
  -- What the program is does not matter any more; unfolding it is what takes time.
  obtain ⟨machine, machine_eq⟩ : ∃ machine, machine = Machine.asking := ⟨_, rfl⟩
  rw [← machine_eq] at reachable idle pc_eq due asked step_eq pending stalled_pc ⊢
  have read : numberOr 1 "5" = .ok 5 := by rfl
  refine ⟨reachable, read, ?_⟩
  obtain ⟨past, halt, last, outcome, advances, -, performed, gotThere, lines_eq, shows⟩ :=
    step_shows reachable read
  have advances : machine.Advances (3 + 1 + 1) past halt last := advances
  cases advances with
  | faults ended | waits ended =>
    rw [asked] at ended
    cases ended
  | executes ended rest =>
    cases rest with
    | faults again | executes again =>
      rw [step_eq] at again
      cases again
    | waits =>
      obtain ⟨executed, shown, line⟩ := shows machine (List.mem_singleton_self _)
      obtain rfl := Option.some.inj (due.symm.trans line.due)
      have kept : shown = 0xF30A := by
        refine line.preserved ?_
        rw [Preserves, idle]
        exact fun offset written => absurd written (Nat.not_lt_zero _)
      rw [step_eq] at gotThere lines_eq
      refine ⟨outcome, performed, gotThere, lines_eq.trans ?_⟩
      rw [List.map_singleton, line.line, kept, haltLines, waitingRegister, pending, pc_eq,
        stalled_pc]
      decide +kernel

/-- Where the register that is stored overwrites the instruction, the text is that of the
register and the second byte. -/
theorem completedLine_of_stores {machine : Machine screenWidth screenHeight} {block : Span 1}
    {span : Span 2} (stores : machine.Stores 0 block) (idle : machine.wait = none)
    (fetched : Span.at? machine.pc 2 = some span) (same : block.start = span.start) :
    completedLine machine = steppedLine machine.pc (machine.wordAt span)
      (.ofBytes (machine.register 0) (machine.memory.get (span.place 1))) := by
  have inside : 0 ≤ machine.pc := by
    have := Span.at?_eq_some_iff.mp fetched
    omega
  obtain ⟨due, -⟩ := due?_of_completed stores.outcome
  rw [due?_of_fetched idle fetched] at due
  rw [completedLine_eq inside, storedAt_of_at? _ fetched, stores.wordAt_self same,
    ← Option.some.inj due]

/-- A program whose second word overwrites itself. -/
def storingProgram : Array UInt8 :=
  #[0xA2, 0x02, 0xF0, 0x55]

/-- A machine about to execute that word. -/
def storing : Machine 64 32 :=
  started .reference storingProgram

/-- The place of the word. -/
def storingSpan : Span 2 := ⟨0x202, by decide⟩

theorem storing_reachable : Reachable storing :=
  ((Reachable.usualPowerOn .reference (.cycle #[])).act (.load storingProgram)).act .step

theorem storing_parts :
    storing.wait = none ∧ storing.index = 0x202 ∧ storing.pc = 0x202 ∧
      Span.at? storing.pc 2 = some storingSpan ∧ storing.register 0 = 0 ∧
      storing.wordAt storingSpan = 0xF055 ∧ storing.memory.get (storingSpan.place 1) = 0x55 := by
  have room : storingProgram.size ≤ programRoom := by decide
  have begins : Instruction.decode
      (.ofBytes (storingProgram[0]?.getD 0) (storingProgram[1]?.getD 0)) = .setIndex 0x202 := by
    decide
  have start_eq : storingSpan.start = programStart + 2 := rfl
  obtain ⟨word, storing_eq⟩ := started_eq .reference room begins
  have memory_eq : storing.memory =
      ((powerOn .reference (.cycle #[]) : Machine 64 32).act (.load storingProgram)).memory := by
    rw [storing, storing_eq]
  have word_eq : storing.wordAt storingSpan = 0xF055 := by
    rw [wordAt_congr memory_eq, wordAt_load _ room start_eq]
    rfl
  have low_eq : storing.memory.get (storingSpan.place 1) = 0x55 := by
    have spelled := (storing.nn_wordAt storingSpan).symm.trans (congrArg Word.nn word_eq)
    exact spelled.trans (by decide)
  refine ⟨?_, ?_, ?_, ?_, ?_, word_eq, low_eq⟩ <;> rw [storing, storing_eq, act_load _ room]
  · rfl
  · rfl
  · rfl
  · rw [Span.at?_eq_some_iff, start_eq]
  · rfl

theorem storing_stores :
    ∃ block : Span 1, block.start = storingSpan.start ∧ storing.Stores 0 block := by
  obtain ⟨idle, index_eq, -, fetched, -, word_eq, -⟩ := storing_parts
  have reads : storing.Reads (.store 0) := by
    refine reads_iff.mpr ⟨storingSpan, fetched, ?_⟩
    rw [instructionAt, word_eq]
    decide
  have located : storing.index = ((⟨0x202, by decide⟩ : Span 1).start : Nat) := index_eq
  exact ⟨_, rfl, reads.stores idle located⟩

/-- What is shown for `F055` is not its own text. -/
theorem storing_misshown :
    Reachable (Monitor.over storing).machine ∧ storing.due? = some 0xF055 ∧
      ∃ outcome, (Monitor.over storing).step "" = .ok outcome ∧
        outcome.lines = [steppedLine 0x202 0xF055 0x0055] ∧
        outcome.lines ≠ [steppedLine 0x202 0xF055 0xF055] := by
  have reachable := storing_reachable.over
  obtain ⟨idle, -, pc_eq, fetched, register_eq, word_eq, low_eq⟩ := storing_parts
  obtain ⟨block, start_eq, stores⟩ := storing_stores
  -- The machine is opaque from here on, as above.
  obtain ⟨machine, machine_eq⟩ : ∃ machine, machine = storing := ⟨_, rfl⟩
  rw [← machine_eq] at reachable idle pc_eq fetched register_eq word_eq low_eq stores ⊢
  have due := due?_of_fetched idle fetched
  have line_eq := completedLine_of_stores stores idle fetched start_eq
  rw [pc_eq, word_eq, register_eq, low_eq] at line_eq
  rw [word_eq] at due
  have read : numberOr 1 "" = .ok 1 := rfl
  have advances : machine.Advances (0 + 1) [machine] .spent machine.step.machine :=
    .executes stores.outcome (.spent _)
  obtain ⟨-, lines_eq⟩ := stepLines_of_advances advances (Monitor.over machine).console rfl #[]
  have lines_eq := lines_eq.trans (congrArg (· :: []) line_eq)
  refine ⟨reachable, due, _, step_of_read read, lines_eq, fun claimed => ?_⟩
  have same := (List.cons_eq_cons.mp (lines_eq.symm.trans claimed)).1
  revert same
  decide

end Monitor

end ChipEight
