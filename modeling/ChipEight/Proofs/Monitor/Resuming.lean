import ChipEight.Proofs.Machine.Successor
import ChipEight.Proofs.Monitor.Assignment
import ChipEight.Proofs.Monitor.Stepping
import Mathlib.Data.List.Induction

/-!
# Where execution goes on after a jump

Setting the program counter from the monitor leaves a pending wait for a key as it is.  A
machine that does not wait goes on with the word at the new place, whatever the lines that
follow, up to the step that completes it.  A machine that waits first completes the
instruction that waits, when its key arrives, and then goes on behind the new place
(`Monitor.setPc_resumes`).
-/

namespace ChipEight

namespace Monitor

/-! ## Operations that leave the program counter alone -/

/-- Whether an operation neither resets the machine nor sets its program counter. -/
def Operation.leavesPc : Operation → Bool
  | .act .reset | .assign .pc _ => false
  | _ => true

/-- Whether an operation that completes no instruction leaves the machine about to complete
the same one: it stays where it is, it goes on waiting if it waits, and if it begins to wait
then for the word where it is. -/
structure Stays (machine : Machine screenWidth screenHeight) (operation : Operation) : Prop where
  pc : (operate machine operation).pc = machine.pc
  waits : machine.wait ≠ none →
    (operate machine operation).wait ≠ none ∧ (operate machine operation).word = machine.word
  begins : machine.wait = none → (operate machine operation).wait ≠ none →
    operation = .act .step ∧ (operate machine operation).word = machine.storedAt machine.pc

theorem stays_step {machine : Machine screenWidth screenHeight}
    (unfinished : machine.movesOn = false) : Stays machine (.act .step) := by
  suffices kept : machine.step.machine.pc = machine.pc ∧
      (machine.wait ≠ none →
        machine.step.machine.wait ≠ none ∧ machine.step.machine.word = machine.word) ∧
      (machine.wait = none → machine.step.machine.wait ≠ none →
        machine.step.machine.word = machine.storedAt machine.pc) from
    ⟨kept.1, kept.2.1, fun idle waits => ⟨rfl, kept.2.2 idle waits⟩⟩
  have steps := machine.steps_step
  rw [Machine.movesOn] at unfinished
  generalize machine.step = result at steps unfinished ⊢
  cases steps with
  | waits pending polled =>
    refine ⟨rfl, fun _ => ⟨Option.some_ne_none _, rfl⟩, fun idle => ?_⟩
    exact absurd (pending.symm.trans idle) (Option.some_ne_none _)
  | finishes pending polled => cases unfinished
  | leaves idle outside =>
    exact ⟨rfl, fun waits => absurd idle waits, fun _ waits => absurd idle waits⟩
  | faults idle fetched faulted =>
    exact ⟨rfl, fun waits => absurd idle waits, fun _ waits => absurd idle waits⟩
  | @executes span next idle fetched executed =>
    have waits : next.wait ≠ none := by
      intro ended
      simp [ended] at unfinished
    rcases Machine.successor?_of_effect executed idle with ⟨-, -, pc_eq⟩ | ⟨ended, -⟩
    · refine ⟨pc_eq, fun waits => absurd idle waits, fun _ _ => ?_⟩
      rw [machine.storedAt_of_at? fetched]
      exact Machine.word_of_effect executed
    · exact absurd ended waits

theorem stays_of_leavesPc {machine : Machine screenWidth screenHeight} {operation : Operation}
    (leaves : operation.leavesPc)
    (unfinished : operation = .act .step → machine.movesOn = false) :
    Stays machine operation := by
  have of_eq (pc_eq : (operate machine operation).pc = machine.pc)
      (wait_eq : (operate machine operation).wait = machine.wait)
      (word_eq : (operate machine operation).word = machine.word) : Stays machine operation :=
    ⟨pc_eq, fun waits => ⟨wait_eq ▸ waits, word_eq⟩,
      fun idle waits => absurd (wait_eq.trans idle) waits⟩
  cases operation with
  | act action =>
    cases action with
    | step => exact stays_step (unfinished rfl)
    | reset => contradiction
    | pass elapsed => exact of_eq rfl rfl rfl
    | keys change => exact of_eq rfl rfl rfl
    | load program =>
      have fromOutside : (Action.load program).fromOutside := rfl
      obtain ⟨_, _, _, _, _, acted⟩ := machine.act_of_fromOutside fromOutside
      exact of_eq (by rw [operate, acted]) (by rw [operate, acted]) (by rw [operate, acted])
  | assign target value =>
    cases target with
    | pc => contradiction
    | index | delay | sound | register => exact of_eq rfl rfl rfl
  | write address value =>
    obtain ⟨memory, written⟩ : ∃ memory, operate machine (.write address value) =
        { machine with memory := memory } := by
      rw [operate, Machine.write]
      cases Span.at? address 1 with
      | none => exact ⟨machine.memory, rfl⟩
      | some span => exact ⟨_, rfl⟩
    exact of_eq (by rw [written]) (by rw [written]) (by rw [written])
  | trace => exact of_eq rfl rfl rfl

/-! ## The first instruction completed -/

/-- Whether the first instruction that operations complete is that of the step behind these
ones in front. -/
structure FirstCompletes (start : Machine screenWidth screenHeight)
    (operations front : List Operation) : Prop where
  reached : ∃ back, operations = front ++ .act .step :: back
  before : ∀ early late, front = early ++ .act .step :: late →
    (operateAll start early).movesOn = false
  completes : (operateAll start front).movesOn

/-- Whether operations leave a machine about to complete what it was about to complete before:
the instruction that waits, or else the one where it stands. -/
structure Aimed (start : Machine screenWidth screenHeight) (done : List Operation) : Prop where
  pc : (operateAll start done).pc = start.pc
  waits : start.wait ≠ none →
    (operateAll start done).wait ≠ none ∧ (operateAll start done).word = start.word
  begun : start.wait = none → (operateAll start done).wait ≠ none →
    ∃ early late, done = early ++ .act .step :: late ∧ (operateAll start early).pc = start.pc ∧
      (operateAll start done).word = (operateAll start early).storedAt start.pc

variable {start : Machine screenWidth screenHeight}

theorem aimed_nil (start : Machine screenWidth screenHeight) : Aimed start [] where
  pc := rfl
  waits waits := ⟨waits, rfl⟩
  begun idle waits := absurd idle waits

theorem Aimed.concat {done : List Operation} {operation : Operation} (aimed : Aimed start done)
    (stays : Stays (operateAll start done) operation) : Aimed start (done ++ [operation]) := by
  have next : operateAll start (done ++ [operation]) =
      operate (operateAll start done) operation := operateAll_append start done [operation]
  constructor
  · rw [next, stays.pc, aimed.pc]
  · intro waits
    obtain ⟨waitsStill, word_eq⟩ := aimed.waits waits
    obtain ⟨waitsNext, kept⟩ := stays.waits waitsStill
    rw [next]
    exact ⟨waitsNext, kept.trans word_eq⟩
  · intro idle waits
    rw [next] at waits ⊢
    by_cases idleStill : (operateAll start done).wait = none
    · -- The wait begins with this operation.
      obtain ⟨rfl, word_eq⟩ := stays.begins idleStill waits
      exact ⟨done, [], rfl, aimed.pc, aimed.pc ▸ word_eq⟩
    · obtain ⟨early, late, rfl, pc_eq, word_eq⟩ := aimed.begun idle idleStill
      refine ⟨early, late ++ [operation], by simp, pc_eq, ?_⟩
      exact (stays.waits idleStill).2.trans word_eq

theorem aimed_of_leavesPc {front : List Operation}
    (leaves : ∀ operation ∈ front, operation.leavesPc)
    (unfinished : ∀ early late, front = early ++ .act .step :: late →
      (operateAll start early).movesOn = false) : Aimed start front := by
  induction front using List.reverseRecOn with
  | nil => exact aimed_nil start
  | append_singleton done operation ih =>
    have aimed := ih (fun operation member => leaves operation (List.mem_append_left _ member))
      fun early late done_eq => unfinished early (late ++ [operation]) (by simp [done_eq])
    refine aimed.concat (stays_of_leavesPc (leaves operation (by simp)) ?_)
    rintro rfl
    exact unfinished done [] rfl

/-- What completes is the instruction that waits, or else the one where the machine stands. -/
theorem outcome_of_movesOn {machine : Machine screenWidth screenHeight} (moves : machine.movesOn) :
    machine.step.outcome = .ok (some (.decode (machine.wait.elim (machine.storedAt machine.pc)
      fun _ => machine.word))) ∧
    (machine.wait ≠ none → machine.step.machine.pc = machine.pc + 2) := by
  have steps := machine.steps_step
  rw [Machine.movesOn] at moves
  generalize machine.step = result at steps moves ⊢
  cases steps with
  | waits | leaves | faults => cases moves
  | finishes pending polled =>
    rw [pending]
    exact ⟨rfl, fun _ => rfl⟩
  | executes idle fetched executed =>
    rw [idle, Option.elim_none, machine.storedAt_of_at? fetched]
    exact ⟨rfl, fun waits => absurd rfl waits⟩

theorem FirstCompletes.completed {operations front : List Operation}
    (first : FirstCompletes start operations front)
    (leaves : ∀ operation ∈ front, operation.leavesPc) :
    let last := operateAll start front
    last.pc = start.pc ∧
      (start.wait = none → ∃ early late, front ++ [.act .step] = early ++ .act .step :: late ∧
        (operateAll start early).pc = start.pc ∧
        last.step.outcome =
          .ok (some (.decode ((operateAll start early).storedAt start.pc)))) ∧
      (start.wait ≠ none →
        last.step.outcome = .ok (some (.decode start.word)) ∧
          last.step.machine.pc = start.pc + 2) := by
  intro last
  have aimed := aimed_of_leavesPc leaves first.before
  have pc_eq : last.pc = start.pc := aimed.pc
  obtain ⟨outcome_eq, behind⟩ := outcome_of_movesOn first.completes
  refine ⟨pc_eq, fun idle => ?_, fun waits => ?_⟩
  · cases pending : (operateAll start front).wait with
    | none =>
      rw [pending, Option.elim_none, aimed.pc] at outcome_eq
      exact ⟨front, [], rfl, pc_eq, outcome_eq⟩
    | some wait =>
      have begun : (operateAll start front).wait ≠ none := by simp [pending]
      obtain ⟨early, late, front_eq, early_pc, word_eq⟩ := aimed.begun idle begun
      rw [pending, Option.elim_some, word_eq] at outcome_eq
      exact ⟨early, late ++ [.act .step], by simp [front_eq], early_pc, outcome_eq⟩
  · obtain ⟨waitsStill, word_eq⟩ := aimed.waits waits
    obtain ⟨wait, pending⟩ := Option.ne_none_iff_exists'.mp waitsStill
    rw [pending, Option.elim_some, word_eq] at outcome_eq
    exact ⟨outcome_eq, (behind waitsStill).trans (by rw [aimed.pc])⟩

/-! ## Jumps -/

/-- After the program counter has been set, and up to the first instruction completed, it stays
where it has been set, whatever the lines that follow, unless they reset the machine or set it
again.  That instruction is the word that stands there when it is fetched, if the machine did
not wait for a key.  If it did, it is the one that waited, and the word there is passed over. -/
theorem setPc_resumes {monitor : Monitor} (reachable : Reachable monitor.machine)
    {line name : String} {address : Int} (assigns : Assigns line name .pc address)
    (inside : 0 ≤ address ∧ address ≤ 0xFFE) :
    let set := (monitor.carryOut line).monitor
    set.machine = { monitor.machine with pc := address } ∧
      (∀ lines, (set.carryOutAll lines).machine =
        operateAll set.machine (set.operationsAll lines)) ∧
      ∀ lines front, FirstCompletes set.machine (set.operationsAll lines) front →
        (∀ operation ∈ front, operation.leavesPc) →
        let last := operateAll set.machine front
        last.pc = address ∧
          (monitor.machine.wait = none →
            ∃ early late, front ++ [.act .step] = early ++ .act .step :: late ∧
              (operateAll set.machine early).pc = address ∧
              last.step.outcome =
                .ok (some (.decode ((operateAll set.machine early).storedAt address)))) ∧
          ∀ wait, monitor.machine.wait = some wait →
            last.step.outcome = .ok (some (.waitKey wait.register)) ∧
              last.step.machine.pc = address + 2 := by
  intro set
  have set_eq : set.machine = { monitor.machine with pc := address } := by
    have fits : address % 4096 = address := by omega
    have assigned : set.machine = assign monitor.machine .pc address :=
      congrArg (·.monitor.machine) (assigns.carryOut monitor)
    rw [assigned, assign, fits]
  refine ⟨set_eq, fun lines => machine_carryOutAll set lines, ?_⟩
  intro lines front first leaves last
  obtain ⟨pc_eq, idleCase, waitingCase⟩ := first.completed leaves
  have set_pc : set.machine.pc = address := by rw [set_eq]
  have set_wait : set.machine.wait = monitor.machine.wait := by rw [set_eq]
  have set_word : set.machine.word = monitor.machine.word := by rw [set_eq]
  rw [set_pc, set_wait] at idleCase
  rw [set_pc, set_wait, set_word] at waitingCase
  refine ⟨pc_eq.trans set_pc, idleCase, fun wait pending => ?_⟩
  have began := (reachable.sound.wait wait pending).2
  rw [← began]
  exact waitingCase (by simp [pending])

theorem stepsTaken_succ (machine : Machine screenWidth screenHeight) (count : Nat) :
    ∃ more, stepsTaken [] true machine (count + 1) = more + 1 := by
  rw [stepsTaken, if_neg (by simp)]
  split
  · exact ⟨_, rfl⟩
  · exact ⟨0, rfl⟩
  · exact ⟨0, rfl⟩

/-- A line that asks for steps begins with one. -/
theorem operations_of_step (monitor : Monitor) {line argument : String} {count : Int}
    (parsed : Line.parse line = .command .step argument) (read : numberOr 1 argument = .ok count)
    (positive : 0 < count) : ∃ back, monitor.operations line = .act .step :: back := by
  obtain ⟨more, count_eq⟩ : ∃ more, count.toNat = more + 1 := ⟨count.toNat - 1, by omega⟩
  obtain ⟨taken, taken_eq⟩ := stepsTaken_succ monitor.machine more
  refine ⟨stepOperations taken, ?_⟩
  simp only [operations, parsed, commandOperations, read, granted, count_eq, taken_eq]
  rfl

theorem assigns_jump : Assigns "setreg pc 0x202" "pc" .pc 0x202 :=
  ⟨⟨"pc 0x202", "0x202", [], by decide +kernel, rfl, rfl⟩, rfl⟩

/-- Behind the only instruction of its program there is no word that is one. -/
theorem asking_reads_behind : { Machine.asking with pc := 0x202 }.Reads (.unknown 0) := by
  have room : (#[0xF3, 0x0A] : Array UInt8).size ≤ programRoom := by decide
  have inside : 2 + 2 ≤ programRoom := by decide
  rw [Machine.asking]
  exact Machine.reads_load_at _ room inside (by decide)

/-- A machine that does not wait goes on where it is sent. -/
theorem idleJump_resumes :
    let monitor := Monitor.over Machine.asking
    let set := (monitor.carryOut "setreg pc 0x202").monitor
    Reachable monitor.machine ∧ Assigns "setreg pc 0x202" "pc" .pc 0x202 ∧
      monitor.machine.wait = none ∧
      FirstCompletes set.machine (set.operationsAll ["step"]) [] ∧
      set.machine.step.outcome = .ok (some (.decode (set.machine.storedAt 0x202))) := by
  have reachable := asking_reachable.over
  have idle := Machine.asking_parts.1
  have behind := asking_reads_behind
  -- Unfolding the machine is what takes time.
  obtain ⟨machine, machine_eq⟩ : ∃ machine, machine = Machine.asking := ⟨_, rfl⟩
  rw [← machine_eq] at reachable idle behind ⊢
  intro monitor set
  have idle : monitor.machine.wait = none := idle
  have resumes := setPc_resumes reachable assigns_jump (by decide)
  have reads : set.machine.Reads (.unknown 0) := by
    rw [resumes.1]
    exact behind
  have moves : set.machine.movesOn := by
    have setIdle : set.machine.wait = none := by
      rw [resumes.1]
      exact idle
    obtain ⟨ended, span, machine_eq⟩ := reads.step_of_total setIdle fun _ => rfl
    rw [Machine.movesOn, ended, machine_eq]
    change set.machine.wait.isNone
    rw [setIdle]
    rfl
  have first : FirstCompletes set.machine (set.operationsAll ["step"]) [] := by
    have parsed : Line.parse "step" = .command .step "" := by decide +kernel
    have read : numberOr 1 "" = .ok 1 := rfl
    obtain ⟨back, operations_eq⟩ := set.operations_of_step parsed read (by decide)
    refine ⟨⟨back, ?_⟩, ?_, moves⟩
    · rw [operationsAll, operationsAll, operations_eq]
      simp
    · intro early late empty
      simp at empty
  refine ⟨reachable, assigns_jump, idle, first, ?_⟩
  obtain ⟨early, late, front_eq, -, outcome_eq⟩ :=
    (resumes.2.2 ["step"] [] first (by simp)).2.1 idle
  have early_eq : early = [] := by
    cases early with
    | nil => rfl
    | cons => simp at front_eq
  rw [early_eq] at outcome_eq
  exact outcome_eq

/-- A machine that waits for a key goes on with the instruction that waits, and passes over
the word at the place where it is sent. -/
theorem waitingJump_passes_over :
    let monitor := Monitor.over stalled
    let set := (monitor.carryOut "setreg pc 0x202").monitor
    let front : List Operation := [.act (.keys (.press 5))]
    let last := operateAll set.machine front
    Reachable monitor.machine ∧ Assigns "setreg pc 0x202" "pc" .pc 0x202 ∧
      FirstCompletes set.machine (set.operationsAll ["key press 5", "step"]) front ∧
      last.step.outcome = .ok (some (.waitKey 3)) ∧
      Instruction.decode (last.storedAt 0x202) = .unknown 0 ∧
      last.step.machine.pc = 0x204 := by
  obtain ⟨pending, -, memory_eq, compatibility_eq, keypad_eq⟩ := stalled_parts
  have reachable := stalled_reachable.over
  have began := (stalled_reachable.sound.wait _ pending).2
  -- Unfolding the machine is what takes time.
  obtain ⟨machine, machine_eq⟩ : ∃ machine, machine = stalled := ⟨_, rfl⟩
  rw [← machine_eq] at pending memory_eq compatibility_eq keypad_eq reachable began ⊢
  intro monitor set front last
  have set_eq : set.machine = { machine with pc := 0x202 } :=
    congrArg (·.monitor.machine) (assigns_jump.carryOut monitor)
  have last_eq : last = { machine with pc := 0x202, keypad := Keypad.released.press 5 } := by
    have pressed : last = set.machine.act (.keys (.press 5)) := rfl
    rw [pressed, set_eq, Machine.act, keypad_eq]
    rfl
  have polled : KeyWait.poll ⟨3, none⟩ last.compatibility.keyOnRelease last.keypad =
      .finished 5 := by
    have keypad : last.keypad = Keypad.released.press 5 := by rw [last_eq]
    have compatibility : last.compatibility = .reference := by rw [last_eq, compatibility_eq]
    rw [keypad, compatibility]
    decide
  have step_eq := last.step_of_finished (by rw [last_eq, pending]) polled
  have first : FirstCompletes set.machine (set.operationsAll ["key press 5", "step"]) front := by
    have parsed : Line.parse "key press 5" = .command .key "press 5" := by decide +kernel
    have presses : set.operations "key press 5" = front := by
      rw [operations, parsed]
      rfl
    have parsedStep : Line.parse "step" = .command .step "" := by decide +kernel
    have read : numberOr 1 "" = .ok 1 := rfl
    obtain ⟨back, steps⟩ :=
      (set.carryOut "key press 5").monitor.operations_of_step parsedStep read (by decide)
    refine ⟨⟨back, ?_⟩, ?_, ?_⟩
    · rw [operationsAll, operationsAll, operationsAll, presses, steps, List.append_nil]
    · intro early late front_eq
      have member : (.act .step : Operation) ∈ front := front_eq ▸ by simp
      simp [front] at member
    · change last.movesOn
      rw [Machine.movesOn, step_eq]
      rfl
  have stored : last.storedAt 0x202 = 0 := by
    let span : Span 2 := ⟨0x202, by decide⟩
    have room : (#[0xF3, 0x0A] : Array UInt8).size ≤ programRoom := by decide
    have start_eq : span.start = programStart + 2 := rfl
    have loaded : last.wordAt span = Machine.asking.wordAt span := by
      rw [last_eq, Machine.wordAt, Machine.wordAt, Machine.bytes, Machine.bytes, memory_eq]
    rw [last.storedAt_of_at? (Span.at?_eq_some_iff.mpr rfl : Span.at? 0x202 2 = some span), loaded]
    rw [Machine.asking, Machine.wordAt_load _ room start_eq]
    rfl
  refine ⟨reachable, assigns_jump, first, ?_, ?_, ?_⟩
  · rw [step_eq, last_eq, began]
  · rw [stored]
    decide
  · rw [step_eq, last_eq]
    rfl

end Monitor

end ChipEight
