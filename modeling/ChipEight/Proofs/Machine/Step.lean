import ChipEight.Proofs.Machine.Effect

/-!
# What a step can do

A step goes one of five ways (`Machine.Steps`): a wait for a key goes on or ends,
the program counter has left memory, or the fetched instruction faults or has its
effect.  From here on nothing looks into a stage again.

A step that ends with a fault leaves everything but the latch of the fetched word
as it was, and shows nothing but the trace (`Machine.atomic_of_fault`).
-/

namespace ChipEight

namespace Machine

variable {width height : Nat} (machine : Machine width height)

/-- The machine after it has fetched the word of a span. -/
def fetch (span : Span 2) : Machine width height :=
  { machine with word := machine.wordAt span }

/-- The instruction in a span. -/
def instructionAt (span : Span 2) : Instruction :=
  .decode (machine.wordAt span)

/-- The report on a fetched word, while debugging. -/
def traced (span : Span 2) : List Event :=
  if machine.debug then [.trace machine.pc (machine.wordAt span)] else []

/-! ## Entering a step -/

theorem step_of_run_ok {executed : Option Instruction} {after : Underway width height}
    (ran : Stage.step.run ⟨machine, []⟩ = .ok executed after) :
    machine.step = ⟨after.machine, after.events, .ok executed⟩ := by
  simp only [step, ran]

theorem step_of_run_error {fault : Fault} {after : Underway width height}
    (ran : Stage.step.run ⟨machine, []⟩ = .error fault after) :
    machine.step = ⟨after.machine, after.events, .error fault⟩ := by
  simp only [step, ran]

theorem run_step_of_wait {wait : KeyWait} (pending : machine.wait = some wait) :
    Stage.step.run ⟨machine, []⟩ = (Stage.stepWaiting wait).run ⟨machine, []⟩ := by
  simp only [Stage.step, Stage.run_machine_bind, pending]

theorem run_step_of_idle (idle : machine.wait = none) :
    Stage.step.run ⟨machine, []⟩ = Stage.stepFetching.run ⟨machine, []⟩ := by
  simp only [Stage.step, Stage.run_machine_bind, idle]

/-- A step that has fetched its word goes on with an attempt. -/
theorem run_stepFetching {span : Span 2} (fetched : Span.at? machine.pc 2 = some span) :
    Stage.stepFetching.run ⟨machine, []⟩ =
      (Stage.attempt (machine.instructionAt span) >>= fun _ => Stage.count >>= fun _ =>
        pure (some (machine.instructionAt span))).run
          ⟨machine.fetch span, machine.traced span⟩ := by
  rw [Stage.stepFetching, EStateM.run_bind, Stage.run_fetch_of_some machine fetched]
  simp only
  rw [EStateM.run_bind, Stage.run_trace]
  rfl

/-! ## The five ways -/

/-- The wait for a key goes on. -/
theorem step_of_waiting {wait next : KeyWait} (pending : machine.wait = some wait)
    (polled : wait.poll machine.compatibility.keyOnRelease machine.keypad = .waiting next) :
    machine.step = ⟨{ machine with wait := some next }, [], .ok none⟩ := by
  have entered := machine.run_step_of_wait pending
  rw [Stage.stepWaiting, Stage.poll, bind_assoc, Stage.run_machine_bind] at entered
  simp only [polled] at entered
  exact machine.step_of_run_ok entered

/-- The wait for a key ends. -/
theorem step_of_finished {wait : KeyWait} {key : Key} (pending : machine.wait = some wait)
    (polled : wait.poll machine.compatibility.keyOnRelease machine.keypad = .finished key) :
    machine.step =
      ⟨{ machine.setRegister wait.register (UInt8.ofNat key.val) with
          wait := none, pc := machine.pc + 2, cycles := machine.cycles + 1 },
        [], .ok (some (.decode machine.word))⟩ := by
  have entered := machine.run_step_of_wait pending
  rw [Stage.stepWaiting, Stage.poll, bind_assoc, Stage.run_machine_bind] at entered
  simp only [polled] at entered
  exact machine.step_of_run_ok entered

/-- The program counter has left memory. -/
theorem step_of_outside (idle : machine.wait = none) (outside : Span.at? machine.pc 2 = none) :
    machine.step = ⟨machine, [], .error (.memory machine.pc 2)⟩ := by
  have entered := machine.run_step_of_idle idle
  rw [Stage.stepFetching, EStateM.run_bind, Stage.run_fetch_of_none machine outside] at entered
  exact machine.step_of_run_error entered

/-- The fetched instruction faults. -/
theorem step_of_fault {span : Span 2} {fault : Fault} (idle : machine.wait = none)
    (fetched : Span.at? machine.pc 2 = some span)
    (faulted : (machine.fetch span).effect (machine.instructionAt span) = .error fault) :
    machine.step = ⟨machine.fetch span, machine.traced span, .error fault⟩ := by
  have attempted := Stage.run_attempt (machine.fetch span) (machine.instructionAt span)
    (machine.traced span)
  rw [faulted] at attempted
  have entered := machine.run_step_of_idle idle
  rw [machine.run_stepFetching fetched, EStateM.run_bind, attempted] at entered
  exact machine.step_of_run_error entered

/-- The fetched instruction has its effect. -/
theorem step_of_effect {span : Span 2} {next : Machine width height} (idle : machine.wait = none)
    (fetched : Span.at? machine.pc 2 = some span)
    (executed : (machine.fetch span).effect (machine.instructionAt span) = .ok next) :
    machine.step =
      ⟨{ next with cycles := next.cycles + 1 },
        machine.traced span ++ (machine.instructionAt span).events machine.pc,
        .ok (some (machine.instructionAt span))⟩ := by
  have attempted := Stage.run_attempt (machine.fetch span) (machine.instructionAt span)
    (machine.traced span)
  rw [executed] at attempted
  have entered := machine.run_step_of_idle idle
  rw [machine.run_stepFetching fetched, EStateM.run_bind, attempted] at entered
  exact machine.step_of_run_ok entered

/-- The ways in which a step can go. -/
inductive Steps (machine : Machine width height) : StepResult width height → Prop where
  | waits {wait next : KeyWait} (pending : machine.wait = some wait)
      (polled : wait.poll machine.compatibility.keyOnRelease machine.keypad = .waiting next) :
      Steps machine ⟨{ machine with wait := some next }, [], .ok none⟩
  | finishes {wait : KeyWait} {key : Key} (pending : machine.wait = some wait)
      (polled : wait.poll machine.compatibility.keyOnRelease machine.keypad = .finished key) :
      Steps machine
        ⟨{ machine.setRegister wait.register (UInt8.ofNat key.val) with
            wait := none, pc := machine.pc + 2, cycles := machine.cycles + 1 },
          [], .ok (some (.decode machine.word))⟩
  | leaves (idle : machine.wait = none) (outside : Span.at? machine.pc 2 = none) :
      Steps machine ⟨machine, [], .error (.memory machine.pc 2)⟩
  | faults {span : Span 2} {fault : Fault} (idle : machine.wait = none)
      (fetched : Span.at? machine.pc 2 = some span)
      (faulted : (machine.fetch span).effect (machine.instructionAt span) = .error fault) :
      Steps machine ⟨machine.fetch span, machine.traced span, .error fault⟩
  | executes {span : Span 2} {next : Machine width height} (idle : machine.wait = none)
      (fetched : Span.at? machine.pc 2 = some span)
      (executed : (machine.fetch span).effect (machine.instructionAt span) = .ok next) :
      Steps machine
        ⟨{ next with cycles := next.cycles + 1 },
          machine.traced span ++ (machine.instructionAt span).events machine.pc,
          .ok (some (machine.instructionAt span))⟩

/-- Every step goes one of these ways. -/
theorem steps_step : machine.Steps machine.step := by
  cases pending : machine.wait with
  | some wait =>
    cases polled : wait.poll machine.compatibility.keyOnRelease machine.keypad with
    | waiting next =>
      rw [machine.step_of_waiting pending polled]
      exact .waits pending polled
    | finished key =>
      rw [machine.step_of_finished pending polled]
      exact .finishes pending polled
  | none =>
    cases fetched : Span.at? machine.pc 2 with
    | none =>
      rw [machine.step_of_outside pending fetched]
      exact .leaves pending fetched
    | some span =>
      cases executed : (machine.fetch span).effect (machine.instructionAt span) with
      | error fault =>
        rw [machine.step_of_fault pending fetched executed]
        exact .faults pending fetched executed
      | ok next =>
        rw [machine.step_of_effect pending fetched executed]
        exact .executes pending fetched executed

/-! ## Faults leave no trace -/

/-- A step that faults changes nothing but the latch of the fetched word, and that
only if there was a word to fetch.  It shows no drawn screen and no unknown word. -/
theorem atomic_of_fault {fault : Fault} (faulted : machine.step.outcome = .error fault) :
    machine.step.machine = { machine with word := machine.step.machine.word } ∧
      (∀ span, Span.at? machine.pc 2 = some span →
        machine.step.machine.word = machine.wordAt span) ∧
      (Span.at? machine.pc 2 = none → machine.step.machine.word = machine.word) ∧
      ∀ event ∈ machine.step.events, event = .trace machine.pc machine.step.machine.word := by
  have steps := machine.steps_step
  generalize machine.step = result at steps faulted ⊢
  cases steps with
  | waits | finishes | executes => contradiction
  | leaves idle outside =>
    refine ⟨rfl, ?_, fun _ => rfl, fun _ member => nomatch member⟩
    intro span fetched
    rw [outside] at fetched
    contradiction
  | @faults span _ idle fetched effect =>
    refine ⟨rfl, ?_, ?_, ?_⟩
    · intro other located
      rw [fetched] at located
      cases located
      rfl
    · intro outside
      rw [fetched] at outside
      contradiction
    · intro event member
      rw [traced] at member
      split at member
      · exact List.mem_singleton.mp member
      · contradiction

/-- A machine about to return while no call is pending. -/
def strayReturn : Machine 64 32 :=
  { powerOn .reference (.cycle #[]) with
    memory := Vector.ofFn fun place => if place.val = programStart + 1 then 0xEE else 0 }

theorem strayReturn_underflows : strayReturn.step.outcome = .error .stackUnderflow := by
  have fetched : Span.at? strayReturn.pc 2 = some ⟨programStart, by decide⟩ :=
    Span.at?_eq_some_iff.mpr rfl
  have word_eq : strayReturn.wordAt ⟨programStart, by decide⟩ = 0x00EE := by
    simp [wordAt, bytes, Span.read, Span.place, strayReturn, Word.ofBytes]
  have decoded : strayReturn.instructionAt ⟨programStart, by decide⟩ = .return := by
    rw [instructionAt, word_eq]
    decide
  rw [strayReturn.step_of_fault rfl fetched (by rw [decoded]; rfl)]

theorem strayReturn_atomic :
    strayReturn.step.outcome = .error .stackUnderflow ∧
      strayReturn.step.machine = { strayReturn with word := strayReturn.step.machine.word } :=
  ⟨strayReturn_underflows, (strayReturn.atomic_of_fault strayReturn_underflows).1⟩

end Machine

end ChipEight
