import ChipEight.Proofs.Machine.Fetching

/-!
# Calls and returns

A call puts its own address on the stack, and the return that takes it off goes on
at the next word.  In between anything may happen except a reset: inner calls, key
waits, faults, new programs.  As long as a call is pending, the stack ends with its
address and with what was on the stack before.

The pending calls are listed with the innermost one first, so that a stack that is left
alone is a suffix of the later ones.
-/

namespace ChipEight

namespace Machine

variable {width height : Nat} {machine : Machine width height}

/-! ## The call stack under one action -/

/-- A step pushes or pops at most one call, and only a return pops. -/
theorem stack_step (machine : Machine width height) :
    machine.step.machine.stack = machine.stack ∨
      (∃ caller, machine.step.machine.stack = caller :: machine.stack) ∨
      machine.step.outcome = .ok (some .return) ∧ ∃ caller outer,
        machine.stack = caller :: outer ∧ machine.step.machine.stack = outer ∧
          machine.step.machine.pc = caller + 2 := by
  have steps := machine.steps_step
  generalize machine.step = result at steps
  cases steps with
  | waits | finishes | leaves | faults => exact .inl rfl
  | executes idle fetched executed =>
    revert executed
    generalize machine.instructionAt _ = instruction
    intro executed
    cases Machine.effects executed with
    | clears | draws => exact .inl rfl
    | returns pushed inside =>
      exact .inr (.inr ⟨rfl, _, _, stack_of_top? pushed, rfl, rfl⟩)
    | calls room inside => exact .inr (.inl ⟨_, CallStack.live_push _ room _⟩)
    | asks =>
      left
      rw [polled]
      split <;> rfl
    | moves movesData keeps pc index => exact .inl keeps.stack

theorem stack_act (machine : Machine width height) {action : Action} (noReset : action ≠ .reset) :
    (machine.act action).stack = machine.stack ∨
      (∃ caller, (machine.act action).stack = caller :: machine.stack) ∨
      action = .step ∧ machine.step.outcome = .ok (some .return) ∧ ∃ caller outer,
        machine.stack = caller :: outer ∧ (machine.act action).stack = outer ∧
          (machine.act action).pc = caller + 2 := by
  by_cases fromOutside : action.fromOutside
  · obtain ⟨memory, keypad, delay, sound, programSize, acted⟩ :=
      machine.act_of_fromOutside fromOutside
    rw [acted]
    exact .inl rfl
  · cases action with
    | step =>
      rcases machine.stack_step with kept | pushed | ⟨returned, popped⟩
      · exact .inl kept
      · exact .inr (.inl pushed)
      · exact .inr (.inr ⟨rfl, returned, popped⟩)
    | reset => exact absurd rfl noReset
    | pass | keys | load => exact absurd rfl fromOutside

theorem stack_keys (machine : Machine width height) (change : Keypad.Change) :
    (machine.act (.keys change)).stack = machine.stack :=
  rfl

theorem wait_keys (machine : Machine width height) (change : Keypad.Change) :
    (machine.act (.keys change)).wait = machine.wait :=
  rfl

theorem Reads.keys {instruction : Instruction} (reads : machine.Reads instruction)
    (change : Keypad.Change) : (machine.act (.keys change)).Reads instruction :=
  reads.congr rfl rfl

/-- A call pushes its own address. -/
theorem stack_of_call {target : Address} (idle : machine.wait = none)
    (called : machine.step.outcome = .ok (some (.call target))) :
    machine.step.machine.stack = machine.pc :: machine.stack := by
  have steps := machine.steps_step
  generalize machine.step = result at steps called
  cases steps with
  | waits | leaves | faults => cases called
  | finishes pending polled =>
    rw [idle] at pending
    contradiction
  | executes idle fetched executed =>
    have decoded := Option.some.inj (Except.ok.inj called)
    rw [decoded] at executed
    cases Machine.effects executed with
    | calls room inside => exact CallStack.live_push _ room _
    | moves movesData => contradiction

/-! ## Pending calls -/

variable {caller : Int} {outer : List Int}

/-- A call stays pending until the stack is as short as it was before the call. -/
theorem pending_act {action : Action} (noReset : action ≠ .reset)
    (pending : caller :: outer <:+ machine.stack)
    (unreturned : (machine.act action).stack.length ≠ outer.length) :
    caller :: outer <:+ (machine.act action).stack := by
  rcases machine.stack_act noReset with kept | ⟨inner, pushed⟩ |
    ⟨-, -, top, below, stack, popped, -⟩
  · rw [kept]
    exact pending
  · rw [pushed]
    exact pending.trans (List.suffix_cons inner machine.stack)
  · rw [stack] at pending
    rw [popped] at unreturned ⊢
    rcases List.suffix_cons_iff.mp pending with same | pending
    · cases same
      exact absurd rfl unreturned
    · exact pending

/-- The action that makes the stack as short as before a call is the return from
that call. -/
theorem returned_act {action : Action} (noReset : action ≠ .reset)
    (pending : caller :: outer <:+ machine.stack)
    (returned : (machine.act action).stack.length = outer.length) :
    action = .step ∧ machine.step.outcome = .ok (some .return) ∧
      (machine.act action).pc = caller + 2 ∧ (machine.act action).stack = outer := by
  have deep := pending.length_le
  rw [List.length_cons] at deep
  rcases machine.stack_act noReset with kept | ⟨inner, pushed⟩ |
    ⟨isStep, outcome, top, below, stack, popped, pc⟩
  · rw [kept] at returned
    omega
  · rw [pushed, List.length_cons] at returned
    omega
  · rw [popped] at returned
    have same : caller :: outer = top :: below := by
      rw [← stack]
      apply pending.eq_of_length
      rw [stack, List.length_cons, List.length_cons, returned]
    cases same
    exact ⟨isStep, outcome, pc, popped⟩

/-- A call stays pending along a run that does not return from it. -/
theorem pending_run {actions : List Action} (noReset : ∀ action ∈ actions, action ≠ .reset)
    (pending : caller :: outer <:+ machine.stack)
    (unreturned : ∀ front, front <+: actions → (machine.run front).stack.length ≠ outer.length) :
    caller :: outer <:+ (machine.run actions).stack := by
  induction actions generalizing machine with
  | nil => exact pending
  | cons first rest ih =>
    apply ih (fun action member => noReset action (List.mem_cons_of_mem first member))
    · apply pending_act (noReset first List.mem_cons_self) pending
      exact unreturned [first] ⟨rest, rfl⟩
    · intro front isFront
      exact unreturned (first :: front) (List.cons_prefix_cons.mpr ⟨rfl, isFront⟩)

/-- A return to a word that does not lie within memory faults. -/
theorem step_of_return_outside {span : Span 2} (idle : machine.wait = none)
    (fetched : Span.at? machine.pc 2 = some span)
    (returns : machine.instructionAt span = .return) (top : machine.stack = caller :: outer)
    (outside : ¬ inMemory (caller + 2) 2) :
    machine.step = ⟨machine.fetch span, machine.traced span, .error (.memory (caller + 2) 2)⟩ := by
  apply machine.step_of_fault idle fetched
  have fetchedTop : (machine.fetch span).calls.top? = some caller := by
    rw [top?_calls]
    exact List.head?_eq_some_iff.mpr ⟨outer, top⟩
  rw [returns, effect, fetchedTop]
  exact within_eq_error_iff.mpr ⟨outside, rfl⟩

/-- Calls and returns nest.  After a call, and until the stack has its old length
again, the stack ends with the address of the call and the old stack.  The action
that gives the stack its old length is a return; it goes on at the word after the
call and restores the old stack.  Where there is no such word, the return faults. -/
theorem calls_nest {target : Address} (idle : machine.wait = none)
    (called : machine.step.outcome = .ok (some (.call target))) {actions : List Action}
    (noReset : ∀ action ∈ actions, action ≠ .reset)
    (unreturned : ∀ front, front <+: actions →
      (machine.step.machine.run front).stack.length ≠ machine.stack.length) :
    machine.pc :: machine.stack <:+ (machine.step.machine.run actions).stack ∧
      (∀ action, action ≠ .reset →
        ((machine.step.machine.run actions).act action).stack.length = machine.stack.length →
          action = .step ∧
          (machine.step.machine.run actions).step.outcome = .ok (some .return) ∧
          ((machine.step.machine.run actions).act action).pc = machine.pc + 2 ∧
          ((machine.step.machine.run actions).act action).stack = machine.stack) ∧
      (0xFFE < machine.pc + 2 →
        (machine.step.machine.run actions).stack.length = machine.stack.length + 1 →
        (machine.step.machine.run actions).wait = none →
        ∀ span, Span.at? (machine.step.machine.run actions).pc 2 = some span →
          (machine.step.machine.run actions).instructionAt span = .return →
          (machine.step.machine.run actions).step.outcome = .error (.memory (machine.pc + 2) 2) ∧
          (machine.step.machine.run actions).step.machine.stack =
            (machine.step.machine.run actions).stack ∧
          (machine.step.machine.run actions).step.machine.pc =
            (machine.step.machine.run actions).pc) := by
  have pushed : machine.pc :: machine.stack <:+ machine.step.machine.stack := by
    have stack_eq := stack_of_call idle called
    exact ⟨[], stack_eq.symm⟩
  have pending := pending_run noReset pushed unreturned
  refine ⟨pending, fun action noReset => returned_act noReset pending, ?_⟩
  intro outside shallow idle span fetched returns
  have top := (pending.eq_of_length shallow.symm).symm
  have noWord : ¬ inMemory (machine.pc + 2) 2 := by
    rw [inMemory_iff]
    simp only [memorySize]
    omega
  rw [step_of_return_outside idle fetched returns top noWord]
  exact ⟨rfl, rfl, rfl⟩

/-! ## A subroutine -/

/-- A call that has been read and that there is room for. -/
theorem Reads.calls {target : Address} (reads : machine.Reads (.call target))
    (idle : machine.wait = none) (room : machine.calls.depth < stackDepth)
    (inside : inMemory target.val 2) :
    machine.step.outcome = .ok (some (.call target)) ∧
      ∃ word, machine.step.machine =
        { machine with
          pc := target.val, calls := machine.calls.push room machine.pc, word := word
          cycles := machine.cycles + 1 } := by
  obtain ⟨span, -, outcome_eq, machine_eq⟩ := reads.step idle
  obtain ⟨there, located⟩ : ∃ there, Span.at? (target.val : Int) 2 = some there :=
    Option.ne_none_iff_exists'.mp fun outside => Span.at?_eq_none_iff.mp outside inside
  have effect_eq : (machine.fetch span).effect (.call target) =
      .ok { machine.fetch span with
        pc := target.val, calls := machine.calls.push room machine.pc } := by
    have fetchedRoom : (machine.fetch span).calls.depth < stackDepth := room
    rw [effect, dif_pos fetchedRoom, within, located]
    rfl
  rw [effect_eq] at outcome_eq
  exact ⟨outcome_eq, _, machine_eq _ effect_eq⟩

/-- A return that has been read while a call is pending. -/
theorem Reads.returns (reads : machine.Reads .return) (idle : machine.wait = none)
    (pushed : machine.stack = caller :: outer) (inside : inMemory (caller + 2) 2) :
    machine.step.machine.stack = outer := by
  obtain ⟨span, -, -, machine_eq⟩ := reads.step idle
  obtain ⟨there, located⟩ : ∃ there, Span.at? (caller + 2) 2 = some there :=
    Option.ne_none_iff_exists'.mp fun outside => Span.at?_eq_none_iff.mp outside inside
  have top : (machine.fetch span).calls.top? = some caller := by
    rw [top?_calls]
    exact List.head?_eq_some_iff.mpr ⟨outer, pushed⟩
  have effect_eq : (machine.fetch span).effect .return =
      .ok { machine.fetch span with pc := caller + 2, calls := machine.calls.pop } := by
    simp only [effect, top, within, located]
    rfl
  have popped : machine.calls.pop.live = outer := by
    rw [CallStack.live_pop]
    exact congrArg List.tail pushed
  rw [machine_eq _ effect_eq]
  exact popped

/-- A program with a subroutine that returns at once. -/
def immediateReturn : Array UInt8 := #[0x22, 0x04, 0x12, 0x02, 0x00, 0xEE]

/-- A machine about to call the subroutine. -/
def calling : Machine 64 32 :=
  (powerOn .reference (.cycle #[])).act (.load immediateReturn)

theorem calling_reads {offset : Nat} {instruction : Instruction}
    (inside : offset + 2 ≤ programRoom)
    (decoded : Instruction.decode (.ofBytes (immediateReturn[offset]?.getD 0)
      (immediateReturn[offset + 1]?.getD 0)) = instruction) :
    { calling with pc := (programStart + offset : Nat) }.Reads instruction :=
  reads_load_at _ (by decide) inside decoded

theorem calling_parts :
    calling.wait = none ∧ calling.pc = programStart ∧ calling.stack = [] := by
  rw [calling, act_load _ (by decide)]
  exact ⟨rfl, rfl, rfl⟩

/-- The call is made, and the return comes up next. -/
theorem calling_calls :
    calling.step.outcome = .ok (some (.call 0x204)) ∧
      calling.step.machine.stack = [(programStart : Int)] ∧
      calling.step.machine.wait = none ∧ calling.step.machine.Reads .return := by
  obtain ⟨idle, pc_eq, stack_eq⟩ := calling_parts
  have calls : calling.Reads (.call 0x204) :=
    (@calling_reads 0 _ (by decide) (by decide)).congr pc_eq rfl
  have returns : { calling with pc := (programStart + 4 : Nat) }.Reads .return :=
    calling_reads (by decide) (by decide)
  generalize calling = machine at idle pc_eq stack_eq calls returns ⊢
  have room : machine.calls.depth < stackDepth := by
    rw [← length_stack, stack_eq]
    decide
  obtain ⟨called, word, machine_eq⟩ := calls.calls idle room (by decide)
  have pushed := stack_of_call idle called
  rw [pc_eq, stack_eq] at pushed
  refine ⟨called, pushed, ?_, ?_⟩
  · rw [machine_eq]
    exact idle
  · rw [machine_eq]
    exact returns.congr rfl rfl

/-- While a key goes down the call stays pending; then the return restores the stack and
goes on behind the call. -/
theorem immediateReturn_nests :
    calling.step.outcome = .ok (some (.call 0x204)) ∧
      [(programStart : Int)] <:+ (calling.step.machine.run [.keys (.press 5)]).stack ∧
      (calling.step.machine.run [.keys (.press 5)]).step.outcome = .ok (some .return) ∧
      (calling.step.machine.run [.keys (.press 5)]).step.machine.pc = 0x202 ∧
      (calling.step.machine.run [.keys (.press 5)]).step.machine.stack = [] := by
  obtain ⟨idle, pc_eq, stack_eq⟩ := calling_parts
  obtain ⟨called, pushed, stillIdle, reads⟩ := calling_calls
  have noReset : ∀ action ∈ [Action.keys (.press 5)], action ≠ .reset := by
    intro action member
    simp [List.mem_singleton.mp member]
  have unreturned (front : List Action) (isFront : front <+: [.keys (.press 5)]) :
      (calling.step.machine.run front).stack.length ≠ calling.stack.length := by
    have kept : (calling.step.machine.run front).stack = [(programStart : Int)] := by
      rcases List.prefix_cons_iff.mp isFront with rfl | ⟨rest, rfl, isRest⟩
      · rw [run_nil, pushed]
      · rw [List.prefix_nil.mp isRest, run_cons, run_nil, stack_keys, pushed]
    rw [kept, stack_eq]
    decide
  obtain ⟨pending, returns, -⟩ := calls_nest idle called noReset unreturned
  have popped := (reads.keys (.press 5)).returns ((wait_keys _ _).trans stillIdle)
    ((stack_keys _ _).trans pushed) (by decide)
  rw [stack_eq, pc_eq] at pending returns
  have shallow : ((calling.step.machine.run [.keys (.press 5)]).act .step).stack.length = 0 := by
    rw [run_cons, run_nil, act, popped, List.length_nil]
  obtain ⟨-, outcome_eq, pc_next, stack_next⟩ := returns .step (by simp) shallow
  rw [act] at pc_next stack_next
  exact ⟨called, pending, outcome_eq, pc_next.trans (by decide), stack_next⟩

end Machine

end ChipEight
