import ChipEight.Proofs.Machine.KeyWait
import ChipEight.Proofs.Machine.Trial

/-!
# How far a machine gets

A machine that may take a number of steps completes instructions one after the other, until
the steps are used up, an instruction faults, or the machine waits for a key
(`Machine.Advances`).  Each completed instruction is counted once (`Machine.Advances.cycles`).

Once a machine waits, further steps change nothing until a key moves
(`Machine.step_of_stalled`).
-/

namespace ChipEight

/-- A second look at the same keys tells nothing new. -/
theorem KeyWait.poll_again {wait next : KeyWait} {onRelease : Bool} {keypad : Keypad}
    (polled : wait.poll onRelease keypad = .waiting next) :
    next.poll onRelease keypad = .waiting next := by
  cases onRelease with
  | false =>
    cases lowest : keypad.lowest? with
    | some key => simp [poll, lowest] at polled
    | none =>
      simp only [poll, lowest, Bool.false_eq_true, if_false] at polled ⊢
  | true =>
    cases held : wait.held with
    | some key =>
      cases down : keypad.isDown key with
      | false => simp [poll, held, down] at polled
      | true =>
        simp only [poll, held, down, if_true, Progress.waiting.injEq] at polled
        subst polled
        simp [poll, held, down]
    | none =>
      simp only [poll, held, if_true, Progress.waiting.injEq] at polled
      subst polled
      cases lowest : keypad.lowest? with
      | none => simp [poll, lowest]
      | some key =>
        have down : keypad.isDown key := (Keypad.lowest?_eq_some_iff.mp lowest).1
        simp [poll, down]

/-- Why a machine gets no further. -/
inductive Halt where
  /-- It has taken all its steps. -/
  | spent
  /-- An instruction did not execute. -/
  | fault (cause : Fault)
  /-- It waits for a key. -/
  | waiting
  deriving DecidableEq, Repr

namespace Machine

variable {width height : Nat} {machine last : Machine width height}
  {past : List (Machine width height)} {budget : Nat} {halt : Halt}

/-- How far a machine gets with a number of steps: the machines that have completed an
instruction, in order, why it gets no further, and the machine then. -/
inductive Advances : Machine width height → Nat → List (Machine width height) → Halt →
    Machine width height → Prop where
  | spent (machine : Machine width height) : Advances machine 0 [] .spent machine
  | faults {machine : Machine width height} {budget : Nat} {cause : Fault}
      (faulted : machine.step.outcome = .error cause) :
      Advances machine (budget + 1) [] (.fault cause) machine.step.machine
  | waits {machine : Machine width height} {budget : Nat}
      (waited : machine.step.outcome = .ok none) :
      Advances machine (budget + 1) [] .waiting machine.step.machine
  | executes {machine last : Machine width height} {budget : Nat} {instruction : Instruction}
      {past : List (Machine width height)} {halt : Halt}
      (completed : machine.step.outcome = .ok (some instruction))
      (rest : Advances machine.step.machine budget past halt last) :
      Advances machine (budget + 1) (machine :: past) halt last

theorem exists_advances (machine : Machine width height) (budget : Nat) :
    ∃ past halt last, machine.Advances budget past halt last := by
  induction budget generalizing machine with
  | zero => exact ⟨_, _, _, .spent machine⟩
  | succ budget ih =>
    match ended : machine.step.outcome with
    | .error cause => exact ⟨_, _, _, .faults ended⟩
    | .ok none => exact ⟨_, _, _, .waits ended⟩
    | .ok (some instruction) =>
      obtain ⟨past, halt, last, rest⟩ := ih machine.step.machine
      exact ⟨_, _, _, .executes ended rest⟩

namespace Advances

/-- The machines that complete instructions follow one another. -/
theorem past_eq (advances : machine.Advances budget past halt last) :
    past = (List.range past.length).map machine.after := by
  induction advances with
  | spent | faults | waits => rfl
  | @executes machine last budget instruction past halt completed rest ih =>
    rw [List.length_cons, List.range_succ_eq_map, List.map_cons, List.map_map]
    exact congrArg (machine :: ·) ih

theorem completed (advances : machine.Advances budget past halt last) :
    ∀ member ∈ past, ∃ instruction, member.step.outcome = .ok (some instruction) := by
  induction advances with
  | spent | faults | waits => exact fun _ member => nomatch member
  | executes completed rest ih => exact List.forall_mem_cons.mpr ⟨⟨_, completed⟩, ih⟩

/-- What steps preserve holds of all machines on the way. -/
theorem invariant {Invariant : Machine width height → Prop}
    (preserved : ∀ machine, Invariant machine → Invariant machine.step.machine)
    (advances : machine.Advances budget past halt last) (holds : Invariant machine) :
    Invariant last ∧ ∀ member ∈ past, Invariant member := by
  induction advances with
  | spent => exact ⟨holds, fun _ member => nomatch member⟩
  | faults | waits => exact ⟨preserved _ holds, fun _ member => nomatch member⟩
  | executes completed rest ih =>
    obtain ⟨atEnd, onTheWay⟩ := ih (preserved _ holds)
    exact ⟨atEnd, List.forall_mem_cons.mpr ⟨holds, onTheWay⟩⟩

/-- Every completed instruction is counted, and nothing else. -/
theorem cycles (advances : machine.Advances budget past halt last) :
    last.cycles = machine.cycles + past.length := by
  induction advances with
  | spent => rfl
  | @faults machine budget cause faulted =>
    rw [machine.cycles_step, faulted]
    rfl
  | @waits machine budget waited =>
    rw [machine.cycles_step, waited]
    rfl
  | @executes machine last budget instruction past halt completed rest ih =>
    rw [ih, machine.cycles_step, completed, List.length_cons]
    simp only [Machine.completed, Option.toList_some, List.length_singleton]
    omega

/-- All steps complete an instruction, or the one that does not is the last. -/
theorem length_past (advances : machine.Advances budget past halt last) :
    if halt = .spent then past.length = budget else past.length < budget := by
  induction advances with
  | spent => exact rfl
  | faults | waits => exact Nat.succ_pos _
  | executes completed rest ih =>
    rw [List.length_cons]
    split at ih
    · rename_i spent
      rw [if_pos spent, ih]
    · rename_i unspent
      rw [if_neg unspent]
      exact Nat.succ_lt_succ ih

end Advances

/-! ## Waits that go on -/

/-- A step that does not complete has left a wait. -/
theorem wait_of_waited (waited : machine.step.outcome = .ok none) :
    machine.step.machine.wait ≠ none := by
  have steps := machine.steps_step
  generalize machine.step = result at steps waited ⊢
  cases steps with
  | finishes | leaves | faults | executes => cases waited
  | waits => exact Option.some_ne_none _

/-- An instruction that begins to wait is one that completes. -/
theorem completed_of_begun (idle : machine.wait = none)
    (stalled : machine.step.machine.wait ≠ none) :
    ∃ instruction, machine.step.outcome = .ok (some instruction) := by
  match ended : machine.step.outcome with
  | .ok (some instruction) => exact ⟨instruction, rfl⟩
  | .ok none => exact absurd ended (outcome_of_idle idle)
  | .error fault =>
    have machine_eq := (machine.atomic_of_fault ended).1
    exact absurd ((congrArg Machine.wait machine_eq).trans idle) stalled

/-- A wait that a step has begun or left pending stays as it is: until a key moves, further
steps change nothing. -/
theorem step_of_stalled (stalled : machine.step.machine.wait ≠ none) :
    machine.step.machine.step = ⟨machine.step.machine, [], .ok none⟩ := by
  have steps := machine.steps_step
  generalize machine.step = result at steps stalled ⊢
  cases steps with
  | finishes => exact absurd rfl stalled
  | leaves idle | faults idle => exact absurd idle stalled
  | @waits wait next pending polled =>
    exact { machine with wait := some next }.step_of_waiting rfl (KeyWait.poll_again polled)
  | @executes span next idle fetched executed =>
    generalize machine.instructionAt span = instruction at executed stalled ⊢
    cases Machine.effects executed with
    | clears | draws | returns | calls => exact absurd idle stalled
    | moves movesData keeps => exact absurd (keeps.wait.trans idle) stalled
    | @asks x =>
      rw [polled] at stalled ⊢
      cases looked : KeyWait.poll ⟨x, none⟩ (machine.fetch span).compatibility.keyOnRelease
          (machine.fetch span).keypad with
      | finished key =>
        rw [looked] at stalled
        exact absurd rfl stalled
      | waiting wait => exact step_of_waiting _ rfl (KeyWait.poll_again looked)

end Machine

end ChipEight
