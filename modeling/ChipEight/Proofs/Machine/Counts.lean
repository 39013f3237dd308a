import ChipEight.Proofs.Machine.Trial

/-!
# What the totals of a machine count

A machine keeps two totals, of instructions and of unknown words.  A run is accompanied
by the machines that took its steps: those of the whole run (`Machine.stepping`), and
those since the last reset (`Machine.stretch`).  Both totals are counts over them.

The totals do not say quite what their names do.  A reset starts the count of instructions
anew but not the count of unknown words, which so belongs to the whole run
(`Machine.unknowns_counted`).  And an instruction that has to wait for a key is counted
when it begins to wait and once more when the key arrives (`Machine.cycles_counted`).
-/

namespace ChipEight

/-- Whether an event reports an unknown word. -/
def Event.isUnknown : Event → Bool
  | .unknown _ _ => true
  | _ => false

namespace Machine

variable {width height : Nat}

/-! ## Steps and what they count for -/

/-- Whether the next step is the one on which the machine moves on from an instruction. -/
def movesOn (machine : Machine width height) : Bool :=
  match machine.step.outcome with
  | .ok (some _) => machine.step.machine.wait.isNone
  | _ => false

/-- Whether the next step begins a wait for a key. -/
def beginsWait (machine : Machine width height) : Bool :=
  machine.wait.isNone && machine.step.machine.wait.isSome

/-- Whether the next step ends a wait for a key. -/
def endsWait (machine : Machine width height) : Bool :=
  machine.wait.isSome && machine.step.machine.wait.isNone

/-- Whether the next step reports an unknown word. -/
def meetsUnknown (machine : Machine width height) : Bool :=
  machine.step.events.any Event.isUnknown

/-- The machines that take the steps of a run, in order. -/
def stepping (machine : Machine width height) : List Action → List (Machine width height)
  | [] => []
  | .step :: rest => machine :: (machine.act .step).stepping rest
  | action :: rest => (machine.act action).stepping rest

/-- The machines that have taken a step since the last reset, after an action. -/
def stretchAfter (machine : Machine width height) (past : List (Machine width height)) :
    Action → List (Machine width height)
  | .step => past ++ [machine]
  | .reset => []
  | _ => past

/-- The machines that have taken a step since the last reset, after a run. -/
def stretch (machine : Machine width height) (past : List (Machine width height)) :
    List Action → List (Machine width height)
  | [] => past
  | first :: rest => (machine.act first).stretch (machine.stretchAfter past first) rest

variable {machine next : Machine width height} {past : List (Machine width height)}

theorem stretchAfter_of_fromOutside {action : Action} (fromOutside : action.fromOutside) :
    machine.stretchAfter past action = past := by
  cases action with
  | step | reset => contradiction
  | pass | keys | load => rfl

/-- The last stretch is the end of the whole run: all of it where there is no reset. -/
theorem stepping_eq_append_stretch (machine : Machine width height)
    (past : List (Machine width height)) (actions : List Action) :
    ∃ forgotten, past ++ machine.stepping actions = forgotten ++ machine.stretch past actions ∧
      (.reset ∉ actions → forgotten = []) := by
  induction actions generalizing machine past with
  | nil => exact ⟨[], by rw [stretch, stepping, List.append_nil, List.nil_append], fun _ => rfl⟩
  | cons first rest ih =>
    obtain ⟨forgotten, stepping_eq, whole⟩ :=
      ih (machine.act first) (machine.stretchAfter past first)
    have whole_rest (noReset : .reset ∉ first :: rest) : forgotten = [] :=
      whole (List.not_mem_of_not_mem_cons noReset)
    cases first with
    | step =>
      refine ⟨forgotten, ?_, whole_rest⟩
      rw [stretch, stepping, ← stepping_eq, stretchAfter, List.append_assoc, List.singleton_append]
    | reset =>
      refine ⟨past ++ forgotten, ?_, fun noReset => absurd List.mem_cons_self noReset⟩
      rw [stretchAfter, List.nil_append] at stepping_eq
      rw [stretch, stepping, stepping_eq, stretchAfter, List.append_assoc]
      exact fun isStep => nomatch isStep
    | pass | keys | load => exact ⟨forgotten, stepping_eq, whole_rest⟩

/-! ## The count of instructions -/

/-- A step counts if the machine moves on from an instruction or begins a wait. -/
theorem completed_step (machine : Machine width height) :
    completed machine.step.outcome = machine.movesOn.toNat + machine.beginsWait.toNat := by
  have steps := machine.steps_step
  rw [movesOn, beginsWait]
  generalize machine.step = result at steps
  cases steps with
  | waits pending polled => simp [completed, pending]
  | finishes pending polled => simp [completed, pending]
  | leaves idle outside => simp [completed, idle]
  | faults idle fetched faulted => simp [completed, idle, fetch]
  | @executes span next idle fetched executed =>
    cases next.wait with
    | none => simp [completed, idle]
    | some wait => simp [completed, idle]

/-- A step that faults counts for nothing. -/
theorem uncounted_of_fault {fault : Fault} (faulted : machine.step.outcome = .error fault) :
    machine.movesOn = false ∧ machine.beginsWait = false := by
  have steps := machine.steps_step
  rw [movesOn, beginsWait]
  generalize machine.step = result at steps faulted ⊢
  cases steps with
  | waits | finishes | executes => contradiction
  | leaves idle outside => exact ⟨rfl, by rw [idle]; rfl⟩
  | faults idle fetched effect => exact ⟨rfl, by rw [fetch, idle]; rfl⟩

/-- Waits begin and end in turn. -/
theorem waits_step (machine : Machine width height) :
    machine.wait.isSome.toNat + machine.beginsWait.toNat =
      machine.endsWait.toNat + machine.step.machine.wait.isSome.toNat := by
  rw [beginsWait, endsWait]
  cases machine.wait <;> cases machine.step.machine.wait <;> rfl

/-- Whether the totals of a machine are what the steps of the last stretch come to. -/
structure Counted (past : List (Machine width height)) (machine : Machine width height) :
    Prop where
  cycles : machine.cycles = past.countP movesOn + past.countP beginsWait
  waits : past.countP beginsWait = past.countP endsWait + machine.wait.isSome.toNat

theorem counted_powerOn (compatibility : Compatibility) (random : RandomBytes) :
    Counted [] (powerOn compatibility random : Machine width height) :=
  ⟨rfl, rfl⟩

theorem countP_concat {α : Type} (holds : α → Bool) (front : List α) (last : α) :
    (front ++ [last]).countP holds = front.countP holds + (holds last).toNat := by
  rw [List.countP_append, List.countP_singleton]
  cases holds last <;> rfl

theorem Counted.act (counted : Counted past machine) (action : Action) :
    Counted (machine.stretchAfter past action) (machine.act action) := by
  by_cases fromOutside : action.fromOutside
  · obtain ⟨memory, keypad, delay, sound, programSize, acted⟩ :=
      machine.act_of_fromOutside fromOutside
    rw [stretchAfter_of_fromOutside fromOutside, acted]
    exact ⟨counted.cycles, counted.waits⟩
  · cases action with
    | step =>
      have cycles := counted.cycles
      have waits := counted.waits
      have cycles_step := machine.cycles_step
      have completed_step := machine.completed_step
      have waits_step := machine.waits_step
      constructor
      · rw [stretchAfter, countP_concat, countP_concat, Machine.act]
        omega
      · rw [stretchAfter, countP_concat, countP_concat, Machine.act]
        omega
    | reset => exact ⟨rfl, rfl⟩
    | pass | keys | load => exact absurd rfl fromOutside

theorem Counted.run (counted : Counted past machine) (actions : List Action) :
    Counted (machine.stretch past actions) (machine.run actions) := by
  induction actions generalizing machine past with
  | nil => exact counted
  | cons first rest ih => exact ih (counted.act first)

/-- The count of instructions is right as long as none of them has had to wait. -/
theorem Counted.cycles_eq_iff (counted : Counted past machine) :
    machine.cycles = past.countP movesOn ↔ ∀ stepped ∈ past, stepped.beginsWait = false := by
  rw [counted.cycles, Nat.add_eq_left, List.countP_eq_zero]
  simp only [Bool.not_eq_true]

/-- After any run from power-on, the count of instructions is the number of instructions
completed since the last reset and, on top of it, of the waits for a key begun since then:
those that have ended and the one that goes on, if any.  So an instruction that waits
counts before it is complete, and it counts twice when it is; the count is right as long
as no instruction has had to wait.  A step that faults counts for nothing. -/
theorem cycles_counted (compatibility : Compatibility) (random : RandomBytes)
    (actions : List Action) :
    let start : Machine width height := powerOn compatibility random
    let stretch := start.stretch [] actions
    (start.run actions).cycles = stretch.countP movesOn + stretch.countP beginsWait ∧
      stretch.countP beginsWait =
        stretch.countP endsWait + (start.run actions).wait.isSome.toNat ∧
      ((start.run actions).cycles = stretch.countP movesOn ↔
        ∀ machine ∈ stretch, machine.beginsWait = false) ∧
      ∀ machine ∈ stretch, (∃ fault, machine.step.outcome = .error fault) →
        machine.movesOn = false ∧ machine.beginsWait = false := by
  intro start stretch
  have counted : Counted stretch (start.run actions) :=
    (counted_powerOn compatibility random).run actions
  exact ⟨counted.cycles, counted.waits, counted.cycles_eq_iff,
    fun machine _ ⟨_, faulted⟩ => uncounted_of_fault faulted⟩

/-- An instruction that asks for a key begins a wait unless that ends at once. -/
theorem beginsWait_of_goesOn {x : Register} {wait : KeyWait}
    (asks : machine.upcoming? = some (.waitKey x))
    (goesOn : KeyWait.poll ⟨x, none⟩ machine.compatibility.keyOnRelease machine.keypad =
      .waiting wait) : machine.beginsWait := by
  have steps := machine.steps_step
  rw [beginsWait]
  generalize machine.step = result at steps
  cases steps with
  | waits pending | finishes pending => simp [upcoming?, pending] at asks
  | leaves idle outside => simp [upcoming?, idle, outside] at asks
  | faults idle fetched faulted =>
    rw [upcoming?_of_at?_eq_some idle fetched] at asks
    rw [Option.some.inj asks] at faulted
    contradiction
  | @executes span next idle fetched executed =>
    rw [upcoming?_of_at?_eq_some idle fetched] at asks
    rw [Option.some.inj asks] at executed
    obtain rfl := Except.ok.inj executed
    have goesOnStill : KeyWait.poll ⟨x, none⟩ (machine.fetch span).compatibility.keyOnRelease
        (machine.fetch span).keypad = .waiting wait := goesOn
    rw [polled, goesOnStill, idle]
    rfl

/-- A machine about to wait for a key that goes down. -/
def asking : Machine 64 32 :=
  (powerOn .reference (.cycle #[])).act (.load #[0xF3, 0x0A])

theorem asking_parts :
    asking.wait = none ∧ asking.pc = programStart ∧ asking.compatibility = .reference ∧
      asking.keypad = .released := by
  rw [asking, wait_load, pc_load, compatibility_load, keypad_load]
  exact ⟨rfl, rfl, rfl, rfl⟩

theorem asking_beginsWait : asking.beginsWait := by
  have room : (#[0xF3, 0x0A] : Array UInt8).size ≤ programRoom := by decide
  have asks : asking.upcoming? = some (.waitKey 3) := by
    rw [asking, upcoming?_load _ room rfl rfl]
    decide
  have goesOn : KeyWait.poll ⟨3, none⟩ asking.compatibility.keyOnRelease asking.keypad =
      .waiting ⟨3, none⟩ := by
    rw [asking_parts.2.2.1, asking_parts.2.2.2]
    decide
  exact beginsWait_of_goesOn asks goesOn

/-- An instruction that waits for a key is counted when it begins to and when key 5
arrives. -/
theorem asking_counted_twice :
    let start : Machine 64 32 := powerOn .reference (.cycle #[])
    let actions : List Action := [.load #[0xF3, 0x0A], .step, .keys (.press 5), .step]
    ¬ (start.run actions).cycles = (start.stretch [] actions).countP movesOn := by
  intro start actions counts
  have counted : Counted (start.stretch [] actions) (start.run actions) :=
    (counted_powerOn .reference (.cycle #[])).run actions
  have stepped : asking ∈ start.stretch [] actions := List.mem_cons_self
  have began := counted.cycles_eq_iff.mp counts asking stepped
  rw [asking_beginsWait] at began
  contradiction

/-! ## The count of unknown words -/

/-- Only an unknown word is counted as one. -/
theorem unknowns_of_effect {instruction : Instruction}
    (executed : machine.effect instruction = .ok next) :
    next.unknowns =
      machine.unknowns + ((instruction.events machine.pc).any Event.isUnknown).toNat := by
  cases instruction <;>
    simp only [effect, within_eq_ok_iff, Except.ok.injEq] at executed
  case «return» =>
    cases top : machine.calls.top? with
    | none => simp only [top, reduceCtorEq] at executed
    | some caller =>
      simp only [top, within_eq_ok_iff] at executed
      obtain ⟨span, located, rfl⟩ := executed
      rfl
  case call target =>
    split at executed
    · obtain ⟨span, located, rfl⟩ := within_eq_ok_iff.mp executed
      rfl
    · contradiction
  case waitKey x =>
    subst executed
    rw [polled]
    split <;> rfl
  case arithmetic operation x y =>
    subst executed
    obtain ⟨registers, computed⟩ := machine.advance.compute_eq operation x y
    rw [computed]
    rfl
  case store x | load x =>
    obtain ⟨span, located, rfl⟩ := executed
    obtain ⟨index, moved, -⟩ := advanceIndex_eq _ (x.val + 1)
    rw [moved]
    rfl
  case jump | jumpOffset | draw | decimal =>
    obtain ⟨span, located, rfl⟩ := executed
    rfl
  all_goals
    subst executed
    rfl

theorem traced_any_isUnknown (machine : Machine width height) (span : Span 2) :
    (machine.traced span).any Event.isUnknown = false := by
  rw [traced]
  split <;> rfl

theorem unknowns_step (machine : Machine width height) :
    machine.step.machine.unknowns = machine.unknowns + machine.meetsUnknown.toNat := by
  have steps := machine.steps_step
  rw [meetsUnknown]
  generalize machine.step = result at steps
  cases steps with
  | waits | finishes | leaves => rfl
  | @faults span fault idle fetched faulted =>
    simp only [traced_any_isUnknown]
    rfl
  | @executes span next idle fetched executed =>
    have counted := unknowns_of_effect executed
    have fetch_pc : (machine.fetch span).pc = machine.pc := rfl
    have fetch_unknowns : (machine.fetch span).unknowns = machine.unknowns := rfl
    rw [fetch_pc, fetch_unknowns] at counted
    rw [List.any_append, traced_any_isUnknown, Bool.false_or]
    exact counted

/-- From an unknown word the machine moves on. -/
theorem movesOn_of_meetsUnknown (meets : machine.meetsUnknown) : machine.movesOn := by
  have steps := machine.steps_step
  rw [meetsUnknown] at meets
  rw [movesOn]
  generalize machine.step = result at steps meets
  cases steps with
  | waits | finishes | leaves => contradiction
  | @faults span fault idle fetched faulted =>
    rw [traced_any_isUnknown] at meets
    contradiction
  | @executes span next idle fetched executed =>
    rw [List.any_append, traced_any_isUnknown, Bool.false_or] at meets
    cases decoded : machine.instructionAt span with
    | unknown word =>
      rw [decoded] at executed
      obtain rfl := Except.ok.inj executed
      exact Option.isNone_iff_eq_none.mpr idle
    | _ =>
      rw [decoded] at meets
      contradiction

theorem unknowns_run (machine : Machine width height) (actions : List Action) :
    (machine.run actions).unknowns =
      machine.unknowns + (machine.stepping actions).countP meetsUnknown := by
  induction actions generalizing machine with
  | nil => rfl
  | cons first rest ih =>
    rw [run_cons, ih]
    by_cases fromOutside : first.fromOutside
    · obtain ⟨memory, keypad, delay, sound, programSize, acted⟩ :=
        machine.act_of_fromOutside fromOutside
      have stepping_eq : machine.stepping (first :: rest) = (machine.act first).stepping rest := by
        cases first with
        | step | reset => contradiction
        | pass | keys | load => rfl
      rw [stepping_eq, acted]
    · cases first with
      | step =>
        rw [stepping, List.countP_cons, act, unknowns_step]
        cases machine.meetsUnknown with
        | false => rfl
        | true => simp only [Bool.toNat_true, if_true, Nat.add_assoc, Nat.add_comm 1]
      | reset => rfl
      | pass | keys | load => exact absurd rfl fromOutside

/-- After any run from power-on, the count of unknown words is the number of those met in
the whole run, also before the last reset, while the count of instructions covers those
met since then.  So unknown words never outnumber instructions by more than were met
before the last reset. -/
theorem unknowns_counted (compatibility : Compatibility) (random : RandomBytes)
    (actions : List Action) :
    let start : Machine width height := powerOn compatibility random
    let stretch := start.stretch [] actions
    (start.run actions).unknowns = (start.stepping actions).countP meetsUnknown ∧
      stretch.countP meetsUnknown ≤ (start.run actions).cycles ∧
      ∃ forgotten, start.stepping actions = forgotten ++ stretch ∧
        (.reset ∉ actions → forgotten = []) ∧
        (start.run actions).unknowns ≤
          (start.run actions).cycles + forgotten.countP meetsUnknown := by
  intro start stretch
  have counted : Counted stretch (start.run actions) :=
    (counted_powerOn compatibility random).run actions
  have unknowns_eq : (start.run actions).unknowns =
      (start.stepping actions).countP meetsUnknown :=
    (start.unknowns_run actions).trans (Nat.zero_add _)
  have among : stretch.countP meetsUnknown ≤ stretch.countP movesOn :=
    List.countP_mono_left fun machine _ => movesOn_of_meetsUnknown
  have bounded : stretch.countP meetsUnknown ≤ (start.run actions).cycles := by
    rw [counted.cycles]
    exact Nat.le_add_right_of_le among
  obtain ⟨forgotten, stepping_eq, whole⟩ := start.stepping_eq_append_stretch [] actions
  refine ⟨unknowns_eq, bounded, forgotten, stepping_eq, whole, ?_⟩
  have split : (start.stepping actions).countP meetsUnknown =
      forgotten.countP meetsUnknown + stretch.countP meetsUnknown :=
    (congrArg (List.countP meetsUnknown) stepping_eq).trans List.countP_append
  omega

/-- A reset right after an unknown word leaves more unknown words than instructions. -/
theorem outnumbered_of_meetsUnknown (meets : machine.meetsUnknown) :
    (machine.run [.step, .reset]).cycles < (machine.run [.step, .reset]).unknowns := by
  have cycles_eq : (machine.run [.step, .reset]).cycles = 0 := rfl
  have unknowns_eq : (machine.run [.step, .reset]).unknowns = machine.step.machine.unknowns := rfl
  rw [cycles_eq, unknowns_eq, unknowns_step, meets]
  exact Nat.succ_pos _

/-- An empty program begins with an unknown word. -/
theorem powerOn_meetsUnknown :
    (powerOn .reference (.cycle #[]) : Machine 64 32).meetsUnknown := by
  let start : Machine 64 32 := powerOn .reference (.cycle #[])
  have fetched : Span.at? start.pc 2 = some ⟨programStart, by decide⟩ :=
    Span.at?_eq_some_iff.mpr rfl
  have word_eq : start.wordAt ⟨programStart, by decide⟩ = 0x0000 := by
    simp [start, powerOn, wordAt, bytes, Span.read, Span.place, programStart, glyphs, Word.ofBytes]
  have decoded : start.instructionAt ⟨programStart, by decide⟩ = .unknown 0x0000 := by
    rw [instructionAt, word_eq]
    decide
  rw [meetsUnknown, start.step_of_effect rfl fetched (by rw [decoded]; rfl), decoded]
  rfl

/-- The unknown word that was met before the reset is still counted, the step that met it
is not. -/
theorem powerOn_outnumbered :
    let start : Machine 64 32 := powerOn .reference (.cycle #[])
    ¬ (start.run [.step, .reset]).unknowns ≤ (start.run [.step, .reset]).cycles :=
  Nat.not_le_of_lt (outnumbered_of_meetsUnknown powerOn_meetsUnknown)

end Machine

end ChipEight
