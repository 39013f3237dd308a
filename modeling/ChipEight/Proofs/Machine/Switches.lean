import ChipEight.Proofs.Machine.Variation

/-!
# Switches matter only where they are obeyed

Two machines that are the same except for their switches stay the same, whatever happens
to them, until one of them completes an instruction that obeys a switch on which they
differ (`Machine.switches_local`).  A wait for a key is polled long after the instruction
that began it; but where a machine waits the two do not differ on that switch, or the
instruction would have come up before.

A shift of a register by itself and an offset jump that names `V0` do the same either
way, so they do not count.
-/

namespace ChipEight

namespace Machine

variable {width height : Nat} {machine : Machine width height} {one other : Compatibility}

/-- The machine with its switches set in another way. -/
def withSwitches (machine : Machine width height) (other : Compatibility) :
    Machine width height :=
  machine.vary { compatibility := fun _ => other }

theorem ofSettings_switches (other : Compatibility) :
    Variation.OfSettings { compatibility := fun _ => other } :=
  ⟨rfl, rfl, rfl⟩

/-- A step does not set a switch. -/
theorem compatibility_step (machine : Machine width height) :
    machine.step.machine.compatibility = machine.compatibility := by
  -- To set the switches the way they are changes nothing, before or after.
  have same : machine.withSwitches machine.compatibility = machine := rfl
  have indifferent : machine.Indifferent { compatibility := fun _ => machine.compatibility } :=
    ⟨ofSettings_switches _, fun instruction _ => instruction.not_disputed_self _,
      fun _ _ _ => rfl, fun _ => rfl⟩
  obtain ⟨events, stepped, -⟩ := step_vary indifferent
  rw [← withSwitches, same] at stepped
  rw [stepped]
  rfl

theorem compatibility_act (machine : Machine width height) (action : Action) :
    (machine.act action).compatibility = machine.compatibility := by
  by_cases fromOutside : action.fromOutside
  · obtain ⟨memory, keypad, delay, sound, programSize, acted⟩ :=
      machine.act_of_fromOutside fromOutside
    rw [acted]
  · cases action with
    | step => exact machine.compatibility_step
    | reset => rfl
    | pass | keys | load => exact absurd rfl fromOutside

/-! ## Waits -/

/-- A machine waits only if it has waited before or has just been asked to. -/
theorem wait_step (waits : machine.step.machine.wait ≠ none) :
    machine.wait ≠ none ∨ ∃ x, machine.step.outcome = .ok (some (.waitKey x)) := by
  have steps := machine.steps_step
  generalize machine.step = result at steps waits ⊢
  cases steps with
  | waits pending => simp [pending]
  | finishes => exact absurd rfl waits
  | leaves | faults => exact .inl waits
  | @executes span next idle fetched executed =>
    revert executed
    generalize machine.instructionAt span = instruction
    intro executed
    cases Machine.effects executed with
    | clears | returns | calls | draws => exact .inl waits
    | asks => exact .inr ⟨_, rfl⟩
    | moves movesData keeps =>
      exact absurd (keeps.wait.trans idle) waits

/-- An instruction that comes up and is not completed is no more than fetched. -/
theorem step_machine_of_upcoming {instruction : Instruction}
    (upcoming : machine.upcoming? = some instruction)
    (incomplete : machine.step.outcome ≠ .ok (some instruction)) :
    ∃ span, Span.at? machine.pc 2 = some span ∧ machine.step.machine = machine.fetch span := by
  have steps := machine.steps_step
  generalize machine.step = result at steps incomplete
  cases steps with
  | waits pending | finishes pending => simp [upcoming?, pending] at upcoming
  | leaves idle outside => simp [upcoming?, idle, outside] at upcoming
  | @faults span fault idle fetched => exact ⟨span, fetched, rfl⟩
  | executes idle fetched =>
    rw [upcoming?_of_at?_eq_some idle fetched] at upcoming
    exact absurd (congrArg Except.ok upcoming) incomplete

/-! ## Two machines -/

/-- Whether two ways to set the switches agree on the wait of a machine, if it waits. -/
def AgreesOnWait (machine : Machine width height) (other : Compatibility) : Prop :=
  machine.wait ≠ none → other.keyOnRelease = machine.compatibility.keyOnRelease

/-- A step whose instruction is not disputed comes out the same. -/
theorem step_withSwitches (agrees : machine.AgreesOnWait other)
    (undisputed : ∀ instruction, machine.upcoming? = some instruction →
      ¬ instruction.Disputed machine.compatibility other) :
    (machine.withSwitches other).step =
      { machine.step with machine := machine.step.machine.withSwitches other } := by
  have indifferent : machine.Indifferent { compatibility := fun _ => other } :=
    ⟨ofSettings_switches other, undisputed, fun _ _ _ => rfl, agrees⟩
  obtain ⟨events, stepped, events_eq⟩ := step_vary indifferent
  rw [withSwitches, stepped, events_eq rfl]
  rfl

/-- Two machines stay the same in a step in which neither completes a disputed
instruction, even if it comes up and both of them fault. -/
theorem step_machine_withSwitches (agrees : machine.AgreesOnWait other)
    (undisputed : ∀ instruction : Instruction, instruction.Disputed machine.compatibility other →
      machine.step.outcome ≠ .ok (some instruction) ∧
        (machine.withSwitches other).step.outcome ≠ .ok (some instruction)) :
    (machine.withSwitches other).step.machine = machine.step.machine.withSwitches other := by
  by_cases disputed : ∃ instruction, machine.upcoming? = some instruction ∧
      instruction.Disputed machine.compatibility other
  · obtain ⟨instruction, upcoming, disputed⟩ := disputed
    obtain ⟨incomplete, incompleteOther⟩ := undisputed instruction disputed
    have upcomingOther : (machine.withSwitches other).upcoming? = some instruction := upcoming
    obtain ⟨span, fetched, step_eq⟩ := step_machine_of_upcoming upcoming incomplete
    obtain ⟨spanOther, fetchedOther, stepOther_eq⟩ :=
      step_machine_of_upcoming upcomingOther incompleteOther
    have span_eq : span = spanOther := Option.some.inj (fetched.symm.trans fetchedOther)
    rw [step_eq, stepOther_eq, span_eq]
    rfl
  · rw [step_withSwitches agrees fun instruction upcoming contrary =>
      disputed ⟨instruction, upcoming, contrary⟩]

theorem AgreesOnWait.step (agrees : machine.AgreesOnWait other)
    (undisputed : ∀ instruction : Instruction, instruction.Disputed machine.compatibility other →
      machine.step.outcome ≠ .ok (some instruction)) :
    machine.step.machine.AgreesOnWait other := by
  intro waits
  rw [machine.compatibility_step]
  rcases wait_step waits with waited | ⟨x, asked⟩
  · exact agrees waited
  · apply Classical.byContradiction
    intro differ
    exact undisputed (.waitKey x) (Ne.symm differ) asked

theorem AgreesOnWait.act (agrees : machine.AgreesOnWait other) {action : Action}
    (noStep : action ≠ .step) : (machine.act action).AgreesOnWait other := by
  by_cases fromOutside : action.fromOutside
  · obtain ⟨memory, keypad, delay, sound, programSize, acted⟩ :=
      machine.act_of_fromOutside fromOutside
    rw [acted]
    exact agrees
  · cases action with
    | step => contradiction
    | reset => exact fun waits => absurd rfl waits
    | pass | keys | load => exact absurd rfl fromOutside

/-- Whether neither of two machines, which differ in their switches, completes a disputed
instruction in a run. -/
def Undisputed (machine : Machine width height) (other : Compatibility) (actions : List Action) :
    Prop :=
  ∀ front, front ++ [.step] <+: actions →
    ∀ instruction : Instruction, instruction.Disputed machine.compatibility other →
      (machine.run front).step.outcome ≠ .ok (some instruction) ∧
        ((machine.withSwitches other).run front).step.outcome ≠ .ok (some instruction)

/-- Two machines stay the same along a run without a disputed instruction. -/
theorem run_withSwitches {actions : List Action} (agrees : machine.AgreesOnWait other)
    (undisputed : machine.Undisputed other actions) :
    (machine.withSwitches other).run actions = (machine.run actions).withSwitches other ∧
      (machine.run actions).AgreesOnWait other ∧
      (machine.run actions).compatibility = machine.compatibility := by
  induction actions generalizing machine with
  | nil => exact ⟨rfl, agrees, rfl⟩
  | cons first rest ih =>
    have acted : (machine.withSwitches other).act first =
        (machine.act first).withSwitches other ∧ (machine.act first).AgreesOnWait other := by
      by_cases isStep : first = .step
      · subst isStep
        have now := undisputed [] ⟨rest, rfl⟩
        exact ⟨step_machine_withSwitches agrees now,
          agrees.step fun instruction disputed => (now instruction disputed).1⟩
      · exact ⟨act_vary (ofSettings_switches other) machine isStep, agrees.act isStep⟩
    have kept := machine.compatibility_act first
    have later : (machine.act first).Undisputed other rest := by
      intro front isFront instruction disputed
      rw [kept] at disputed
      have steps := undisputed (first :: front)
        (List.cons_prefix_cons.mpr ⟨rfl, isFront⟩) instruction disputed
      rw [run_cons, run_cons, acted.1] at steps
      exact steps
    obtain ⟨same, agreesLater, keptLater⟩ := ih acted.2 later
    rw [run_cons, run_cons, acted.1]
    exact ⟨same, agreesLater, keptLater.trans kept⟩

/-- Two machines that start at power-on and differ only in their switches differ in
nothing else along a run, as long as neither completes an instruction that obeys a switch
on which they differ.  Their next steps then come out the same as well, unless such an
instruction comes up. -/
theorem switches_local (one other : Compatibility) (random : RandomBytes) {actions : List Action}
    (undisputed : (powerOn one random : Machine width height).Undisputed other actions) :
    let first : Machine width height := (powerOn one random).run actions
    let second : Machine width height := (powerOn other random).run actions
    second = { first with compatibility := other } ∧
      ((∀ instruction, first.upcoming? = some instruction → ¬ instruction.Disputed one other) →
        second.step =
          { first.step with machine := { first.step.machine with compatibility := other } }) := by
  intro first second
  have atFirst : (powerOn one random : Machine width height).AgreesOnWait other :=
    fun waits => absurd rfl waits
  obtain ⟨same, agrees, kept⟩ := run_withSwitches atFirst undisputed
  have second_eq : second = first.withSwitches other := same
  have kept : first.compatibility = one := kept
  refine ⟨second_eq, fun unconcerned => ?_⟩
  rw [second_eq]
  exact step_withSwitches agrees fun instruction upcoming =>
    kept.symm ▸ unconcerned instruction upcoming

/-- An instruction that a step fetches and completes has come up. -/
theorem upcoming?_of_outcome {instruction : Instruction} (idle : machine.wait = none)
    (completed : machine.step.outcome = .ok (some instruction)) :
    machine.upcoming? = some instruction := by
  have steps := machine.steps_step
  generalize machine.step = result at steps completed
  cases steps with
  | waits pending | finishes pending => simp [pending] at idle
  | leaves | faults => contradiction
  | executes idle fetched =>
    rw [upcoming?_of_at?_eq_some idle fetched, Option.some.inj (Except.ok.inj completed)]

/-- A program that shifts `V0` by itself. -/
def selfShift : Array UInt8 :=
  #[0x80, 0x06]

theorem selfShift_upcoming (switches : Compatibility) (random : RandomBytes) :
    ((powerOn switches random : Machine 64 32).act (.load selfShift)).upcoming? =
      some (.arithmetic .shiftRight 0 0) := by
  rw [upcoming?_load (powerOn switches random) (by decide) rfl rfl]
  decide

/-- The program runs the same on machines that disagree about shifts. -/
theorem selfShift_agrees :
    Compatibility.cosmac.shiftUsesSecond ≠ Compatibility.reference.shiftUsesSecond ∧
      (powerOn .cosmac (.cycle #[]) : Machine 64 32).run [.load selfShift, .step] =
        { (powerOn .reference (.cycle #[]) : Machine 64 32).run [.load selfShift, .step] with
          compatibility := .cosmac } := by
  refine ⟨by decide, (switches_local .reference .cosmac (.cycle #[]) ?_).1⟩
  have shifts (switches : Compatibility) {instruction : Instruction}
      (completed : ((powerOn switches (.cycle #[]) : Machine 64 32).act
        (.load selfShift)).step.outcome = .ok (some instruction)) :
      instruction = .arithmetic .shiftRight 0 0 := by
    have room : selfShift.size ≤ programRoom := by decide
    have upcoming := upcoming?_of_outcome (by rw [act_load _ room]; rfl) completed
    rw [selfShift_upcoming] at upcoming
    exact (Option.some.inj upcoming).symm
  intro front isFront instruction disputed
  have front_eq : front = [.load selfShift] := by
    have isFront : front ++ [.step] <+: [.load selfShift] ++ [.step] := isFront
    rcases List.prefix_concat_iff.mp isFront with whole | short
    · exact List.append_inj_left' whole rfl
    · have member : Action.step ∈ [Action.load selfShift] := short.subset (by simp)
      simp at member
  subst front_eq
  have harmless : instruction ≠ .arithmetic .shiftRight 0 0 := by
    rintro rfl
    exact disputed.1 rfl
  exact ⟨fun completed => harmless (shifts _ completed),
    fun completed => harmless (shifts _ completed)⟩

end Machine

end ChipEight
