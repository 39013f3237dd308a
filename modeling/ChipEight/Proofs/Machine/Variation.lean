import ChipEight.Proofs.Machine.Surroundings

/-!
# What a step does not depend on

Much of a machine is of no concern to most instructions.  The switches matter to a few
of them, the source of random bytes to one; memory matters to those that move a block at
the index, and only in that block.  The latch of the fetched word, the trace switch and
the count of instructions matter to none.

A machine that is varied in parts that are of no concern to its next instruction does the
same and stays varied (`Machine.effect_vary`, `Machine.step_vary`).
-/

namespace ChipEight

/-! ## Instructions and what they depend on -/

/-- Whether an instruction does different things under two ways to set the switches: it
obeys a switch on which they differ, and the two registers between which the switch
chooses are not the same one. -/
def Instruction.Disputed (one other : Compatibility) : Instruction → Prop
  | .arithmetic .shiftRight x y | .arithmetic .shiftLeft x y =>
    x ≠ y ∧ one.shiftUsesSecond ≠ other.shiftUsesSecond
  | .jumpOffset base => offsetRegister base ≠ 0 ∧ one.offsetUsesNamed ≠ other.offsetUsesNamed
  | .waitKey _ => one.keyOnRelease ≠ other.keyOnRelease
  | .store _ | .load _ => one.indexAdvances ≠ other.indexAdvances
  | _ => False

theorem Instruction.not_disputed_self (instruction : Instruction) (switches : Compatibility) :
    ¬ instruction.Disputed switches switches := by
  intro disputed
  rw [Disputed.eq_def] at disputed
  split at disputed
  · exact disputed.2 rfl
  · exact disputed.2 rfl
  · exact disputed.2 rfl
  · exact disputed rfl
  · exact disputed rfl
  · exact disputed rfl
  · exact disputed

/-- Whether an instruction draws a random byte. -/
def Instruction.drawsByte : Instruction → Bool
  | .random _ _ => true
  | _ => false

/-- How many bytes an instruction reads or writes at the index. -/
def Instruction.blockSize : Instruction → Nat
  | .draw _ _ rows => rows.val
  | .decimal _ => 3
  | .store x | .load x => x.val + 1
  | _ => 0

/-- A shift of a register by itself comes out the same either way. -/
theorem Arithmetic.apply_eq (operation : Arithmetic) {x y : Register} {one other : Compatibility}
    (undisputed : ¬ (Instruction.arithmetic operation x y).Disputed one other) {a b : UInt8}
    (same : x = y → a = b) :
    operation.apply other.shiftUsesSecond a b = operation.apply one.shiftUsesSecond a b := by
  have shifted (kept : ¬ (x ≠ y ∧ one.shiftUsesSecond ≠ other.shiftUsesSecond)) :
      (if other.shiftUsesSecond then b else a) = if one.shiftUsesSecond then b else a := by
    by_cases equal : x = y
    · rw [same equal, ite_self, ite_self]
    · have agree : one.shiftUsesSecond = other.shiftUsesSecond :=
        Classical.not_not.mp fun differ => kept ⟨equal, differ⟩
      rw [agree]
  cases operation with
  | shiftRight | shiftLeft =>
    simp only [apply]
    rw [shifted undisputed]
  | _ => rfl

/-! ## Variations -/

/-- A change of the parts of a machine that are of no concern to most instructions. -/
structure Variation where
  /-- The change of the switches. -/
  compatibility : Compatibility → Compatibility := id
  /-- The change of the source of random bytes. -/
  random : RandomBytes → RandomBytes := id
  /-- The change of memory. -/
  memory : Memory → Memory := id
  /-- The change of the latch of the fetched word. -/
  word : Word → Word := id
  /-- The change of the trace switch. -/
  debug : Bool → Bool := id
  /-- The change of the count of instructions. -/
  cycles : Nat → Nat := id

/-- Whether a variation leaves a span of a memory alone, and what is written there. -/
def Variation.Spares {size : Nat} (variation : Variation) (span : Span size) (memory : Memory) :
    Prop :=
  span.read (variation.memory memory) = span.read memory ∧
    ∀ bytes, span.write (variation.memory memory) bytes =
      variation.memory (span.write memory bytes)

theorem Variation.spares_of_eq_id {variation : Variation} (same : variation.memory = id)
    {size : Nat} (span : Span size) (memory : Memory) : variation.Spares span memory := by
  rw [Spares, same]
  exact ⟨rfl, fun _ => rfl⟩

/-- Whether a variation changes no more than the switches, the source of random bytes and
the trace switch. -/
structure Variation.OfSettings (variation : Variation) : Prop where
  memory : variation.memory = id
  word : variation.word = id
  cycles : variation.cycles = id

namespace Machine

variable {width height : Nat}

/-- The machine with a variation. -/
def vary (machine : Machine width height) (variation : Variation) : Machine width height :=
  { machine with
    compatibility := variation.compatibility machine.compatibility
    random := variation.random machine.random
    memory := variation.memory machine.memory
    word := variation.word machine.word
    debug := variation.debug machine.debug
    cycles := variation.cycles machine.cycles }

/-- Whether a variation of a machine is of no concern to an instruction. -/
structure Unconcerned (machine : Machine width height) (variation : Variation)
    (instruction : Instruction) : Prop where
  switches : ¬ instruction.Disputed machine.compatibility
    (variation.compatibility machine.compatibility)
  random : instruction.drawsByte → variation.random = id
  memory : ∀ span : Span instruction.blockSize,
    Span.at? machine.index instruction.blockSize = some span →
      variation.Spares span machine.memory

variable {machine : Machine width height} {variation : Variation}

theorem within_congr {address : Int} {size : Nat} {change other : Span size → Machine width height}
    (agrees : ∀ span, Span.at? address size = some span → change span = other span) :
    within address size change = within address size other := by
  rw [within, within]
  cases located : Span.at? address size with
  | none => rfl
  | some span => exact congrArg Except.ok (agrees span located)

theorem compute_vary (machine : Machine width height) {operation : Arithmetic} {x y : Register}
    (undisputed : ¬ (Instruction.arithmetic operation x y).Disputed machine.compatibility
      (variation.compatibility machine.compatibility)) :
    (machine.vary variation).compute operation x y =
      (machine.compute operation x y).vary variation := by
  have result_eq : operation.apply (machine.vary variation).compatibility.shiftUsesSecond
      ((machine.vary variation).register x) ((machine.vary variation).register y) =
    operation.apply machine.compatibility.shiftUsesSecond (machine.register x)
      (machine.register y) :=
    operation.apply_eq undisputed fun equal => congrArg machine.register equal
  rw [compute, compute, result_eq]
  rcases operation.apply machine.compatibility.shiftUsesSecond (machine.register x)
    (machine.register y) with ⟨result, _ | flag⟩
  · rfl
  · rfl

/-- A look at the keypad depends on a single switch. -/
theorem polled_vary (machine : Machine width height) (wait : KeyWait)
    (agree : (variation.compatibility machine.compatibility).keyOnRelease =
      machine.compatibility.keyOnRelease) :
    (machine.vary variation).polled wait = (machine.polled wait).vary variation := by
  have poll_eq : wait.poll (machine.vary variation).compatibility.keyOnRelease
      (machine.vary variation).keypad =
    wait.poll machine.compatibility.keyOnRelease machine.keypad :=
    congrArg (wait.poll · machine.keypad) agree
  rw [polled, polled, poll_eq]
  cases wait.poll machine.compatibility.keyOnRelease machine.keypad with
  | waiting next => rfl
  | finished key => rfl

theorem advanceIndex_vary (machine : Machine width height) (count : Nat)
    (agree : (variation.compatibility machine.compatibility).indexAdvances =
      machine.compatibility.indexAdvances) :
    (machine.vary variation).advanceIndex count =
      (machine.advanceIndex count).vary variation := by
  have advances_eq : (machine.vary variation).compatibility.indexAdvances =
      machine.compatibility.indexAdvances := agree
  rw [advanceIndex, advanceIndex, advances_eq, apply_ite (vary · variation)]
  rfl

theorem fill_vary {size : Nat} {span : Span size} (spares : variation.Spares span machine.memory)
    (bytes : Vector UInt8 size) :
    (machine.vary variation).fill span bytes = (machine.fill span bytes).vary variation :=
  congrArg (fun memory => { machine.vary variation with memory := memory }) (spares.2 bytes)

theorem setRegistersTo_compatibility (machine : Machine width height) (x : Register)
    (bytes : Vector UInt8 (x.val + 1)) :
    (machine.setRegistersTo x bytes).compatibility = machine.compatibility := by
  rw [setRegistersTo]

theorem setRegistersTo_vary (machine : Machine width height) (x : Register)
    (bytes : Vector UInt8 (x.val + 1)) :
    (machine.vary variation).setRegistersTo x bytes =
      (machine.setRegistersTo x bytes).vary variation := by
  rw [setRegistersTo, setRegistersTo]
  rfl

/-- An instruction that a variation is of no concern to commutes with it. -/
theorem effect_vary {instruction : Instruction}
    (unconcerned : machine.Unconcerned variation instruction) :
    (machine.vary variation).effect instruction =
      (machine.effect instruction).map (·.vary variation) := by
  obtain ⟨switches, random, memory⟩ := unconcerned
  cases instruction with
  | «return» =>
    have calls_eq : (machine.vary variation).calls = machine.calls := rfl
    rw [effect, effect, calls_eq]
    cases machine.calls.top? with
    | none => rfl
    | some caller =>
      simp only [map_within]
      rfl
  | call target =>
    rw [effect, effect, apply_dite (Except.map _)]
    simp only [map_within]
    rfl
  | jump target =>
    rw [effect, effect, map_within]
    rfl
  | arithmetic operation x y =>
    exact congrArg Except.ok (machine.advance.compute_vary switches)
  | jumpOffset base =>
    have offset_eq : (machine.vary variation).register
        (if (machine.vary variation).compatibility.offsetUsesNamed then
          Instruction.offsetRegister base else 0) =
      machine.register (if machine.compatibility.offsetUsesNamed then
        Instruction.offsetRegister base else 0) := by
      by_cases first : Instruction.offsetRegister base = 0
      · rw [first, ite_self, ite_self]
        rfl
      · have agree : (machine.vary variation).compatibility.offsetUsesNamed =
            machine.compatibility.offsetUsesNamed :=
          (Classical.not_not.mp fun differ => switches ⟨first, differ⟩).symm
        rw [agree]
        rfl
    rw [effect, effect, map_within, offset_eq]
    rfl
  | random x mask =>
    obtain ⟨compatibility, source, memory, word, debug, cycles⟩ := variation
    obtain rfl : source = id := random rfl
    rfl
  | draw x y rows =>
    rw [effect, effect, map_within]
    refine within_congr fun span located => ?_
    have bytes_eq : (machine.vary variation).bytes span = machine.bytes span :=
      (memory span located).1
    rw [bytes_eq]
    rfl
  | waitKey x =>
    have agree : (variation.compatibility machine.compatibility).keyOnRelease =
        machine.compatibility.keyOnRelease :=
      (Classical.not_not.mp switches).symm
    exact congrArg Except.ok (machine.polled_vary ⟨x, none⟩ agree)
  | decimal x =>
    rw [effect, effect, map_within]
    refine within_congr fun span located => ?_
    have spares : variation.Spares span machine.advance.memory := memory span located
    exact fill_vary spares _
  | store x =>
    have agree : (variation.compatibility machine.compatibility).indexAdvances =
        machine.compatibility.indexAdvances :=
      (Classical.not_not.mp switches).symm
    rw [effect, effect, map_within]
    refine within_congr fun span located => ?_
    have spares : variation.Spares span machine.advance.memory := memory span located
    rw [← advanceIndex_vary (machine.advance.fill span _) _ agree, ← fill_vary spares]
    rfl
  | load x =>
    have agree : (variation.compatibility machine.compatibility).indexAdvances =
        machine.compatibility.indexAdvances :=
      (Classical.not_not.mp switches).symm
    rw [effect, effect, map_within]
    refine within_congr fun span located => ?_
    have bytes_eq : (machine.vary variation).bytes span = machine.bytes span :=
      (memory span located).1
    rw [← advanceIndex_vary (machine.advance.setRegistersTo x _) _
      (by rw [setRegistersTo_compatibility]; exact agree), bytes_eq]
    exact congrArg (advanceIndex · (x.val + 1))
      (setRegistersTo_vary machine.advance x (machine.bytes span))
  | _ => rfl

/-- An instruction does not count itself. -/
theorem cycles_of_effect {instruction : Instruction} {next : Machine width height}
    (executed : machine.effect instruction = .ok next) : next.cycles = machine.cycles := by
  -- To overwrite the count with the value it has changes nothing, before or after.
  let kept : Variation := { cycles := fun _ => machine.cycles }
  have commutes : (machine.vary kept).effect instruction =
      (machine.effect instruction).map (·.vary kept) :=
    effect_vary ⟨instruction.not_disputed_self machine.compatibility, fun _ => rfl,
      fun span _ => Variation.spares_of_eq_id rfl span machine.memory⟩
  have same : machine.vary kept = machine := rfl
  rw [same, executed] at commutes
  have next_eq : next = next.vary kept := Except.ok.inj commutes
  rw [next_eq]
  rfl

/-! ## Steps -/

section Settings

variable (settings : variation.OfSettings)
include settings

theorem wordAt_vary (machine : Machine width height) (span : Span 2) :
    (machine.vary variation).wordAt span = machine.wordAt span := by
  have memory_eq : (machine.vary variation).memory = machine.memory :=
    congrFun settings.memory machine.memory
  rw [wordAt, wordAt, bytes, bytes, memory_eq]

theorem instructionAt_vary (machine : Machine width height) (span : Span 2) :
    (machine.vary variation).instructionAt span = machine.instructionAt span :=
  congrArg Instruction.decode (wordAt_vary settings machine span)

theorem fetch_vary (machine : Machine width height) (span : Span 2) :
    (machine.vary variation).fetch span = (machine.fetch span).vary variation := by
  have word_eq : (machine.vary variation).wordAt span = variation.word (machine.wordAt span) := by
    rw [wordAt_vary settings, settings.word, id]
  rw [fetch, word_eq]
  rfl

theorem count_vary (machine : Machine width height) :
    { machine.vary variation with cycles := (machine.vary variation).cycles + 1 } =
      { machine with cycles := machine.cycles + 1 }.vary variation := by
  have cycles_eq : (machine.vary variation).cycles + 1 = variation.cycles (machine.cycles + 1) := by
    rw [vary, settings.cycles, id, id]
  rw [cycles_eq]
  rfl

theorem traced_vary (sameSwitch : variation.debug = id) (machine : Machine width height)
    (span : Span 2) : (machine.vary variation).traced span = machine.traced span := by
  have debug_eq : (machine.vary variation).debug = machine.debug :=
    congrFun sameSwitch machine.debug
  rw [traced, traced, debug_eq, wordAt_vary settings]
  rfl

theorem loadProgram_vary (machine : Machine width height) (program : Array UInt8) :
    (machine.vary variation).loadProgram program =
      (machine.loadProgram program).onState (·.vary variation) := by
  have memory_eq (memory : Memory) : variation.memory memory = memory :=
    congrFun settings.memory memory
  rcases Nat.lt_or_ge programRoom program.size with tooLarge | room
  · rw [loadProgram_of_tooLarge _ tooLarge, loadProgram_of_tooLarge _ tooLarge]
    rfl
  · rw [loadProgram_of_room _ room, loadProgram_of_room _ room]
    simp only [EStateM.Result.onState, vary, memory_eq]

/-- What happens to a machine from outside goes along with a variation of its settings. -/
theorem act_vary (machine : Machine width height) {action : Action} (noStep : action ≠ .step) :
    (machine.vary variation).act action = (machine.act action).vary variation := by
  cases action with
  | step => contradiction
  | pass | keys => rfl
  | load program =>
    rw [act, act, loadProgram_vary settings, EStateM.Result.state_onState]
  | reset =>
    have word_eq : variation.word 0 = 0 := congrFun settings.word 0
    have cycles_eq : variation.cycles 0 = 0 := congrFun settings.cycles 0
    simp only [act, reset, vary, word_eq, cycles_eq]

end Settings

/-- Whether a variation of a machine is of no concern to its next step. -/
structure Indifferent (machine : Machine width height) (variation : Variation) : Prop where
  settings : variation.OfSettings
  switches : ∀ instruction, machine.upcoming? = some instruction →
    ¬ instruction.Disputed machine.compatibility (variation.compatibility machine.compatibility)
  random : ∀ instruction, machine.upcoming? = some instruction → instruction.drawsByte →
    variation.random = id
  waits : machine.wait ≠ none →
    (variation.compatibility machine.compatibility).keyOnRelease =
      machine.compatibility.keyOnRelease

/-- A step that a variation is of no concern to commutes with it.  Only the trace may be
turned on or off. -/
theorem step_vary (indifferent : machine.Indifferent variation) :
    ∃ events, (machine.vary variation).step =
        { machine.step with machine := machine.step.machine.vary variation, events := events } ∧
      (variation.debug = id → events = machine.step.events) := by
  obtain ⟨settings, switches, random, waits⟩ := indifferent
  have commutes {span : Span 2} (idle : machine.wait = none)
      (fetched : Span.at? machine.pc 2 = some span) :
      ((machine.vary variation).fetch span).effect ((machine.vary variation).instructionAt span) =
        ((machine.fetch span).effect (machine.instructionAt span)).map (·.vary variation) := by
    have upcoming := upcoming?_of_at?_eq_some idle fetched
    rw [fetch_vary settings, instructionAt_vary settings]
    exact effect_vary ⟨switches _ upcoming, random _ upcoming,
      fun span _ => Variation.spares_of_eq_id settings.memory span machine.memory⟩
  have poll_eq {wait : KeyWait} (pending : machine.wait = some wait) :
      wait.poll (machine.vary variation).compatibility.keyOnRelease
        (machine.vary variation).keypad =
      wait.poll machine.compatibility.keyOnRelease machine.keypad :=
    congrArg (wait.poll · machine.keypad) (waits (by simp [pending]))
  have steps := machine.steps_step
  generalize machine.step = result at steps
  cases steps with
  | waits pending polled =>
    rw [← poll_eq pending] at polled
    exact ⟨[], (machine.vary variation).step_of_waiting pending polled, fun _ => rfl⟩
  | @finishes wait key pending polled =>
    rw [← poll_eq pending] at polled
    refine ⟨[], ?_, fun _ => rfl⟩
    have word_eq : (machine.vary variation).word = machine.word :=
      congrFun settings.word machine.word
    rw [(machine.vary variation).step_of_finished pending polled, word_eq]
    exact congrArg (StepResult.mk · [] _) (count_vary settings
      { machine.setRegister wait.register (UInt8.ofNat key.val) with
        wait := none, pc := machine.pc + 2 })
  | leaves idle outside =>
    exact ⟨[], (machine.vary variation).step_of_outside idle outside, fun _ => rfl⟩
  | @faults span fault idle fetched faulted =>
    have varied := commutes idle fetched
    rw [faulted] at varied
    refine ⟨(machine.vary variation).traced span, ?_, ?_⟩
    · rw [(machine.vary variation).step_of_fault idle fetched varied, fetch_vary settings]
    · exact fun sameSwitch => traced_vary settings sameSwitch machine span
  | @executes span next idle fetched executed =>
    have varied := commutes idle fetched
    rw [executed] at varied
    refine ⟨(machine.vary variation).traced span ++ (machine.instructionAt span).events machine.pc,
      ?_, ?_⟩
    · rw [(machine.vary variation).step_of_effect idle fetched varied,
        instructionAt_vary settings, count_vary settings]
      rfl
    · intro sameSwitch
      rw [traced_vary settings sameSwitch]

end Machine

end ChipEight
