import ChipEight.Proofs.Instruction.Reading
import ChipEight.Proofs.Machine.Memory
import ChipEight.Proofs.Machine.Variation

/-!
# Words with the same text

A trace and a listing show the text of a word, not its bits.  Nothing is lost by that: a
machine does the same with one word at the program counter as with another of the same
text (`Machine.step_of_text_eq`), however its switches are set.

Only the word itself stays what it was, in memory and in the latch.  An instruction that
reads or writes its own word as data is the one exception, since to such an instruction
the bits matter.
-/

namespace ChipEight

/-- Words with the same text hold the same instruction. -/
theorem Word.text_eq_iff {one other : Word} :
    one.text = other.text ↔ Instruction.decode one = Instruction.decode other :=
  Instruction.mnemonic_inj

/-- Other bytes in a span, and another word in the latch. -/
def Variation.overwriting (span : Span 2) (bytes : Vector UInt8 2) (word : Word) : Variation where
  memory memory := span.write memory bytes
  word _ := word

namespace Machine

variable {width height : Nat} {machine : Machine width height} {span : Span 2}

/-- Whether an instruction neither reads nor writes data in a span. -/
def LeavesAlone (machine : Machine width height) (instruction : Instruction) (span : Span 2) :
    Prop :=
  ∀ data, Span.at? machine.index instruction.blockSize = some data → data.Apart span

theorem effect_overwriting {instruction : Instruction}
    (leaves : machine.LeavesAlone instruction span) (bytes : Vector UInt8 2) (word : Word) :
    (machine.vary (.overwriting span bytes word)).effect instruction =
      (machine.effect instruction).map (·.vary (.overwriting span bytes word)) :=
  effect_vary ⟨instruction.not_disputed_self machine.compatibility, fun _ => rfl,
    fun data located =>
      ⟨Span.read_write_of_apart (leaves data located) machine.memory bytes,
        fun stored => Span.write_comm_of_apart (leaves data located) machine.memory stored bytes⟩⟩

/-- A step with another word of the same text does the same, and leaves that word where it
is.  Only a trace would show it. -/
theorem step_fill {bytes : Vector UInt8 2} (idle : machine.wait = none)
    (fetched : Span.at? machine.pc 2 = some span)
    (leaves : machine.LeavesAlone (machine.instructionAt span) span)
    (sameText : ((machine.fill span bytes).wordAt span).text = (machine.wordAt span).text) :
    let word := (machine.fill span bytes).wordAt span
    (machine.fill span bytes).step.outcome = machine.step.outcome ∧
      (machine.fill span bytes).step.machine =
        machine.step.machine.vary (.overwriting span bytes word) ∧
      (machine.debug = false → (machine.fill span bytes).step.events = machine.step.events) := by
  intro word
  have instruction_eq : (machine.fill span bytes).instructionAt span = machine.instructionAt span :=
    Word.text_eq_iff.mp sameText
  have commutes : ((machine.fill span bytes).fetch span).effect
      ((machine.fill span bytes).instructionAt span) =
        ((machine.fetch span).effect (machine.instructionAt span)).map
          (·.vary (.overwriting span bytes word)) := by
    have leavesFetched : (machine.fetch span).LeavesAlone (machine.instructionAt span) span :=
      leaves
    rw [instruction_eq]
    exact effect_overwriting leavesFetched bytes word
  have untraced (silent : machine.debug = false) :
      (machine.fill span bytes).traced span = machine.traced span := by
    have silentOther : (machine.fill span bytes).debug = false := silent
    simp only [traced, silent, silentOther, Bool.false_eq_true, if_false]
  cases executed : (machine.fetch span).effect (machine.instructionAt span) with
  | error fault =>
    rw [executed] at commutes
    rw [machine.step_of_fault idle fetched executed,
      (machine.fill span bytes).step_of_fault idle fetched commutes]
    exact ⟨rfl, rfl, untraced⟩
  | ok next =>
    rw [executed] at commutes
    rw [machine.step_of_effect idle fetched executed,
      (machine.fill span bytes).step_of_effect idle fetched commutes, instruction_eq]
    refine ⟨rfl, rfl, fun silent => ?_⟩
    rw [untraced silent]
    rfl

/-- An instruction that leaves its own word alone finds it unchanged after the step. -/
theorem bytes_step (idle : machine.wait = none) (fetched : Span.at? machine.pc 2 = some span)
    (leaves : machine.LeavesAlone (machine.instructionAt span) span) :
    machine.step.machine.bytes span = machine.bytes span := by
  -- To overwrite the word with itself changes nothing, before or after.
  have same : machine.fill span (machine.bytes span) = machine :=
    congrArg (fun memory => { machine with memory := memory }) (span.write_read machine.memory)
  have sameText : ((machine.fill span (machine.bytes span)).wordAt span).text =
      (machine.wordAt span).text := by rw [same]
  have kept := (step_fill idle fetched leaves sameText).2.1
  rw [same] at kept
  rw [kept]
  exact span.read_write _ _

/-- Two machines without a pending wait that differ at most in the word at the program
counter, of which both words have the same text, do the same in a step: they end with the
same instruction or the same fault, and differ at most in that word and in the latch
afterwards.  The instruction must not read or write that word as data. -/
theorem step_of_text_eq {one other : Machine width height}
    (alike : other = { one with memory := other.memory }) (idle : one.wait = none)
    (fetched : Span.at? one.pc 2 = some span)
    (elsewhere : span.AgreeOutside other.memory one.memory)
    (sameText : (other.wordAt span).text = (one.wordAt span).text)
    (leaves : one.LeavesAlone (one.instructionAt span) span) :
    other.step.outcome = one.step.outcome ∧
      (one.debug = false → other.step.events = one.step.events) ∧
      other.step.machine =
        { one.step.machine with
          memory := other.step.machine.memory, word := other.step.machine.word } ∧
      span.AgreeOutside other.step.machine.memory one.step.machine.memory ∧
      one.step.machine.bytes span = one.bytes span ∧
      other.step.machine.bytes span = other.bytes span := by
  have other_eq : one.fill span (other.bytes span) = other :=
    Eq.trans (congrArg (fun memory => { one with memory := memory })
      (span.write_read_of_agree elsewhere)) alike.symm
  rw [← other_eq] at sameText
  have stepped := step_fill idle fetched leaves sameText
  rw [other_eq] at stepped
  obtain ⟨outcome_eq, machine_eq, events_eq⟩ := stepped
  refine ⟨outcome_eq, events_eq, ?_, ?_, bytes_step idle fetched leaves, ?_⟩
  · rw [machine_eq]
    rfl
  · rw [machine_eq]
    exact span.agreeOutside_write _ _
  · rw [machine_eq]
    exact span.read_write _ _

/-- A machine about to compare two registers; the last digit of the word is ignored. -/
def comparing (low : UInt8) : Machine 64 32 :=
  { powerOn .reference (.cycle #[]) with
    memory := Vector.ofFn fun place =>
      if place.val = programStart then 0x51
      else if place.val = programStart + 1 then low
      else 0 }

theorem wordAt_comparing (low : UInt8) :
    (comparing low).wordAt ⟨programStart, by decide⟩ = .ofBytes 0x51 low := by
  simp [comparing, wordAt, bytes, Span.read, Span.place]

/-- The step is the same whatever the last digit is. -/
theorem comparing_steps :
    (comparing 0x2F).wordAt ⟨programStart, by decide⟩ ≠
        (comparing 0x20).wordAt ⟨programStart, by decide⟩ ∧
      (comparing 0x2F).step.outcome = (comparing 0x20).step.outcome := by
  have fetched : Span.at? (comparing 0x20).pc 2 = some ⟨programStart, by decide⟩ :=
    Span.at?_eq_some_iff.mpr rfl
  have decoded : (comparing 0x20).instructionAt ⟨programStart, by decide⟩ = .skipIfEqual 1 2 := by
    rw [instructionAt, wordAt_comparing]
    decide
  constructor
  · rw [wordAt_comparing, wordAt_comparing]
    decide
  · refine (step_of_text_eq rfl rfl fetched ?_ ?_ ?_).1
    · intro place outside
      have notLow : place.val ≠ programStart + 1 := fun same => outside 1 (Fin.ext same.symm)
      change (comparing 0x2F).memory[place] = (comparing 0x20).memory[place]
      simp [comparing, notLow]
    · rw [wordAt_comparing, wordAt_comparing]
      decide
    · rw [decoded]
      intro data _ mine
      exact mine.elim0

end Machine

end ChipEight
