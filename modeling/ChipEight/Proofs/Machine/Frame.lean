import ChipEight.Proofs.Machine.Effect

/-!
# What an instruction leaves alone

An instruction that clears, draws, calls, returns or asks for a key is one of a
kind.  All others move data: none of them touches the screen, the call stack or a
wait.  `Machine.effects` tells these cases apart once, so that an invariant need
not go through the instructions again.

The host owns the keys, the compatibility and the trace switch; no instruction
changes them.
-/

namespace ChipEight

/-- Whether an instruction only moves data and the program counter. -/
def Instruction.movesData : Instruction → Bool
  | .clear | .return | .call _ | .draw .. | .waitKey _ => false
  | _ => true

namespace Machine

variable {width height : Nat} {machine next : Machine width height}

/-! ## Checks -/

section Checks

variable {address : Int} {size : Nat} {change : Span size → Machine width height}

theorem within_eq_ok_iff :
    within address size change = .ok next ↔
      ∃ span, Span.at? address size = some span ∧ change span = next := by
  rw [within]
  cases Span.at? address size with
  | none => simp
  | some span => simp

theorem within_eq_error_iff {fault : Fault} :
    within address size change = .error fault ↔
      ¬ inMemory address size ∧ fault = .memory address size := by
  rw [within, ← Span.at?_eq_none_iff]
  cases Span.at? address size with
  | none => simp [eq_comm]
  | some span => simp

end Checks

/-! ## The pending calls -/

@[simp]
theorem length_stack (machine : Machine width height) :
    machine.stack.length = machine.calls.depth :=
  machine.calls.length_live

theorem top?_calls (machine : Machine width height) :
    machine.calls.top? = machine.stack.head? :=
  machine.calls.top?_eq_head?

/-- A return takes off the innermost pending call. -/
theorem stack_of_top? {caller : Int} (top : machine.calls.top? = some caller) :
    machine.stack = caller :: machine.calls.pop.live :=
  CallStack.live_of_top? top

/-- Whether a machine is in a condition that a fault names. -/
def Suffers (machine : Machine width height) : Fault → Prop
  | .memory address size => ¬ inMemory address size
  | .stackOverflow => stackDepth ≤ machine.stack.length
  | .stackUnderflow => machine.stack = []

/-- An instruction faults for a cause that is there. -/
theorem suffers_of_effect {instruction : Instruction} {fault : Fault}
    (faulted : machine.effect instruction = .error fault) : machine.Suffers fault := by
  cases instruction <;> simp only [effect, within_eq_error_iff, reduceCtorEq] at faulted
  case «return» =>
    cases top : machine.calls.top? with
    | none =>
      rw [top] at faulted
      cases faulted
      exact CallStack.top?_eq_none_iff.mp top
    | some caller =>
      rw [top] at faulted
      rcases within_eq_error_iff.mp faulted with ⟨outside, rfl⟩
      exact outside
  case call target =>
    by_cases room : machine.calls.depth < stackDepth
    · rw [dif_pos room] at faulted
      rcases within_eq_error_iff.mp faulted with ⟨outside, rfl⟩
      exact outside
    · rw [dif_neg room] at faulted
      cases faulted
      rw [Suffers, length_stack]
      exact Nat.not_lt.mp room
  all_goals
    rcases faulted with ⟨outside, rfl⟩
    exact outside

/-! ## Effects -/

/-- The parts of a machine that moving data leaves alone. -/
structure Keeps (machine next : Machine width height) : Prop where
  compatibility : next.compatibility = machine.compatibility
  calls : next.calls = machine.calls
  word : next.word = machine.word
  screen : next.screen = machine.screen
  keypad : next.keypad = machine.keypad
  wait : next.wait = machine.wait

theorem Keeps.stack (keeps : machine.Keeps next) : next.stack = machine.stack :=
  congrArg CallStack.live keeps.calls

/-- What an instruction can do. -/
inductive Effects (machine : Machine width height) : Instruction → Machine width height → Prop where
  | clears : Effects machine .clear { machine.advance with screen := .blank }
  | returns {caller : Int} (pushed : machine.calls.top? = some caller)
      (inside : inMemory (caller + 2) 2) :
      Effects machine .return { machine with pc := caller + 2, calls := machine.calls.pop }
  | calls {target : Address} (room : machine.calls.depth < stackDepth)
      (inside : inMemory target.val 2) :
      Effects machine (.call target)
        { machine with pc := target.val, calls := machine.calls.push room machine.pc }
  | draws {x y : Register} {rows : Fin 16} {span : Span rows.val}
      (located : Span.at? machine.index rows.val = some span) :
      Effects machine (.draw x y rows)
        ({ machine.advance with
            screen := machine.screen.draw (machine.register x).toNat (machine.register y).toNat
              (machine.bytes span).toList }.setFlag
          (machine.screen.collides (machine.register x).toNat (machine.register y).toNat
            (machine.bytes span).toList).toUInt8)
  | asks {x : Register} : Effects machine (.waitKey x) (machine.polled ⟨x, none⟩)
  | moves {instruction : Instruction} {next : Machine width height}
      (movesData : instruction.movesData) (keeps : machine.Keeps next)
      (pc : next.pc = machine.pc + 2 ∨ next.pc = machine.pc + 4 ∨ inMemory next.pc 2)
      (index : next.index = machine.index ∨ 0 ≤ next.index ∧ next.index < 65536) :
      Effects machine instruction next

theorem advanceIndex_eq (machine : Machine width height) (count : Nat) :
    ∃ index, machine.advanceIndex count = { machine with index := index } ∧
      (index = machine.index ∨ 0 ≤ index ∧ index < 65536) := by
  rw [advanceIndex]
  split
  · exact ⟨_, rfl, .inr ⟨Int.emod_nonneg _ (by decide), Int.emod_lt_of_pos _ (by decide)⟩⟩
  · exact ⟨_, rfl, .inl rfl⟩

theorem compute_eq (machine : Machine width height) (operation : Arithmetic) (x y : Register) :
    ∃ registers, machine.compute operation x y = { machine with registers := registers } := by
  rw [compute]
  rcases operation.apply machine.compatibility.shiftUsesSecond (machine.register x)
    (machine.register y) with ⟨result, _ | flag⟩
  · exact ⟨_, rfl⟩
  · exact ⟨_, rfl⟩

theorem skipIf_effects (machine : Machine width height) (condition : Bool)
    {instruction : Instruction} (movesData : instruction.movesData) :
    machine.Effects instruction (machine.skipIf condition) := by
  refine .moves movesData ⟨rfl, rfl, rfl, rfl, rfl, rfl⟩ ?_ (.inl rfl)
  cases condition with
  | false => exact .inl rfl
  | true => exact .inr (.inl rfl)

/-- An instruction that does not fault does one of these things. -/
theorem effects {instruction : Instruction} (executed : machine.effect instruction = .ok next) :
    machine.Effects instruction next := by
  cases instruction <;>
    simp only [effect, setRegistersTo, within_eq_ok_iff, Except.ok.injEq] at executed
  case clear =>
    subst executed
    exact .clears
  case «return» =>
    cases top : machine.calls.top? with
    | none => simp only [top, reduceCtorEq] at executed
    | some caller =>
      simp only [top, within_eq_ok_iff] at executed
      rcases executed with ⟨span, located, rfl⟩
      exact .returns top (Span.inMemory_of_at?_eq_some located)
  case call target =>
    split at executed
    · rename_i room
      rcases within_eq_ok_iff.mp executed with ⟨span, located, rfl⟩
      exact .calls room (Span.inMemory_of_at?_eq_some located)
    · contradiction
  case draw x y rows =>
    rcases executed with ⟨span, located, rfl⟩
    exact .draws located
  case waitKey x =>
    subst executed
    exact .asks
  case skipIfByte | skipUnlessByte | skipIfEqual | skipUnlessEqual | skipIfKey | skipUnlessKey =>
    subst executed
    exact machine.skipIf_effects _ rfl
  case jump | jumpOffset =>
    rcases executed with ⟨span, located, rfl⟩
    exact .moves rfl ⟨rfl, rfl, rfl, rfl, rfl, rfl⟩
      (.inr (.inr (Span.inMemory_of_at?_eq_some located))) (.inl rfl)
  case arithmetic operation x y =>
    subst executed
    rcases machine.advance.compute_eq operation x y with ⟨registers, computed⟩
    rw [computed]
    exact .moves rfl ⟨rfl, rfl, rfl, rfl, rfl, rfl⟩ (.inl rfl) (.inl rfl)
  case store x | load x =>
    rcases executed with ⟨span, located, rfl⟩
    obtain ⟨index, moved, bounds⟩ := advanceIndex_eq _ (x.val + 1)
    rw [moved]
    exact .moves rfl ⟨rfl, rfl, rfl, rfl, rfl, rfl⟩ (.inl rfl) bounds
  case decimal =>
    rcases executed with ⟨span, located, rfl⟩
    exact .moves rfl ⟨rfl, rfl, rfl, rfl, rfl, rfl⟩ (.inl rfl) (.inl rfl)
  case setIndex target =>
    subst executed
    have := target.isLt
    exact .moves rfl ⟨rfl, rfl, rfl, rfl, rfl, rfl⟩ (.inl rfl) (.inr (by simp only; omega))
  case addIndex x =>
    subst executed
    exact .moves rfl ⟨rfl, rfl, rfl, rfl, rfl, rfl⟩ (.inl rfl)
      (.inr ⟨Int.emod_nonneg _ (by decide), Int.emod_lt_of_pos _ (by decide)⟩)
  case glyph x =>
    subst executed
    have := (machine.register x).toNat_lt
    exact .moves rfl ⟨rfl, rfl, rfl, rfl, rfl, rfl⟩ (.inl rfl)
      (.inr (by simp only [glyphBytes]; omega))
  all_goals
    subst executed
    exact .moves rfl ⟨rfl, rfl, rfl, rfl, rfl, rfl⟩ (.inl rfl) (.inl rfl)

end Machine

end ChipEight
