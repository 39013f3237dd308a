import ChipEight.Proofs.Machine.Footprint

/-!
# What instructions compute

The two-register operations that set the flag lose nothing: the result and the flag together
determine a sum, a difference or the value shifted, as integers (`Arithmetic.Balances`).
The flag is computed from the values before the instruction and stored last, so that it
stands in the flag register even where that is an operand, or the destination.

The laws hold of bytes first (`Arithmetic.apply_balances`), then of registers, which may
coincide in any way, and finally of steps (`Machine.arithmetic_laws`).
-/

namespace ChipEight

/-! ## Bytes -/

namespace Arithmetic

/-- Whether an operation on two bytes raises the flag.  A shift is applied to `source`. -/
def raises (operation : Arithmetic) (a b source : UInt8) : Bool :=
  match operation with
  | .copy | .or | .and | .xor => false
  | .add => decide (255 < a.toNat + b.toNat)
  | .sub => decide (b.toNat ≤ a.toNat)
  | .shiftRight => decide (source.toNat % 2 = 1)
  | .subReverse => decide (a.toNat ≤ b.toNat)
  | .shiftLeft => decide (128 ≤ source.toNat)

/-- How the result of an operation that sets the flag, and the flag, make up for the
operands. -/
def Balances (operation : Arithmetic) (a b source result flag : Int) : Prop :=
  match operation with
  | .copy | .or | .and | .xor => False
  | .add => 256 * flag + result = a + b
  | .sub => result = a - b + 256 * (1 - flag)
  | .shiftRight => 2 * result + flag = source
  | .subReverse => result = b - a + 256 * (1 - flag)
  | .shiftLeft => 256 * flag + result = 2 * source

/-- What an operation that sets no flag makes of two bytes. -/
def combine? : Arithmetic → Option (UInt8 → UInt8 → UInt8)
  | .copy => some fun _ b => b
  | .or => some (· ||| ·)
  | .and => some (· &&& ·)
  | .xor => some (· ^^^ ·)
  | .add | .sub | .shiftRight | .subReverse | .shiftLeft => none

theorem sub_balances (a b : UInt8) :
    ((a - b).toNat : Int) =
      a.toNat - b.toNat + 256 * (1 - if b.toNat ≤ a.toNat then 1 else 0) := by
  have := a.toNat_lt
  have := b.toNat_lt
  rw [UInt8.toNat_sub]
  split <;> omega

/-- The flag of a difference is down where it borrows. -/
theorem borrow_eq (a b : UInt8) :
    (if b > a then 0 else 1 : UInt8) = if b.toNat ≤ a.toNat then 1 else 0 := by
  by_cases borrows : b > a
  · have below := UInt8.lt_iff_toNat_lt.mp borrows
    rw [if_pos borrows, if_neg (Nat.not_le.mpr below)]
  · have above := UInt8.not_lt.mp borrows
    rw [if_neg borrows, if_pos (UInt8.le_iff_toNat_le.mp above)]

theorem toNat_flag (raised : Bool) :
    ((if raised then 1 else 0 : UInt8).toNat : Int) = if raised then 1 else 0 := by
  cases raised with
  | false => rfl
  | true => rfl

variable {operation : Arithmetic}

theorem apply_of_combine? {combine : UInt8 → UInt8 → UInt8}
    (combines : operation.combine? = some combine) (second : Bool) (a b : UInt8) :
    operation.apply second a b = (combine a b, none) := by
  cases operation with
  | copy | or | and | xor =>
    obtain rfl := Option.some.inj combines
    rfl
  | add | sub | shiftRight | subReverse | shiftLeft => contradiction

/-- An operation that sets the flag, on bytes. -/
theorem apply_balances (sets : operation.setsFlag) (second : Bool) {a b source : UInt8}
    (shifted : (if second then b else a) = source) :
    ∃ result, operation.apply second a b =
        (result, some (if operation.raises a b source then 1 else 0)) ∧
      operation.Balances a.toNat b.toNat source.toNat result.toNat
        (if operation.raises a b source then 1 else 0) := by
  have := a.toNat_lt
  have := b.toNat_lt
  have := source.toNat_lt
  cases operation with
  | copy | or | and | xor => contradiction
  | add =>
    refine ⟨a + b, ?_, ?_⟩
    · simp only [apply, raises, decide_eq_true_eq, gt_iff_lt]
    · simp only [Balances, raises, decide_eq_true_eq, UInt8.toNat_add]
      split <;> omega
  | sub =>
    refine ⟨a - b, ?_, ?_⟩
    · simp only [apply, raises, decide_eq_true_eq, borrow_eq]
    · simp only [Balances, raises, decide_eq_true_eq, sub_balances]
  | subReverse =>
    refine ⟨b - a, ?_, ?_⟩
    · simp only [apply, raises, decide_eq_true_eq, borrow_eq]
    · simp only [Balances, raises, decide_eq_true_eq, sub_balances]
  | shiftRight =>
    have flag_eq : source &&& 1 = if source.toNat % 2 = 1 then 1 else 0 := by
      rw [← UInt8.toNat_inj, UInt8.toNat_and, UInt8.toNat_one, Nat.and_one_is_mod]
      split
      · assumption
      · exact Nat.mod_two_ne_one.mp ‹_›
    refine ⟨source >>> 1, ?_, ?_⟩
    · simp only [apply, raises, decide_eq_true_eq, shifted, flag_eq]
    · have half : (source >>> 1).toNat = source.toNat / 2 := by
        rw [UInt8.toNat_shiftRight, Nat.shiftRight_eq_div_pow]
        rfl
      simp only [Balances, raises, decide_eq_true_eq, half]
      split <;> omega
  | shiftLeft =>
    have flag_eq : source >>> 7 = if 128 ≤ source.toNat then 1 else 0 := by
      have top : (source >>> 7).toNat = source.toNat / 128 := by
        rw [UInt8.toNat_shiftRight, Nat.shiftRight_eq_div_pow]
        rfl
      rw [← UInt8.toNat_inj, top]
      split
      · rw [UInt8.toNat_one]
        omega
      · rw [UInt8.toNat_zero]
        omega
    refine ⟨source <<< 1, ?_, ?_⟩
    · simp only [apply, raises, decide_eq_true_eq, shifted, flag_eq]
    · have double : (source <<< 1).toNat = source.toNat * 2 % 256 := by
        rw [UInt8.toNat_shiftLeft, Nat.shiftLeft_eq]
        rfl
      simp only [Balances, raises, decide_eq_true_eq, double]
      split <;> omega

end Arithmetic

/-! ## Registers -/

namespace Machine

variable {width height : Nat}

@[simp]
theorem register_setRegister_self (machine : Machine width height) (x : Register)
    (value : UInt8) : (machine.setRegister x value).register x = value :=
  Vector.getElem_set_self x.isLt

theorem register_setFlag_of_ne (machine : Machine width height) {x : Register} (value : UInt8)
    (distinct : x ≠ .flag) : (machine.setFlag value).register x = machine.register x :=
  register_setRegister_of_ne machine value distinct

variable {machine : Machine width height} {operation : Arithmetic} {x y : Register}
  {a b source : UInt8}

theorem compute_of_combine? {combine : UInt8 → UInt8 → UInt8}
    (combines : operation.combine? = some combine) (first : machine.register x = a)
    (second : machine.register y = b) :
    machine.compute operation x y = machine.setRegister x (combine a b) := by
  rw [compute, first, second, Arithmetic.apply_of_combine? combines]

theorem compute_of_setsFlag (sets : operation.setsFlag) (first : machine.register x = a)
    (second : machine.register y = b)
    (shifted : (if machine.compatibility.shiftUsesSecond then b else a) = source) :
    ∃ result, machine.compute operation x y =
        (machine.setRegister x result).setFlag (if operation.raises a b source then 1 else 0) ∧
      operation.Balances a.toNat b.toNat source.toNat result.toNat
        (if operation.raises a b source then 1 else 0) := by
  obtain ⟨result, applied, balances⟩ := Arithmetic.apply_balances sets _ shifted
  refine ⟨result, ?_, balances⟩
  rw [compute, first, second, applied]

/-! ## Steps -/

/-- An operation that sets the flag, in a step. -/
theorem Reads.step_of_setsFlag (reads : machine.Reads (.arithmetic operation x y))
    (idle : machine.wait = none) (sets : operation.setsFlag) (first : machine.register x = a)
    (second : machine.register y = b)
    (shifted : (if machine.compatibility.shiftUsesSecond then b else a) = source) :
    machine.step.outcome = .ok (some (.arithmetic operation x y)) ∧
      machine.step.machine.register .flag = (if operation.raises a b source then 1 else 0) ∧
      (x ≠ .flag →
        operation.Balances a.toNat b.toNat source.toNat
          (machine.step.machine.register x).toNat (machine.step.machine.register .flag).toNat) := by
  obtain ⟨completed, span, machine_eq⟩ := reads.step_of_total idle fun _ => rfl
  obtain ⟨result, computed, balances⟩ :=
    (machine.fetch span).advance.compute_of_setsFlag sets first second shifted
  have flag_eq : machine.step.machine.register .flag =
      if operation.raises a b source then 1 else 0 := by
    rw [machine_eq, computed]
    exact register_setRegister_self _ _ _
  refine ⟨completed, flag_eq, fun distinct => ?_⟩
  have result_eq : machine.step.machine.register x = result := by
    rw [machine_eq, computed]
    exact (register_setFlag_of_ne _ _ distinct).trans (register_setRegister_self _ _ _)
  rw [flag_eq, result_eq, Arithmetic.toNat_flag]
  exact balances

/-- An operation that sets no flag, in a step. -/
theorem Reads.step_of_combine? (reads : machine.Reads (.arithmetic operation x y))
    (idle : machine.wait = none) {combine : UInt8 → UInt8 → UInt8}
    (combines : operation.combine? = some combine) (first : machine.register x = a)
    (second : machine.register y = b) :
    machine.step.outcome = .ok (some (.arithmetic operation x y)) ∧
      machine.step.machine.register x = combine a b ∧
      (x ≠ .flag → machine.step.machine.register .flag = machine.register .flag) := by
  obtain ⟨completed, span, machine_eq⟩ := reads.step_of_total idle fun _ => rfl
  have computed := (machine.fetch span).advance.compute_of_combine? combines first second
  rw [machine_eq, computed]
  exact ⟨completed, register_setRegister_self _ _ _,
    fun distinct => register_setRegister_of_ne _ _ distinct.symm⟩

/-- What is added to the index counts in full for the flag, before the index wraps. -/
theorem Reads.step_of_addIndex (reads : machine.Reads (.addIndex x)) (idle : machine.wait = none)
    (first : machine.register x = a) :
    machine.step.outcome = .ok (some (.addIndex x)) ∧
      machine.step.machine.index = (machine.index + a.toNat) % 65536 ∧
      machine.step.machine.register .flag = if 0xFFF < machine.index + a.toNat then 1 else 0 := by
  obtain ⟨completed, span, machine_eq⟩ := reads.step_of_total idle fun _ => rfl
  rw [machine_eq, ← first]
  exact ⟨completed, rfl, register_setRegister_self _ _ _⟩

/-- A byte is added without a carry. -/
theorem Reads.step_of_addByte {byte : UInt8} (reads : machine.Reads (.addByte x byte))
    (idle : machine.wait = none) (first : machine.register x = a) :
    machine.step.outcome = .ok (some (.addByte x byte)) ∧
      (machine.step.machine.register x).toNat = (a.toNat + byte.toNat) % 256 ∧
      (x ≠ .flag → machine.step.machine.register .flag = machine.register .flag) := by
  obtain ⟨completed, span, machine_eq⟩ := reads.step_of_total idle fun _ => rfl
  rw [machine_eq]
  refine ⟨completed, ?_, fun distinct => register_setRegister_of_ne _ _ distinct.symm⟩
  rw [← UInt8.toNat_add, ← first]
  exact congrArg UInt8.toNat (register_setRegister_self _ _ _)

/-- What a machine computes that is about to carry out one of the instructions of
arithmetic, for any two registers: they may be the same one, and either may be the flag
register.

An operation that sets the flag sets it by the values before the step, and makes it and the
result balance these values, unless the flag has taken the place of the result.  The others
and the addition of a byte touch the flag register only as their destination. -/
theorem arithmetic_laws (idle : machine.wait = none) (first : machine.register x = a)
    (second : machine.register y = b)
    (shifted : (if machine.compatibility.shiftUsesSecond then b else a) = source) :
    (∀ operation : Arithmetic, operation.setsFlag →
      machine.Reads (.arithmetic operation x y) →
        machine.step.outcome = .ok (some (.arithmetic operation x y)) ∧
        machine.step.machine.register .flag =
          (if operation.raises a b source then 1 else 0) ∧
        (x ≠ .flag →
          operation.Balances a.toNat b.toNat source.toNat
            (machine.step.machine.register x).toNat
            (machine.step.machine.register .flag).toNat)) ∧
    (∀ (operation : Arithmetic) combine, operation.combine? = some combine →
      machine.Reads (.arithmetic operation x y) →
        machine.step.outcome = .ok (some (.arithmetic operation x y)) ∧
        machine.step.machine.register x = combine a b ∧
        (x ≠ .flag → machine.step.machine.register .flag = machine.register .flag)) ∧
    (machine.Reads (.addIndex x) →
      machine.step.outcome = .ok (some (.addIndex x)) ∧
      machine.step.machine.index = (machine.index + a.toNat) % 65536 ∧
      machine.step.machine.register .flag = if 0xFFF < machine.index + a.toNat then 1 else 0) ∧
    ∀ byte, machine.Reads (.addByte x byte) →
      machine.step.outcome = .ok (some (.addByte x byte)) ∧
      (machine.step.machine.register x).toNat = (a.toNat + byte.toNat) % 256 ∧
      (x ≠ .flag → machine.step.machine.register .flag = machine.register .flag) :=
  ⟨fun _ sets reads => reads.step_of_setsFlag idle sets first second shifted,
    fun _ _ combines reads => reads.step_of_combine? idle combines first second,
    fun reads => reads.step_of_addIndex idle first,
    fun _ reads => reads.step_of_addByte idle first⟩

/-- A machine about to add the flag register to itself. -/
def doublingFlag : Machine 64 32 :=
  { powerOn .cosmac (.cycle #[]) with registers := Vector.replicate 16 200 }.act
    (.load #[0x8F, 0xF4])

theorem doublingFlag_reads : doublingFlag.Reads (.arithmetic .add .flag .flag) :=
  reads_load _ (by decide) rfl rfl (by decide)

/-- The carry takes the place of the sum. -/
theorem doublingFlag_carries :
    doublingFlag.wait = none ∧ doublingFlag.register .flag = 200 ∧
      doublingFlag.step.outcome = .ok (some (.arithmetic .add .flag .flag)) ∧
      doublingFlag.step.machine.register .flag = 1 := by
  have idle : doublingFlag.wait = none := rfl
  have operand : doublingFlag.register .flag = 200 := rfl
  obtain ⟨flagged, -⟩ := arithmetic_laws idle operand operand (ite_self 200)
  obtain ⟨completed, flag_eq, -⟩ := flagged .add rfl doublingFlag_reads
  exact ⟨idle, operand, completed, flag_eq⟩

end Machine

end ChipEight
