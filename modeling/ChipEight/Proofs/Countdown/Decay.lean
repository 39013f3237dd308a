import ChipEight.Proofs.Countdown.Draining
import Mathlib.Algebra.Order.Floor.Semiring
import Mathlib.Data.Rat.Floor
import Mathlib.Tactic.Linarith
import Mathlib.Tactic.NormNum

/-!
# The decay of a countdown

Where time is measured exactly, what a countdown loses depends on the total of the time that
has passed, and not on the pieces it has passed in: one for every whole period of the total,
until the value is used up.  Every decrement may come early by the tolerance, and what is then
missing from its period is never asked for; so the total is in effect longer, by no more than
one tolerance for each decrement (`Countdown.Stands.not_early`).
-/

namespace ChipEight.Countdown

open Elapsed (tolerance)

variable {timer rest : Countdown Rat} {count : Nat} {value : UInt8} {total elapsed : Rat}

/-! ## Turns of exact time -/

theorem due_iff {phase : Rat} : Elapsed.due phase = true ↔ 1 / 60 - tolerance ≤ phase :=
  decide_eq_true_iff

theorem negative_iff {phase : Rat} : Elapsed.negative phase = true ↔ phase < 0 :=
  decide_eq_true_iff

/-- Each turn takes a sixtieth of a second. -/
theorem Turns.phase_eq (turns : Turns count timer rest) :
    rest.phase + count / 60 = timer.phase := by
  induction turns with
  | none timer => simp
  | @more count timer next rest turned later ih =>
    rcases turn?_eq_some_iff.mp turned with ⟨-, -, rfl⟩
    have taken : rest.phase + count / 60 = timer.phase - 1 / 60 := ih
    push_cast
    linarith

/-- The last turn is taken early by no more than the tolerance. -/
theorem Turns.not_early (turns : Turns count timer rest) (turned : 0 < count) :
    -tolerance ≤ rest.phase := by
  induction turns with
  | none timer => contradiction
  | @more count timer next rest turn later ih =>
    cases later with
    | none =>
      rcases turn?_eq_some_iff.mp turn with ⟨-, due, rfl⟩
      have complete := due_iff.mp due
      change -tolerance ≤ timer.phase - 1 / 60
      linarith
    | more => exact ih (Nat.succ_pos _)

/-! ## Settling -/

/-- Settling keeps the gathered time or makes it zero, the latter when nothing is left to count
or when time is owed. -/
theorem settle_phase_cases (timer : Countdown Rat) :
    (timer.settle.phase = timer.phase ∧ timer.value ≠ 0 ∧ 0 ≤ timer.phase) ∨
      (timer.settle.phase = 0 ∧ (timer.value = 0 ∨ timer.phase < 0)) := by
  by_cases zero : timer.value = 0 ∨ Elapsed.negative timer.phase
  · right
    rw [negative_iff] at zero
    exact ⟨if_pos (by rwa [negative_iff]), zero⟩
  · left
    have kept : timer.settle.phase = timer.phase := if_neg zero
    rw [negative_iff, not_or, not_lt] at zero
    exact ⟨kept, zero⟩

/-- Less than a period stays gathered where no turn is left. -/
theorem settle_phase_lt (stopped : rest.turn? = none) : rest.settle.phase < 1 / 60 := by
  rcases settle_phase_cases rest with ⟨kept, counting, -⟩ | ⟨cleared, -⟩
  · have incomplete := turn?_eq_none_iff.mp stopped counting
    rw [← Bool.not_eq_true, due_iff, not_le] at incomplete
    rw [kept]
    calc rest.phase < 1 / 60 - tolerance := incomplete
      _ < 1 / 60 := by norm_num [tolerance]
  · rw [cleared]
    norm_num

theorem settle_phase_nonneg (timer : Countdown Rat) : 0 ≤ timer.settle.phase := by
  rcases settle_phase_cases timer with ⟨kept, -, nonneg⟩ | ⟨cleared, -⟩
  · rw [kept]
    exact nonneg
  · exact cleared.ge

theorem le_settle_phase (counting : timer.value ≠ 0) : timer.phase ≤ timer.settle.phase := by
  rcases settle_phase_cases timer with ⟨kept, -⟩ | ⟨cleared, spent | owed⟩
  · exact kept.ge
  · contradiction
  · rw [cleared]
    exact owed.le

/-- Settling adds no more time than the turns before it came early. -/
theorem settle_phase_le (turns : Turns count timer rest) (nonneg : 0 ≤ timer.phase) :
    rest.settle.phase ≤ rest.phase + count * tolerance := by
  have early : 0 ≤ rest.phase + count * tolerance := by
    rcases Nat.eq_zero_or_pos count with zero | turned
    · have unturned := turns.phase_eq
      rw [zero] at unturned ⊢
      push_cast at unturned ⊢
      linarith
    · have owed := turns.not_early turned
      have one_le : (1 : Rat) ≤ count := by exact_mod_cast turned
      have most : tolerance ≤ count * tolerance :=
        le_mul_of_one_le_left (by norm_num [tolerance]) one_le
      linarith
  rcases settle_phase_cases rest with ⟨kept, -⟩ | ⟨cleared, -⟩
  · have positive : 0 ≤ count * tolerance :=
      mul_nonneg (Nat.cast_nonneg count) (by norm_num [tolerance])
    rw [kept]
    linarith
  · rw [cleared]
    exact early

/-! ## Time in pieces -/

/-- Where a countdown stands that was started from a value with no time gathered, when an
amount of time has passed and a number of decrements have been counted. -/
structure Stands (value : UInt8) (total : Rat) (count : Nat) (timer : Countdown Rat) : Prop where
  /-- What has been counted is what the value has lost. -/
  balance : count + timer.value.toNat = value.toNat
  /-- No time is owed. -/
  nonneg : 0 ≤ timer.phase
  /-- Less than a period is gathered. -/
  lt_period : timer.phase < 1 / 60
  /-- No decrement has come earlier than the tolerance allows. -/
  not_early : timer.phase + count / 60 ≤ total + count * tolerance
  /-- No time is lost while there is something to count. -/
  not_late : timer.value ≠ 0 → total ≤ timer.phase + count / 60

theorem stands_load (value : UInt8) : Stands value 0 0 (zero.load value) where
  balance := Nat.zero_add _
  nonneg := le_refl 0
  lt_period := by norm_num [zero, load]
  not_early := by norm_num [zero, load]
  not_late := by norm_num [zero, load]

/-- A countdown stands where it should after one more piece of time. -/
theorem Stands.advance (stands : Stands value total count timer) (nonneg : 0 ≤ elapsed) :
    Stands value (total + elapsed) (count + (timer.advance elapsed).2)
      (timer.advance elapsed).1 := by
  by_cases spent : timer.value = 0
  · simp only [advance_of_spent spent, Nat.add_zero]
    exact { stands with
      not_early := by linarith [stands.not_early]
      not_late := absurd spent }
  · rcases exists_turns_of_advance spent elapsed with ⟨rest, turns, stopped, settled⟩
    rw [settled]
    generalize (timer.advance elapsed).2 = further at turns ⊢
    have gathered : (timer.gather elapsed).phase = timer.phase + elapsed := rfl
    have taken := turns.phase_eq
    have added := settle_phase_le turns (by linarith [stands.nonneg])
    have lost := turns.balance
    exact {
      balance := by
        have balance := stands.balance
        simp only [gather, settle] at lost ⊢
        omega
      nonneg := settle_phase_nonneg rest
      lt_period := settle_phase_lt stopped
      not_early := by
        push_cast
        linarith [stands.not_early]
      not_late := by
        intro counting
        have kept : rest.phase ≤ rest.settle.phase := le_settle_phase counting
        push_cast
        linarith [stands.not_late spent] }

/-- Let time pass piece by piece.  The result counts all decrements. -/
def advanceAll {α : Type} [Elapsed α] (timer : Countdown α) : List α → Countdown α × Nat
  | [] => (timer, 0)
  | elapsed :: later =>
    let (next, count) := timer.advance elapsed
    let (last, counts) := next.advanceAll later
    (last, count + counts)

/-- The total of pieces of time. -/
def totalTime {α : Type} [Elapsed α] (pieces : List α) : α :=
  pieces.sum

theorem totalTime_nil : totalTime ([] : List Rat) = 0 :=
  rfl

theorem totalTime_cons (elapsed : Rat) (later : List Rat) :
    totalTime (elapsed :: later) = elapsed + totalTime later :=
  rfl

theorem Stands.advanceAll (stands : Stands value total count timer) {pieces : List Rat}
    (nonneg : ∀ piece ∈ pieces, 0 ≤ piece) :
    Stands value (total + totalTime pieces) (count + (timer.advanceAll pieces).2)
      (timer.advanceAll pieces).1 := by
  induction pieces generalizing timer total count with
  | nil =>
    rw [totalTime_nil, add_zero]
    exact stands
  | cons elapsed later ih =>
    rcases List.forall_mem_cons.mp nonneg with ⟨first, others⟩
    have stood := ih (stands.advance first) others
    rw [add_assoc, add_assoc] at stood
    rw [totalTime_cons]
    exact stood

/-- Every whole period of the total has been counted, or the value is used up. -/
theorem Stands.floor_le (stands : Stands value total count timer) :
    min value.toNat ⌊60 * total⌋₊ ≤ count := by
  by_cases spent : timer.value = 0
  · have balance := stands.balance
    rw [spent] at balance
    exact (min_le_left _ _).trans balance.ge
  · apply (min_le_right _ _).trans
    apply Nat.le_of_lt_succ
    rw [Nat.floor_lt' (Nat.succ_ne_zero count)]
    push_cast
    linarith [stands.not_late spent, stands.lt_period]

/-- No more has been counted than whole periods of the total, each made shorter by the
tolerance. -/
theorem Stands.le_floor (stands : Stands value total count timer) :
    count ≤ min value.toNat ⌊60 * (total + value.toNat * tolerance)⌋₊ := by
  have balance := stands.balance
  apply le_min (by omega)
  apply Nat.le_floor
  have at_most : (count : Rat) ≤ value.toNat := by exact_mod_cast (by omega)
  have early : count * tolerance ≤ value.toNat * tolerance :=
    mul_le_mul_of_nonneg_right at_most (by norm_num [tolerance])
  linarith [stands.not_early, stands.nonneg]

/-- A value is too small for its tolerances to make up a period. -/
theorem toNat_mul_tolerance_lt (value : UInt8) : 60 * (value.toNat * tolerance) < 1 := by
  have bound : (value.toNat : Rat) < 256 := by exact_mod_cast value.toNat_lt
  rw [tolerance]
  linarith

/-- A total of whole periods takes off just as many. -/
theorem Stands.count_eq {periods : Nat} (stands : Stands value total count timer)
    (enough : periods ≤ value.toNat) (whole : total = periods / 60) : count = periods := by
  apply Nat.le_antisymm
  · apply (stands.le_floor.trans (min_le_right _ _)).trans
    apply Nat.le_of_lt_succ
    rw [Nat.floor_lt' (Nat.succ_ne_zero periods), whole]
    push_cast
    linarith [toNat_mul_tolerance_lt value]
  · have counted : 60 * total = periods := by
      rw [whole]
      ring
    have least := stands.floor_le
    rw [counted, Nat.floor_natCast, min_eq_right enough] at least
    exact least

/-- A countdown that is started from a value loses one for each sixtieth of a second of the
total time that passes, in whatever pieces it passes, and up to a billionth of a second earlier
for each; what is counted is what the value loses.  A total of whole sixtieths takes off just
as many.  After each piece the time that stays gathered is less than a sixtieth. -/
theorem decay_by_total (value : UInt8) (pieces : List Rat)
    (nonneg : ∀ piece ∈ pieces, 0 ≤ piece) :
    let total := totalTime pieces
    let timer := ((zero.load value).advanceAll pieces).1
    let count := ((zero.load value).advanceAll pieces).2
    min value.toNat ⌊60 * total⌋₊ ≤ count ∧
      count ≤ min value.toNat ⌊60 * (total + value.toNat * tolerance)⌋₊ ∧
      count + timer.value.toNat = value.toNat ∧
      (∀ periods : Nat, periods ≤ value.toNat → total = periods / 60 → count = periods) ∧
      ∀ past later, pieces = past ++ later →
        0 ≤ ((zero.load value).advanceAll past).1.phase ∧
          ((zero.load value).advanceAll past).1.phase < 1 / 60 := by
  intro total timer count
  have stands : Stands value total count timer := by
    simpa using (stands_load value).advanceAll nonneg
  refine ⟨stands.floor_le, stands.le_floor, stands.balance, ?_, ?_⟩
  · intro periods enough whole
    exact stands.count_eq enough whole
  · rintro past later rfl
    have before : ∀ piece ∈ past, 0 ≤ piece := fun piece member =>
      nonneg piece (List.mem_append_left later member)
    have stood := (stands_load value).advanceAll before
    exact ⟨stood.nonneg, stood.lt_period⟩

/-- Ten halves of a sixtieth take off five. -/
theorem halves_take_off_five :
    (∀ piece ∈ List.replicate 10 (1 / 120 : Rat), 0 ≤ piece) ∧
      totalTime (List.replicate 10 (1 / 120 : Rat)) = 5 / 60 ∧
      ((zero.load 5).advanceAll (List.replicate 10 (1 / 120 : Rat))).2 = 5 := by
  have nonneg : ∀ piece ∈ List.replicate 10 (1 / 120 : Rat), 0 ≤ piece := by
    intro piece member
    rw [List.eq_of_mem_replicate member]
    norm_num
  have total : totalTime (List.replicate 10 (1 / 120 : Rat)) = (5 : Nat) / 60 := by
    simp only [List.replicate_succ, List.replicate_zero, totalTime_cons, totalTime_nil]
    norm_num
  rcases decay_by_total 5 _ nonneg with ⟨-, -, -, whole, -⟩
  exact ⟨nonneg, total, whole 5 (by decide) total⟩

/-- Three sixtieths that each lack a billionth of a second take off three, although three of
them are not three sixtieths. -/
example :
    ((zero.load 3).advanceAll (List.replicate 3 (1 / 60 - tolerance))).2 = 3 := by
  decide +kernel

end ChipEight.Countdown
