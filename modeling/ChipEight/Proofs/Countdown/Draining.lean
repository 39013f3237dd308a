import ChipEight.Machine.Basic

/-!
# Draining a countdown

Time that passes drains a countdown in turns: each turn takes one from the value and a period
from the gathered time, as long as there is something to count and a period is complete
(`Countdown.Turns`).  Whether a period is complete is asked of a measure of time that may
answer anything, so only the value bounds the number of turns
(`Countdown.Turns.balance`).

`Countdown.exists_turns_of_advance` says what passing time does in terms of turns, for every
measure of time.
-/

namespace ChipEight

namespace Countdown

variable {α : Type} [Elapsed α] {timer next rest : Countdown α} {count : Nat} {elapsed : α}

/-! ## Turns -/

/-- One turn, if there is something left to count and a period is complete. -/
def turn? (timer : Countdown α) : Option (Countdown α) :=
  if timer.value ≠ 0 ∧ Elapsed.due timer.phase then
    some ⟨timer.value - 1, timer.phase - Elapsed.period⟩
  else
    none

/-- A number of turns lead from one state of a countdown to another. -/
inductive Turns : Nat → Countdown α → Countdown α → Prop where
  | none (timer : Countdown α) : Turns 0 timer timer
  | more {count : Nat} {timer next rest : Countdown α} (turned : timer.turn? = some next)
      (later : Turns count next rest) : Turns (count + 1) timer rest

theorem turn?_eq_some_iff :
    timer.turn? = some next ↔ timer.value ≠ 0 ∧ Elapsed.due timer.phase ∧
      next = ⟨timer.value - 1, timer.phase - Elapsed.period⟩ := by
  rw [turn?]
  constructor
  · intro turned
    split at turned
    · rename_i goes
      cases turned
      exact ⟨goes.1, goes.2, rfl⟩
    · contradiction
  · rintro ⟨counting, due, rfl⟩
    exact if_pos ⟨counting, due⟩

theorem turn?_eq_none_iff :
    timer.turn? = none ↔ timer.value ≠ 0 → Elapsed.due timer.phase = false := by
  rw [turn?]
  split
  · rename_i goes
    simp [goes.1, goes.2]
  · rename_i stays
    simpa using stays

theorem toNat_sub_one {value : UInt8} (counting : value ≠ 0) :
    (value - 1).toNat + 1 = value.toNat := by
  have positive : 0 < value.toNat := by
    apply Nat.pos_of_ne_zero
    intro zero
    exact counting (UInt8.toNat_inj.mp zero)
  have bound := value.toNat_lt
  rw [UInt8.toNat_sub]
  simp only [UInt8.toNat_one]
  omega

/-- Each turn costs the value one. -/
theorem Turns.balance (turns : Turns count timer rest) :
    count + rest.value.toNat = timer.value.toNat := by
  induction turns with
  | none timer => exact Nat.zero_add _
  | more turned later ih =>
    rcases turn?_eq_some_iff.mp turned with ⟨counting, -, rfl⟩
    have lowered := toNat_sub_one counting
    simp only at ih
    omega

/-! ## What passing time does -/

/-- The countdown once time has been gathered. -/
def gather (timer : Countdown α) (elapsed : α) : Countdown α :=
  { timer with phase := timer.phase + elapsed }

/-- The countdown as the last turn leaves it: no time stays gathered when nothing is left to
count, and none is owed. -/
def settle (timer : Countdown α) : Countdown α :=
  { timer with
    phase := if timer.value = 0 ∨ Elapsed.negative timer.phase then 0 else timer.phase }

theorem advance_of_spent (spent : timer.value = 0) : timer.advance elapsed = (timer, 0) :=
  if_pos spent

/-- Draining takes turns until there is none. -/
theorem exists_turns (timer : Countdown α) :
    ∃ count rest, Turns count timer rest ∧ rest.turn? = none ∧
      drain timer.value.toNat timer.phase = (count, rest.value.toNat, rest.phase) := by
  -- The recursion of `drain` is on the value, so that of the turns is, too.
  induction left : timer.value.toNat generalizing timer with
  | zero =>
    have spent : timer.value = 0 := UInt8.toNat_inj.mp left
    refine ⟨0, timer, .none timer, turn?_eq_none_iff.mpr (absurd spent), ?_⟩
    rw [left]
    rfl
  | succ value ih =>
    have counting : timer.value ≠ 0 := by
      intro spent
      rw [spent] at left
      contradiction
    cases due : Elapsed.due timer.phase with
    | false =>
      refine ⟨0, timer, .none timer, turn?_eq_none_iff.mpr fun _ => due, ?_⟩
      rw [drain, due, left]
      rfl
    | true =>
      have turned := turn?_eq_some_iff.mpr ⟨counting, due, rfl⟩
      have lowered := toNat_sub_one counting
      rcases ih ⟨timer.value - 1, timer.phase - Elapsed.period⟩ (by simp only; omega) with
        ⟨count, rest, turns, stopped, drained⟩
      refine ⟨count + 1, rest, .more turned turns, stopped, ?_⟩
      simp only at drained
      rw [drain, due, if_pos rfl, drained]

/-- While there is something to count, passing time is gathered, taken off in turns until there
is none, and settled.  The turns are what is counted. -/
theorem exists_turns_of_advance (counting : timer.value ≠ 0) (elapsed : α) :
    ∃ rest, Turns (timer.advance elapsed).2 (timer.gather elapsed) rest ∧
      rest.turn? = none ∧ (timer.advance elapsed).1 = rest.settle := by
  rcases exists_turns (timer.gather elapsed) with ⟨count, rest, turns, stopped, drained⟩
  simp only [gather] at drained
  have advanced : timer.advance elapsed = (rest.settle, count) := by
    have unspent : rest.value.toNat = 0 ↔ rest.value = 0 := by
      rw [← UInt8.toNat_inj, UInt8.toNat_zero]
    rw [advance, if_neg counting, drained]
    simp only [settle, unspent, UInt8.ofNat_toNat]
  rw [advanced]
  exact ⟨rest, turns, stopped, rfl⟩

/-! ## Safety -/

theorem negative_zero : Elapsed.negative (0 : Float) = false := by
  decide

/-- No time is owed after settling. -/
theorem not_lt_settle (timer : Countdown Float) : ¬ timer.settle.phase < 0.0 := by
  have kept : Elapsed.negative timer.settle.phase = false := by
    simp only [settle]
    split
    · exact negative_zero
    · rename_i unsettled
      simpa using (not_or.mp unsettled).2
  exact of_decide_eq_false kept

/-- What time that has passed did to a countdown, with the number of decrements counted. -/
structure Passes (timer : Countdown Float) (elapsed : Float) (after : Countdown Float)
    (count : Nat) : Prop where
  /-- The turns end, and are what is counted. -/
  ends : timer.value ≠ 0 →
    ∃ rest, Turns count (timer.gather elapsed) rest ∧ rest.turn? = none
  /-- There cannot be more turns than the value. -/
  bounded : ∀ turns rest, Turns turns (timer.gather elapsed) rest → turns ≤ timer.value.toNat
  /-- What is counted is what the value lost. -/
  balance : count + after.value.toNat = timer.value.toNat
  /-- Where nothing was left to count, nothing changes. -/
  spent : timer.value = 0 → count = 0 ∧ after = timer
  /-- No time stays gathered when the value reaches zero. -/
  cleared : timer.value ≠ 0 → after.value = 0 → after.phase = 0.0
  /-- No time is owed. -/
  nonneg : timer.value ≠ 0 → ¬ after.phase < 0.0

theorem passes_advance (timer : Countdown Float) (elapsed : Float) :
    timer.Passes elapsed (timer.advance elapsed).1 (timer.advance elapsed).2 := by
  have bounded : ∀ turns rest, Turns turns (timer.gather elapsed) rest →
      turns ≤ timer.value.toNat := by
    intro turns rest taken
    have balance := taken.balance
    simp only [gather] at balance
    omega
  by_cases spent : timer.value = 0
  · rw [advance_of_spent spent]
    exact {
      ends := absurd spent
      bounded := bounded
      balance := Nat.zero_add _
      spent := fun _ => ⟨rfl, rfl⟩
      cleared := absurd spent
      nonneg := absurd spent }
  · rcases exists_turns_of_advance spent elapsed with ⟨rest, turns, stopped, settled⟩
    rw [settled]
    exact {
      ends := fun _ => ⟨rest, turns, stopped⟩
      bounded := bounded
      balance := turns.balance
      spent := fun zero => absurd zero spent
      cleared := fun _ empty => if_pos (.inl empty)
      nonneg := fun _ => not_lt_settle rest }

end Countdown

/-- The timers of a machine are safe whatever time is said to pass, be it negative, infinite or
not a number.  A timer takes at most as many turns as its value, counts what its value loses,
does not change when it is at zero, keeps no time when it gets there, and never owes any.  A
machine does this to each of its timers by itself, and to nothing else. -/
theorem timers_pass :
    (∀ (timer : Countdown Float) (elapsed : Float),
      timer.Passes elapsed (timer.advance elapsed).1 (timer.advance elapsed).2) ∧
    ∀ {width height : Nat} (machine : Machine width height) (elapsed : Float),
      machine.updateTimers elapsed =
        { machine with
          delay := (machine.delay.advance elapsed).1
          sound := (machine.sound.advance elapsed).1 } := by
  constructor
  · exact Countdown.passes_advance
  · intro width height machine elapsed
    rfl

/-- Endless time takes as many turns as there are, and time that is not a number takes none. -/
example :
    ((⟨3, 0⟩ : Countdown Float).advance (1.0 / 0.0)).2 = 3 ∧
      ((⟨3, 0⟩ : Countdown Float).advance (0.0 / 0.0)).2 = 0 := by
  decide +kernel

end ChipEight
