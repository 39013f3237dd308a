/-!
# Countdown timers

A countdown holds a byte that falls by one for every sixtieth of a second that
passes.  The host reports elapsed time in uneven pieces; they are gathered in
`phase`, each whole period taken from it costs the value one, and the remainder
stays, so that uneven pieces average out.

While the value is zero no time is gathered.  A period counts as complete a
billionth of a second early, which absorbs the rounding of sixtieths; the
remainder is then never allowed below zero.

The measure of time is a parameter.  The machine counts in binary floating
point; the same definitions over exact fractions say what that arithmetic
approximates.
-/

namespace ChipEight

/-- What a countdown asks of a measure of elapsed time. -/
class Elapsed (α : Type) extends Zero α, Add α, Sub α where
  /-- The time one decrement takes: a sixtieth of a second. -/
  period : α
  /-- Whether the gathered time completes a period, up to the tolerance. -/
  due : α → Bool
  /-- Whether the gathered time is below zero. -/
  negative : α → Bool

/-- How much of a period may be missing when it is counted: a billionth of a
second. -/
def Elapsed.tolerance : Rat := 1 / 1000000000

instance : Elapsed Float where
  zero := 0.0
  add := Float.add
  sub := Float.sub
  period := 1.0 / 60.0
  due phase := decide (1.0 / 60.0 - 1e-9 ≤ phase)
  negative phase := decide (phase < 0.0)

instance : Elapsed Rat where
  zero := 0
  add := Rat.add
  sub := Rat.sub
  period := 1 / 60
  due phase := decide (1 / 60 - Elapsed.tolerance ≤ phase)
  negative phase := decide (phase < 0)

/-- A byte that counts down as time passes. -/
structure Countdown (α : Type) where
  /-- What is left to count. -/
  value : UInt8
  /-- Time gathered since the last decrement. -/
  phase : α

namespace Countdown

variable {α : Type} [Elapsed α]

/-- The countdown at power-on. -/
def zero : Countdown α :=
  ⟨0, 0⟩

/-- Start from a new value; gathered time is kept. -/
def load (timer : Countdown α) (value : UInt8) : Countdown α :=
  { timer with value := value }

/-- Whether there is anything left to count. -/
def active (timer : Countdown α) : Bool :=
  timer.value != 0

/-- What is left of a value and of gathered time, with the number of decrements:
one for each period, until the value or the time is used up. -/
def drain : Nat → α → Nat × Nat × α
  | 0, phase => (0, 0, phase)
  | value + 1, phase =>
    if Elapsed.due phase then
      let (steps, rest) := drain value (phase - Elapsed.period)
      (steps + 1, rest)
    else
      (0, value + 1, phase)

/-- Let time pass.  The result counts the decrements. -/
def advance (timer : Countdown α) (elapsed : α) : Countdown α × Nat :=
  if timer.value = 0 then
    (timer, 0)
  else
    let (steps, value, phase) := drain timer.value.toNat (timer.phase + elapsed)
    let phase := if value = 0 ∨ Elapsed.negative phase then 0 else phase
    (⟨UInt8.ofNat value, phase⟩, steps)

end Countdown

end ChipEight
