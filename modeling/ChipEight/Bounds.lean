/-!
# Bounds on numbers

Coordinates, colour components and samples are computed in words of 64 bits with
sign, positions in a list are such words too, and times are computed in binary
floating point.  A number that has no counterpart there is refused, and the cause
says what it is too large for.
-/

namespace ChipEight

/-- What a number is too large for. -/
inductive TooLarge where
  /-- A word. -/
  | word
  /-- A position in a list. -/
  | position
  /-- The length of a list. -/
  | length
  /-- A floating point number. -/
  | float
  deriving DecidableEq, Repr

/-- The report on a number that is too large. -/
def TooLarge.message : TooLarge → String
  | .word => "Python int too large to convert to C long"
  | .position => "cannot fit 'int' into an index-sized integer"
  | .length => "Python int too large to convert to C ssize_t"
  | .float => "int too large to convert to float"

namespace Bounds

/-- The number a word denotes that has the low 64 bits of another number. -/
def wrap (number : Int) : Int :=
  (Int64.ofInt number).toInt

theorem wrap_eq_bmod (number : Int) : wrap number = number.bmod 0x10000000000000000 :=
  Int64.toInt_ofInt

/-- Whether a number is a word. -/
def isWord (number : Int) : Bool :=
  wrap number == number

theorem isWord_iff {number : Int} :
    isWord number ↔ -0x8000000000000000 ≤ number ∧ number < 0x8000000000000000 := by
  rw [isWord, beq_iff_eq, wrap_eq_bmod]
  constructor
  · intro same
    have := Int.le_bmod (x := number) (m := 0x10000000000000000) (by decide)
    have := Int.bmod_lt (x := number) (m := 0x10000000000000000) (by decide)
    omega
  · rintro ⟨low, high⟩
    exact Int.bmod_eq_of_le (by omega) (by omega)

theorem wrap_of_isWord {number : Int} (h : isWord number) : wrap number = number :=
  beq_iff_eq.mp h

/-- The least size whose nearest floating point number is infinite. -/
def floatLimit : Nat := Nat.pow 2 1024 - Nat.pow 2 970

/-- The floating point number nearest to a number. -/
def float (number : Int) : Except TooLarge Float :=
  if number.natAbs < floatLimit then .ok (Float.ofInt number) else .error .float

end Bounds

end ChipEight
