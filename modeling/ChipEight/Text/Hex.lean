/-!
# Hexadecimal text

Numbers in reports are written in base sixteen in two ways: bare, with a least
number of digits, and marked with `0x`, where the least width counts the marker
and the sign of a negative number as well as the digits.  A number that needs
more room than the width is written whole.
-/

namespace ChipEight.Text.Hex

/-- The sixteen digits, which also number registers and keys, are not none. -/
instance neZero_sixteen : @NeZero Nat Zero.ofOfNat0 16 :=
  @NeZero.mk Nat Zero.ofOfNat0 16 (Nat.succ_ne_zero 15)

/-- The lower-case digits of a number, most significant first and without
leading zeros; zero is the single digit `0`. -/
def digits (value : Nat) : List Char :=
  Nat.toDigits 16 value

/-- Digits without a marker, filled up with leading zeros to `width`. -/
def bare (width : Nat) (value : Nat) : String :=
  String.ofList ((digits value).leftpad width '0')

/-- Digits behind `0x`, or behind `-0x` for a negative number.  The zeros stand
after the marker, and `width` is the least length of the whole text. -/
def marked (width : Nat) (value : Int) : String :=
  let marker := if value < 0 then "-0x" else "0x"
  marker ++ bare (width - marker.length) value.natAbs

/-- One capital digit. -/
def capital (value : Fin 16) : String :=
  String.singleton (Nat.digitChar value).toUpper

/-- An address or program counter: three digits in the usual range. -/
def address (value : Int) : String :=
  marked 5 value

/-- A byte: two digits. -/
def byte (value : UInt8) : String :=
  marked 4 value.toNat

/-- An instruction word: four digits. -/
def word (value : UInt16) : String :=
  marked 6 value.toNat

example : address 0x200 = "0x200" ∧ address (-1) = "-0x01" ∧ address 0x1000 = "0x1000" := by
  decide +kernel

example : byte 10 = "0x0a" ∧ word 0xe0 = "0x00e0" ∧ marked 0 (-1) = "-0x1" := by
  decide +kernel

end ChipEight.Text.Hex
