/-!
# Code points

A code point is a character or half of a surrogate pair.  A text from outside can
hold such a half on its own, although it is no character.  A text is therefore held
as characters in this way: a half is written as a mark and a private character at a
fixed distance from it, and a mark in the text is written twice.  All else stands
for itself, so a text without halves and marks is held as it is.

Neither the mark nor the private characters mean anything to a reader, so a held
text is searched and divided like any other.  Only where code points are counted
or shown are they read back.
-/

namespace ChipEight.Text

/-- The character that precedes what stands for half of a pair: the last one. -/
def mark : Char := Char.ofNat 0x10FFFF

/-- Whether a code point is the first half of a pair. -/
def isFirstHalf (code : Nat) : Bool :=
  0xD800 ≤ code && code < 0xDC00

/-- Whether a code point is the second half of a pair. -/
def isSecondHalf (code : Nat) : Bool :=
  0xDC00 ≤ code && code < 0xE000

/-- Whether a code point is half of a pair. -/
def isHalf (code : Nat) : Bool :=
  isFirstHalf code || isSecondHalf code

/-- The distance of the private character from the half it stands for. -/
abbrev distance : Nat := 0x800

/-- The characters that hold a code point. -/
def holdOne (code : Nat) : List Char :=
  if isHalf code then [mark, Char.ofNat (code + distance)]
  else if code = mark.toNat then [mark, mark]
  else [Char.ofNat code]

/-- The characters that hold code points. -/
def hold (codes : List Nat) : List Char :=
  codes.flatMap holdOne

/-- The code points that characters hold. -/
def codePoints : List Char → List Nat
  | [] => []
  | [c] => [c.toNat]
  | c :: d :: rest =>
    if c == mark then
      (if d == mark then mark.toNat else d.toNat - distance) :: codePoints rest
    else c.toNat :: codePoints (d :: rest)

theorem toNat_ofNat {code : Nat} (half : isHalf code = false) (bound : code < 0x110000) :
    (Char.ofNat code).toNat = code := by
  have valid : code.isValidChar := by
    simp [isHalf, isFirstHalf, isSecondHalf] at half
    unfold Nat.isValidChar
    omega
  rw [Char.ofNat, dif_pos valid]
  rfl

/-- Code points in which two halves that follow each other make a character. -/
def joinHalves : List Nat → List Nat
  | [] => []
  | [code] => [code]
  | first :: second :: rest =>
    if isFirstHalf first && isSecondHalf second then
      (0x10000 + (first - 0xD800) * 0x400 + (second - 0xDC00)) :: joinHalves rest
    else first :: joinHalves (second :: rest)

/-- A text from outside that has no halves, as it is held. -/
def holdString (text : String) : String :=
  String.ofList (hold (text.toList.map Char.toNat))

/-- A held text as it is shown where halves have no place: the replacement character
stands for them. -/
def showString (text : String) : String :=
  String.ofList ((codePoints text.toList).map fun code =>
    if isHalf code then '\uFFFD' else Char.ofNat code)

end ChipEight.Text
