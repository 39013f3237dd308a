import ChipEight.Bounds

/-!
# The size of a table

Screens and waves are tables of equal items.  A table is refused if a dimension
is no word or is negative, if its bytes cannot be counted in a word, or if it
takes more memory than there is.  Dimensions of zero do not count towards the
bytes.
-/

namespace ChipEight

/-- What a table holds. -/
inductive TableItem where
  /-- The cells of a screen, lit or dark. -/
  | cell
  /-- Samples of a sound. -/
  | sample
  /-- The places of samples. -/
  | place
  deriving DecidableEq, Repr

/-- The bytes of an item. -/
def TableItem.bytes : TableItem → Nat
  | .cell => 1
  | .sample => 2
  | .place => 8

/-- The name of a kind of items in reports. -/
def TableItem.name : TableItem → String
  | .cell => "bool"
  | .sample => "int16"
  | .place => "int64"

/-- The dimensions of a table and what it holds. -/
structure TableSize where
  /-- How many items there are in each direction. -/
  dimensions : List Int
  /-- What the items are. -/
  item : TableItem
  deriving DecidableEq, Repr

namespace TableSize

/-- Why a table is not made. -/
inductive Refused where
  /-- A dimension is no word. -/
  | dimension
  /-- A dimension is negative. -/
  | negative
  /-- The bytes cannot be counted in a word. -/
  | uncountable
  /-- The bytes take too much memory. -/
  | memory (size : TableSize) (bytes : Nat)
  deriving DecidableEq, Repr

/-- A quotient rounded to the nearest integer; a half goes to the even neighbour. -/
def roundQuotient (dividend divisor : Nat) : Nat :=
  let below := dividend / divisor
  let rest := 2 * (dividend % divisor)
  if rest < divisor ∨ (rest = divisor ∧ below % 2 = 0) then below else below + 1

/-- A quotient in three significant digits, and a point behind it where there is
no fraction. -/
def threeDigits (dividend divisor : Nat) : String :=
  let whole := roundQuotient dividend divisor
  let tenths := roundQuotient (dividend * 10) divisor
  let hundredths := roundQuotient (dividend * 100) divisor
  if hundredths < 1000 then
    s!"{hundredths / 100}.{hundredths / 10 % 10}{hundredths % 10}"
  else if tenths < 1000 then s!"{tenths / 10}.{tenths % 10}"
  else s!"{whole}."

/-- The units of memory, each 1024 times the one before. -/
def units : List String :=
  ["bytes", "KiB", "MiB", "GiB", "TiB", "PiB", "EiB"]

/-- The unit in which a number of bytes is shown: the largest that is contained
in it, or the next one where rounding leads there. -/
def unitOf (bytes : Nat) : Nat :=
  let unit := Nat.log2 (max bytes 2) / 10
  if roundQuotient bytes (Nat.pow 1024 unit) = 1024 then unit + 1 else unit

/-- How many binary digits of a number of bytes are shown. -/
abbrev shownDigits : Nat := 53

/-- A number with all but its first binary digits rounded off. -/
def roundDigits (number : Nat) : Nat :=
  let unit := Nat.pow 2 (Nat.log2 number + 1 - shownDigits)
  roundQuotient number unit * unit

/-- A number of bytes as it is shown. -/
def bytesText (bytes : Nat) : String :=
  let bytes := roundDigits bytes
  let unit := unitOf bytes
  let amount := if unit = 0 then toString bytes else threeDigits bytes (Nat.pow 1024 unit)
  amount ++ " " ++ units[unit]?.getD ""

/-- Dimensions as they are shown: one alone is followed by a comma. -/
def shapeText : List Int → String
  | [only] => "(" ++ toString only ++ ",)"
  | dimensions => "(" ++ ", ".intercalate (dimensions.map toString) ++ ")"

/-- The report on a table that is not made. -/
def Refused.message : Refused → String
  | .dimension => "Maximum allowed dimension exceeded"
  | .negative => "negative dimensions are not allowed"
  | .uncountable =>
    "array is too big; `arr.size * arr.dtype.itemsize` is larger than the maximum possible size."
  | .memory size bytes =>
    "Unable to allocate " ++ bytesText bytes ++ " for an array with shape " ++
      shapeText size.dimensions ++ " and data type " ++ size.item.name

/-- From how many bytes on a table is refused.  A screen begins dark and takes its
memory only as it is drawn, so that more is granted for it. -/
def memoryLimit : TableItem → Nat
  | .cell => Nat.pow 2 37
  | .sample | .place => Nat.pow 2 34

/-- The bytes of a table whose dimensions are words, from a number of bytes for
what has one item in each of them. -/
def count (bytes : Nat) : List Int → Except Refused Nat
  | [] => .ok bytes
  | dimension :: rest =>
    if dimension = 0 then count bytes rest
    else if dimension < 0 then .error .negative
    else
      let total := bytes * dimension.toNat
      if total < Nat.pow 2 63 then count total rest else .error .uncountable

/-- Check the size of a table. -/
def check (size : TableSize) : Except Refused Unit := do
  if size.dimensions.any fun dimension => !Bounds.isWord dimension then .error .dimension
  else
    let bytes ← count size.item.bytes size.dimensions
    if memoryLimit size.item ≤ bytes ∧ !size.dimensions.contains 0 then .error (.memory size bytes)
    else .ok ()

end TableSize

end ChipEight
