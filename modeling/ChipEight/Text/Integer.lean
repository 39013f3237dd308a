import ChipEight.Text.Blank
import ChipEight.Text.DecimalDigit
import ChipEight.Text.Quoted

/-!
# Written integers

An integer is written as a sign, if any, and digits of a base, with single
underscores between digits where one likes and blanks on both sides.  Bases two,
eight and sixteen have a marker (`0b`, `0o`, `0x`), which may be left out where
the base is known.  Where it is not known the marker tells, and without one the
number is decimal and may then not begin with a zero, unless it is zero.  Decimal
digits beyond a limit are neither read nor written.

Decimal digits of any script count as digits.
-/

namespace ChipEight.Text

/-- The base a written integer is read in. -/
inductive Base where
  /-- By the marker; decimal without one. -/
  | marked
  /-- Decimal. -/
  | ten
  /-- Hexadecimal, with or without marker. -/
  | sixteen
  deriving DecidableEq, Repr

/-- The number of a base in reports: zero where the marker tells. -/
def Base.number : Base → Nat
  | .marked => 0
  | .ten => 10
  | .sixteen => 16

/-- Why a text is no integer, or an integer has no text. -/
inductive IntegerError where
  /-- It does not follow the grammar; the text is kept for the report. -/
  | malformed (base : Base) (text : String)
  /-- It has this many decimal digits, more than are converted. -/
  | tooManyDigits (count : Nat)
  /-- The integer has more decimal digits than are written. -/
  | tooLong
  deriving DecidableEq, Repr

/-- How many characters of a quoted text a report shows. -/
abbrev shownLimit : Nat := 200

/-- The report on a conversion that fails. -/
def IntegerError.message : IntegerError → String
  | .malformed base text =>
    s!"invalid literal for int() with base {base.number}: " ++
      String.ofList ((quoted text).toList.take shownLimit)
  | .tooManyDigits count =>
    s!"Exceeds the limit (4300 digits) for integer string conversion: value has {count} digits; " ++
      "use sys.set_int_max_str_digits() to increase the limit"
  | .tooLong =>
    "Exceeds the limit (4300 digits) for integer string conversion; " ++
      "use sys.set_int_max_str_digits() to increase the limit"

namespace Integer

/-- How many decimal digits are converted. -/
abbrev digitLimit : Nat := 4300

/-- The blanks of ASCII that may surround an integer. -/
def isSpace (c : Char) : Bool :=
  c == ' ' || (9 ≤ c.toNat && c.toNat ≤ 13)

/-- A character as the reader sees it: a digit of any script is the ASCII digit
of its value, and a blank beyond ASCII is a space. -/
def plain (c : Char) : Char :=
  if c.toNat < 127 then c
  else if isBlank c then ' '
  else match decimalDigit? c with
    | some value => Char.ofNat (48 + value)
    | none => '?'

/-- The value of a letter or digit as a digit of any base up to sixteen and
beyond. -/
def digitValue? (c : Char) : Option Nat :=
  if '0' ≤ c ∧ c ≤ '9' then some (c.toNat - 48)
  else if 'a' ≤ c ∧ c ≤ 'z' then some (c.toNat - 87)
  else if 'A' ≤ c ∧ c ≤ 'Z' then some (c.toNat - 55)
  else none

/-- Whether a character is a digit of a base. -/
def isDigit (radix : Nat) (c : Char) : Bool :=
  (digitValue? c).any (· < radix)

/-- The sign of a text, `true` for minus, and what follows it. -/
def sign : List Char → Bool × List Char
  | '-' :: rest => (true, rest)
  | '+' :: rest => (false, rest)
  | text => (false, text)

/-- Whether a letter marks a base. -/
def marks (radix : Nat) (c : Char) : Bool :=
  match radix with
  | 2 => c == 'b' || c == 'B'
  | 8 => c == 'o' || c == 'O'
  | 16 => c == 'x' || c == 'X'
  | _ => false

/-- The radix of a text, and whether it must not begin with a needless zero. -/
def radixOf (base : Base) (text : List Char) : Nat × Bool :=
  match base with
  | .ten => (10, false)
  | .sixteen => (16, false)
  | .marked =>
    match text with
    | '0' :: c :: _ =>
      if marks 16 c then (16, false)
      else if marks 8 c then (8, false)
      else if marks 2 c then (2, false)
      else (10, true)
    | '0' :: [] => (10, true)
    | _ => (10, false)

/-- A text without the marker of its base, and without an underscore that may
follow the marker. -/
def dropMarker (radix : Nat) (text : List Char) : List Char :=
  match text with
  | '0' :: c :: rest =>
    if marks radix c then
      match rest with
      | '_' :: rest => rest
      | rest => rest
    else text
  | text => text

/-- Whether no two underscores stand side by side. -/
def noDoubleUnderscore : List Char → Bool
  | '_' :: '_' :: _ => false
  | _ :: rest => noDoubleUnderscore rest
  | [] => true

/-- Whether digits with underscores begin and end with a digit and have no two
underscores side by side. -/
def wellSpaced (digits : List Char) : Bool :=
  digits.head? != some '_' && digits.getLast? != some '_' && noDoubleUnderscore digits

/-- The number that digits write, underscores aside. -/
def digitsValue (radix : Nat) (digits : List Char) : Nat :=
  digits.foldl (fun value c => value * radix + (digitValue? c).getD 0) 0

/-- Read an unsigned integer up to the end of the text. -/
def magnitude? (base : Base) (text : List Char) : Except (Option Nat) Nat :=
  let (radix, strict) := radixOf base text
  let body := dropMarker radix text
  let inNumber (c : Char) : Bool := isDigit radix c || c == '_'
  let digits := body.takeWhile inNumber
  let written := digits.filter (· != '_')
  if !wellSpaced digits then .error none
  else if radix = 10 ∧ written.length > digitLimit then .error (some written.length)
  else
    let value := digitsValue radix written
    if written.isEmpty ∨ (strict ∧ value ≠ 0) then .error none
    else if ((body.dropWhile inNumber).dropWhile isSpace).isEmpty then .ok value
    else .error none

end Integer

/-- Read an integer written in a base. -/
def readInteger (base : Base) (text : String) : Except IntegerError Int :=
  let (negative, body) := Integer.sign ((text.toList.map Integer.plain).dropWhile Integer.isSpace)
  match Integer.magnitude? base body with
  | .ok value => .ok (if negative then -(value : Int) else value)
  | .error none => .error (.malformed base text)
  | .error (some count) => .error (.tooManyDigits count)

/-- An integer in decimal digits. -/
def writeInteger (number : Int) : Except IntegerError String :=
  if number.natAbs < Nat.pow 10 Integer.digitLimit then .ok (toString number) else .error .tooLong

end ChipEight.Text
