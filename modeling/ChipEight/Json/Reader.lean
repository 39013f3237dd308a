import ChipEight.Json.Value
import ChipEight.Text.CodePoint

/-!
# Reading JSON

A reader for the standard grammar with three additions: `NaN`, `Infinity` and
`-Infinity` are numbers.  Blanks are the space, the tab and the two line ends;
control characters within a text are refused, and so are a byte order mark
before the value and anything behind it.  A refusal says where the text stops
following the grammar, and why.

Two kinds of text are refused although they follow the grammar: whole numbers
with too many digits to convert, and values nested more deeply than the levels
granted for them.  Texts are held as their code points ask for, since a numbered
character can be half of a surrogate pair.
-/

namespace ChipEight.Json

/-- What does not follow the grammar. -/
inductive Violation where
  /-- The text begins with a byte order mark. -/
  | byteOrderMark
  /-- No value begins here. -/
  | noValue
  /-- No name of a member begins here. -/
  | noName
  /-- No colon stands behind the name of a member. -/
  | noColon
  /-- Neither a comma nor a closing bracket stands behind an item or a member. -/
  | noComma
  /-- Something stands behind the value. -/
  | extraData
  /-- The text that begins here has no end. -/
  | unterminated
  /-- A control character stands within a text. -/
  | controlCharacter
  /-- A backslash stands before a character that it does not go with. -/
  | badEscape
  /-- A numbered character has no four digits. -/
  | badUnit
  deriving DecidableEq, Repr

/-- The words for a violation. -/
def Violation.text : Violation → String
  | .byteOrderMark => "Unexpected UTF-8 BOM (decode using utf-8-sig)"
  | .noValue => "Expecting value"
  | .noName => "Expecting property name enclosed in double quotes"
  | .noColon => "Expecting ':' delimiter"
  | .noComma => "Expecting ',' delimiter"
  | .extraData => "Extra data"
  | .unterminated => "Unterminated string starting at"
  | .controlCharacter => "Invalid control character at"
  | .badEscape => "Invalid \\escape"
  | .badUnit => "Invalid \\uXXXX escape"

/-- A text that does not follow the grammar. -/
structure SyntaxError where
  /-- Why it does not. -/
  violation : Violation
  /-- The place where it stops doing so, counted from 0. -/
  place : Nat
  /-- The line of the place, counted from 1. -/
  line : Nat
  /-- The column of the place in its line, counted from 1. -/
  column : Nat
  deriving DecidableEq, Repr

/-- The report on a text that does not follow the grammar. -/
def SyntaxError.message (error : SyntaxError) : String :=
  error.violation.text ++ s!": line {error.line} column {error.column} (char {error.place})"

/-- A violation at the beginning of a rest of a text. -/
def Violation.within (violation : Violation) (text rest : List Char) : SyntaxError :=
  let before := text.take (text.length - rest.length)
  { violation
    place := before.length
    line := before.count '\n' + 1
    column := (before.reverse.takeWhile (· != '\n')).length + 1 }

/-- Why a text was not read. -/
inductive ReadError where
  /-- From this rest on it does not follow the grammar. -/
  | malformed (violation : Violation) (rest : List Char)
  /-- A whole number has this many digits, more than are converted. -/
  | tooManyDigits (count : Nat)
  /-- Lists or objects are nested too deeply; the flag tells whether an object is
  the one too many. -/
  | tooDeep (object : Bool)
  deriving DecidableEq, Repr

/-- How many digits a whole number may have. -/
abbrev digitLimit : Nat := 4300

namespace Reader

/-- The characters that may stand between the parts of a value. -/
def isBlank (c : Char) : Bool :=
  c == ' ' || c == '\t' || c == '\n' || c == '\r'

/-- A text without its leading blanks. -/
def skipBlanks (text : List Char) : List Char :=
  text.dropWhile isBlank

/-- The value of a hexadecimal digit. -/
def hexValue? (c : Char) : Option Nat :=
  if '0' ≤ c ∧ c ≤ '9' then some (c.toNat - 48)
  else if 'a' ≤ c ∧ c ≤ 'f' then some (c.toNat - 87)
  else if 'A' ≤ c ∧ c ≤ 'F' then some (c.toNat - 55)
  else none

/-- The number four hexadecimal digits write. -/
def hexUnit? (a b c d : Char) : Option Nat := do
  return ((← hexValue? a) * 16 + (← hexValue? b)) * 256 +
    ((← hexValue? c) * 16 + (← hexValue? d))

/-- The character behind a backslash, except for numbered ones. -/
def escaped? : Char → Option Char
  | '"' => some '"'
  | '\\' => some '\\'
  | '/' => some '/'
  | 'b' => some '\x08'
  | 'f' => some '\x0c'
  | 'n' => some '\n'
  | 'r' => some '\r'
  | 't' => some '\t'
  | _ => none

/-- The code units of a text up to its closing quote, and what follows.  The text
begins with the opening quote of the first argument. -/
def codeUnits (opening : List Char) : List Char → Except ReadError (List Nat × List Char)
  | [] | ['\\'] => .error (.malformed .unterminated opening)
  | '"' :: rest => .ok ([], rest)
  -- The digits of a numbered character are only looked at if the text goes on behind them.
  | '\\' :: 'u' :: a :: b :: c :: d :: e :: rest =>
    match hexUnit? a b c d with
    | some unit => do
      let (units, rest) ← codeUnits opening (e :: rest)
      return (unit :: units, rest)
    | none => .error (.malformed .badUnit ('u' :: a :: b :: c :: d :: e :: rest))
  | '\\' :: 'u' :: rest => .error (.malformed .badUnit ('u' :: rest))
  | '\\' :: c :: rest =>
    match escaped? c with
    | some c => do
      let (units, rest) ← codeUnits opening rest
      return (c.toNat :: units, rest)
    | none => .error (.malformed .badEscape ('\\' :: c :: rest))
  | c :: rest =>
    if c.toNat < 32 then .error (.malformed .controlCharacter (c :: rest))
    else do
      let (units, rest) ← codeUnits opening rest
      return (c.toNat :: units, rest)

/-- A text behind its opening quote, and what follows. -/
def text (opening source : List Char) : Except ReadError (String × List Char) := do
  let (units, rest) ← codeUnits opening source
  return (String.ofList (Text.hold (Text.joinHalves units)), rest)

/-- The number that decimal digits write. -/
def decimalValue (digits : List Char) : Nat :=
  digits.foldl (fun value c => value * 10 + (c.toNat - 48)) 0

/-- The number `mantissa · 10 ^ exponent`, where exponents far out of range are
settled without computing the power. -/
def scientific (mantissa : Nat) (digits : Nat) (exponent : Int) : Float :=
  if mantissa = 0 then 0.0
  else if exponent + digits > 400 then 1.0 / 0.0
  else if exponent + digits < -400 then 0.0
  else Float.ofScientific mantissa (decide (exponent < 0)) exponent.natAbs

/-- The digits of a fraction behind a point, if at least one follows it. -/
def fraction (source : List Char) : List Char × List Char :=
  match source with
  | '.' :: rest =>
    let digits := rest.takeWhile Char.isDigit
    if digits.isEmpty then ([], source) else (digits, rest.dropWhile Char.isDigit)
  | _ => ([], source)

/-- An exponent, if it has at least one digit. -/
def exponent? (source : List Char) : Option (Int × List Char) :=
  let signed (negative : Bool) (rest : List Char) : Option (Int × List Char) :=
    let digits := rest.takeWhile Char.isDigit
    if digits.isEmpty then none
    else
      let size := decimalValue digits
      some (if negative then -(size : Int) else size, rest.dropWhile Char.isDigit)
  match source with
  | 'e' :: '-' :: rest | 'E' :: '-' :: rest => signed true rest
  | 'e' :: '+' :: rest | 'E' :: '+' :: rest => signed false rest
  | 'e' :: rest | 'E' :: rest => signed false rest
  | _ => none

/-- The digits before a point or an exponent: a zero stands alone. -/
def wholeDigits (source : List Char) : List Char × List Char :=
  match source with
  | '0' :: rest => (['0'], rest)
  | _ => (source.takeWhile Char.isDigit, source.dropWhile Char.isDigit)

/-- A number without its sign, and what follows.  The number begins at the first
argument, which has the sign if there is one. -/
def number (start : List Char) (negative : Bool) (source : List Char) :
    Except ReadError (Value × List Char) :=
  let (whole, rest) := wholeDigits source
  if whole.isEmpty then .error (.malformed .noValue start)
  else
    let (part, rest) := fraction rest
    match part, exponent? rest with
    | [], none =>
      if whole.length > digitLimit then .error (.tooManyDigits whole.length)
      else
        let size : Int := decimalValue whole
        .ok (.int (if negative then -size else size), rest)
    | part, found =>
      let digits := whole ++ part
      let (power, rest) := found.getD (0, rest)
      let size := scientific (decimalValue digits) digits.length (power - part.length)
      .ok (.float (if negative then -size else size), rest)

/-- A value that neither a list nor an object begins, and what follows. -/
def scalar (source : List Char) : Except ReadError (Value × List Char) :=
  match source with
  | '"' :: rest => do
    let (text, rest) ← text source rest
    return (.string text, rest)
  | 'n' :: 'u' :: 'l' :: 'l' :: rest => .ok (.null, rest)
  | 't' :: 'r' :: 'u' :: 'e' :: rest => .ok (.bool true, rest)
  | 'f' :: 'a' :: 'l' :: 's' :: 'e' :: rest => .ok (.bool false, rest)
  | 'N' :: 'a' :: 'N' :: rest => .ok (.float (0.0 / 0.0), rest)
  | 'I' :: 'n' :: 'f' :: 'i' :: 'n' :: 'i' :: 't' :: 'y' :: rest => .ok (.float (1.0 / 0.0), rest)
  | '-' :: 'I' :: 'n' :: 'f' :: 'i' :: 'n' :: 'i' :: 't' :: 'y' :: rest =>
    .ok (.float (-1.0 / 0.0), rest)
  | '-' :: rest => number source true rest
  | _ => number source false source

/-- The name and the colon that open a member of an object, and what follows. -/
def memberName (source : List Char) : Except ReadError (String × List Char) :=
  match source with
  | '"' :: rest => do
    let (name, rest) ← text source rest
    match skipBlanks rest with
    | ':' :: rest => return (name, skipBlanks rest)
    | rest => .error (.malformed .noColon rest)
  | _ => .error (.malformed .noName source)

mutual

/-- A value, and what follows.  The first argument bounds the parts still to be
read, the second is the number of levels still granted. -/
def value : Nat → Nat → List Char → Except ReadError (Value × List Char)
  | 0, _, source => .error (.malformed .noValue source)
  | bound + 1, levels, source =>
    match source with
    | '[' :: rest =>
      if levels = 0 then .error (.tooDeep false)
      else match skipBlanks rest with
        | ']' :: rest => .ok (.array [], rest)
        | rest => do
          let (items, rest) ← items bound (levels - 1) rest
          return (.array items, rest)
    | '\x7b' :: rest =>
      if levels = 0 then .error (.tooDeep true)
      else match skipBlanks rest with
        | '\x7d' :: rest => .ok (.object [], rest)
        | rest => do
          let (members, rest) ← members bound (levels - 1) rest
          return (.object members, rest)
    | _ => scalar source

/-- The items of a list from the first or the next one on, and what follows the
closing bracket. -/
def items : Nat → Nat → List Char → Except ReadError (List Value × List Char)
  | 0, _, source => .error (.malformed .noValue source)
  | bound + 1, levels, source => do
    let (first, rest) ← value bound levels source
    match skipBlanks rest with
    | ']' :: rest => return ([first], rest)
    | ',' :: rest => do
      let (others, rest) ← items bound levels (skipBlanks rest)
      return (first :: others, rest)
    | rest => .error (.malformed .noComma rest)

/-- The members of an object from the first or the next one on, and what follows
the closing brace. -/
def members : Nat → Nat → List Char → Except ReadError (List (String × Value) × List Char)
  | 0, _, source => .error (.malformed .noValue source)
  | bound + 1, levels, source => do
    let (name, rest) ← memberName source
    let (first, rest) ← value bound levels rest
    match skipBlanks rest with
    | '\x7d' :: rest => return ([(name, first)], rest)
    | ',' :: rest => do
      let (others, rest) ← members bound levels (skipBlanks rest)
      return ((name, first) :: others, rest)
    | rest => .error (.malformed .noComma rest)

end

/-- The value that a text consists of.  The first argument bounds the parts of it, the
second is the number of levels granted. -/
def document (bound levels : Nat) (source : List Char) : Except ReadError Value :=
  if source.head? = some '\ufeff' then .error (.malformed .byteOrderMark source)
  else do
    let (value, rest) ← value bound levels (skipBlanks source)
    match skipBlanks rest with
    | [] => return value
    | rest => .error (.malformed .extraData rest)

end Reader

/-- Read a text that consists of one value, in which lists and objects are nested
within a number of levels. -/
def read (levels : Nat) (source : String) : Except ReadError Value :=
  let characters := source.toList
  Reader.document (2 * characters.length + 2) levels characters

end ChipEight.Json
