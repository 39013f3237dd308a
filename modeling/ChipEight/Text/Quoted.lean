import ChipEight.Text.CodePoint
import ChipEight.Text.Hex
import ChipEight.Text.Printable

/-!
# Quoted text

Reports quote the text they complain about.  The quotes are single, unless the
text holds a single quote and no double one.  The quote in use, the backslash
and three control characters are written with a backslash, and any other
character that is not printable by its code point.
-/

namespace ChipEight.Text

namespace Quoted

/-- The quote for a text. -/
def quoteFor (text : List Char) : Char :=
  if text.contains '\'' && !text.contains '"' then '"' else '\''

/-- A code point by its number, in two, four or eight hexadecimal digits. -/
def numbered (code : Nat) : List Char :=
  if code < 0x100 then '\\' :: 'x' :: (Hex.bare 2 code).toList
  else if code < 0x10000 then '\\' :: 'u' :: (Hex.bare 4 code).toList
  else '\\' :: 'U' :: (Hex.bare 8 code).toList

/-- One code point between quotes. -/
def escape (quote : Char) (code : Nat) : List Char :=
  let c := Char.ofNat code
  if isHalf code then numbered code
  else if c == quote || c == '\\' then ['\\', c]
  else if c == '\t' then ['\\', 't']
  else if c == '\n' then ['\\', 'n']
  else if c == '\r' then ['\\', 'r']
  else if isPrintable c then [c]
  else numbered code

/-- A text in quotes. -/
def quote (text : List Char) : List Char :=
  let quote := quoteFor text
  quote :: (codePoints text).flatMap (escape quote) ++ [quote]

end Quoted

/-- A string in quotes. -/
def quoted (text : String) : String :=
  String.ofList (Quoted.quote text.toList)

end ChipEight.Text
