import ChipEight.Text.CharacterSet

/-!
# Blank characters

The characters that separate words and that are trimmed from the ends of a text:
the white space of Unicode together with the four information separators of
ASCII.
-/

namespace ChipEight.Text

/-- The blank characters. -/
def blankCharacters : CharacterSet := ⟨[
  (9, 13), (28, 32), (133, 133), (160, 160), (5760, 5760), (8192, 8202), (8232, 8233),
  (8239, 8239), (8287, 8287), (12288, 12288)]⟩

/-- Whether a character is blank. -/
def isBlank (c : Char) : Bool :=
  blankCharacters.contains c

/-- A text without its leading and trailing blanks. -/
def trim (text : List Char) : List Char :=
  ((text.dropWhile isBlank).reverse.dropWhile isBlank).reverse

/-- A string without its leading and trailing blanks. -/
def trimString (text : String) : String :=
  String.ofList (trim text.toList)

/-- What precedes the first blank of a text, after the leading blanks. -/
def firstWord (text : List Char) : List Char :=
  (text.dropWhile isBlank).takeWhile fun c => !isBlank c

end ChipEight.Text
