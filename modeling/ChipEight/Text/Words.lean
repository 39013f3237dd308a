/-!
# Words of a line

A line is divided into words at blanks.  Quotes keep blanks together: between
single quotes every character stands for itself, and between double quotes a
backslash takes the special meaning of a following quote or backslash.  Outside
quotes a backslash takes the special meaning of any character.  Quoted and
unquoted parts that touch make one word, and an empty pair of quotes is an empty
word.
-/

namespace ChipEight.Text

namespace Words

/-- Why a line is not divided. -/
inductive WordsError where
  /-- A quote is not closed. -/
  | noClosingQuotation
  /-- A backslash ends the line. -/
  | noEscapedCharacter
  deriving DecidableEq, Repr

/-- The report on a line that is not divided. -/
def WordsError.message : WordsError → String
  | .noClosingQuotation => "No closing quotation"
  | .noEscapedCharacter => "No escaped character"

/-- The characters that separate words. -/
def separates (c : Char) : Bool :=
  c == ' ' || c == '\t' || c == '\r' || c == '\n'

/-- Where the reader stands within a line. -/
inductive Place where
  /-- Between words. -/
  | between
  /-- In a word, outside quotes. -/
  | word
  /-- Between quotes of the given kind. -/
  | quotes (mark : Char)
  /-- Behind a backslash outside quotes. -/
  | escape
  /-- Behind a backslash between double quotes. -/
  | quotedEscape
  deriving DecidableEq, Repr

/-- The words of the rest of a line.  The word begun so far is kept in reverse. -/
def divide (place : Place) (begun : List Char) : List Char → Except WordsError (List String)
  | [] =>
    match place with
    | .between => .ok []
    | .word => .ok [String.ofList begun.reverse]
    | .quotes _ => .error .noClosingQuotation
    | .escape | .quotedEscape => .error .noEscapedCharacter
  | c :: rest =>
    match place with
    | .between | .word =>
      if separates c then
        match place with
        | .word => do return String.ofList begun.reverse :: (← divide .between [] rest)
        | _ => divide .between [] rest
      else if c == '\\' then divide .escape begun rest
      else if c == '\'' || c == '"' then divide (.quotes c) begun rest
      else divide .word (c :: begun) rest
    | .quotes mark =>
      if c == mark then divide .word begun rest
      else if c == '\\' && mark == '"' then divide .quotedEscape begun rest
      else divide (.quotes mark) (c :: begun) rest
    | .escape => divide .word (c :: begun) rest
    | .quotedEscape =>
      if c == '"' || c == '\\' then divide (.quotes '"') (c :: begun) rest
      else divide (.quotes '"') (c :: '\\' :: begun) rest

end Words

/-- The words of a line. -/
def words (line : String) : Except Words.WordsError (List String) :=
  Words.divide .between [] line.toList

end ChipEight.Text
