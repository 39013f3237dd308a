import ChipEight.Framebuffer
import ChipEight.Text.Integer

/-!
# Colours

A colour is written as six hexadecimal digits, two for each of red, green and
blue, usually behind a number sign.  Each pair is read as an integer in base
sixteen, so a pair may also be a sign and a digit, or a digit and a blank; a
component read from a sign can be negative, and is refused only when pixels are
painted with it.

The image of a picture holds the colours of its cells as bytes.
-/

namespace ChipEight

/-- A colour by its components. -/
structure Colour where
  /-- The red component. -/
  red : Int
  /-- The green component. -/
  green : Int
  /-- The blue component. -/
  blue : Int
  deriving DecidableEq, Repr

namespace Colour

/-- A text that is no colour. -/
structure Invalid where
  /-- The text as it was given. -/
  text : String
  deriving DecidableEq, Repr

/-- The report on a text that is no colour. -/
def Invalid.message (invalid : Invalid) : String :=
  "Invalid colour " ++ Text.quoted invalid.text ++ ": expected #RRGGBB"

/-- The digits of a written colour: blanks around it and number signs before it
are left out. -/
def digits (text : String) : List Char :=
  (Text.trim text.toList).dropWhile (· == '#')

/-- One component, from two characters. -/
def component? (first second : Char) : Option Int :=
  (Text.readInteger .sixteen (String.ofList [first, second])).toOption

/-- Read a colour. -/
def parse (text : String) : Except Invalid Colour :=
  let colour? : Option Colour :=
    match digits text with
    | [a, b, c, d, e, f] => do
      return ⟨← component? a b, ← component? c d, ← component? e f⟩
    | _ => none
  match colour? with
  | some colour => .ok colour
  | none => .error ⟨text⟩

/-- The components in order. -/
def components (colour : Colour) : List Int :=
  [colour.red, colour.green, colour.blue]

/-- Why a component is not painted. -/
inductive ComponentError where
  /-- It is no word. -/
  | tooLarge
  /-- It is a word but no byte. -/
  | noByte (value : Int)
  deriving DecidableEq, Repr

/-- The report on a component that is not painted. -/
def ComponentError.message : ComponentError → String
  | .tooLarge => TooLarge.message .word
  | .noByte value => s!"Python integer {value} out of bounds for uint8"

/-- The byte of a component. -/
def byte (component : Int) : Except ComponentError UInt8 :=
  if !Bounds.isWord component then .error .tooLarge
  else if component < 0 ∨ 255 < component then .error (.noByte component)
  else .ok (UInt8.ofInt component)

/-- The bytes of a colour. -/
def bytes (colour : Colour) : Except ComponentError (List UInt8) :=
  colour.components.mapM byte

end Colour

/-- Why a picture has no image. -/
inductive ImageError where
  /-- It has no rows. -/
  | noRows
  /-- A colour is not painted. -/
  | colour (error : Colour.ComponentError)
  deriving DecidableEq, Repr

/-- The report on a picture without an image. -/
def ImageError.message : ImageError → String
  | .noRows => "too many indices for array: array is 1-dimensional, but 2 were indexed"
  | .colour error => error.message

/-- The image of a screen in two colours given by their bytes, column by column
from the left, each from the top. -/
def Framebuffer.paint {width height : Nat} (screen : Framebuffer width height)
    (lit dark : List UInt8) : List UInt8 :=
  (List.range width).flatMap fun column =>
    (List.range height).flatMap fun row => if screen.pixel row column then lit else dark

/-- The image of a picture: three bytes a cell. -/
def Picture.image (picture : Picture) (lit dark : Colour) : Except ImageError (List UInt8) := do
  if picture.height = 0 then .error .noRows
  else
    let lit ← lit.bytes.mapError .colour
    let dark ← dark.bytes.mapError .colour
    return picture.cells.paint lit dark

end ChipEight
