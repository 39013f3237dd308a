import ChipEight.TableSize

/-!
# The screen

A screen is a grid of lit and dark cells.  Its only way to light a cell is to
draw a sprite: eight columns wide, one byte a row, combined with the cells
under it by exclusive or.  Both axes wrap on their own, so a sprite that leaves
the grid on one side comes back on the opposite one.

A drawing reads the grid as it was before the drawing.  A sprite taller than the
screen therefore does not combine with itself: where two of its rows meet on
one row of the screen, the later row decides.  A drawing collides if it turns a
lit cell dark, judged for each sprite row on the grid before the drawing.

Coordinates are words.  A sprite that begins at the last words goes on at the
first ones, before the axis of the screen is considered.
-/

namespace ChipEight

/-- The columns of a sprite. -/
abbrev spriteWidth : Nat := 8

/-- The most rows an instruction can draw, and the fewest a screen may have. -/
abbrev spriteRows : Nat := 15

/-- The dimensions of a screen that has room for every sprite. -/
structure ScreenSize where
  /-- Cells in a row. -/
  width : Nat
  /-- Rows. -/
  height : Nat
  /-- A sprite row does not meet itself. -/
  wide : spriteWidth ≤ width
  /-- The rows an instruction draws do not meet. -/
  tall : spriteRows ≤ height

/-- Why there is no screen of some dimensions. -/
inductive ScreenSize.Refused where
  /-- There is no room for a sprite. -/
  | tooSmall (width height : Int)
  /-- There is no grid of these dimensions. -/
  | grid (error : TableSize.Refused)
  deriving DecidableEq, Repr

/-- The report on refused dimensions. -/
def ScreenSize.Refused.message : ScreenSize.Refused → String
  | .tooSmall width height =>
    s!"Framebuffer must be at least {spriteWidth}x{spriteRows}, got {width}x{height}"
  | .grid error => error.message

/-- Check the dimensions of a screen. -/
def ScreenSize.check (width height : Int) : Except ScreenSize.Refused ScreenSize :=
  if room : (spriteWidth : Int) ≤ width ∧ (spriteRows : Int) ≤ height then do
    (TableSize.check ⟨[height, width], .cell⟩).mapError .grid
    return ⟨width.toNat, height.toNat, by omega, by omega⟩
  else
    .error (.tooSmall width height)

/-- A grid of cells, `true` where a cell is lit, row by row from the top. -/
structure Framebuffer (width height : Nat) where
  /-- The rows, each from the left. -/
  rows : Vector (Vector Bool width) height
  deriving DecidableEq, Repr

namespace Framebuffer

variable {width height : Nat}

/-- The grid without a lit cell. -/
def blank : Framebuffer width height :=
  ⟨Vector.replicate height (Vector.replicate width false)⟩

/-- A row of the grid; rows outside it are dark. -/
def row (screen : Framebuffer width height) (index : Nat) : Vector Bool width :=
  screen.rows[index]?.getD (Vector.replicate width false)

/-- Whether a cell is lit; cells outside the grid are dark. -/
def pixel (screen : Framebuffer width height) (row column : Nat) : Bool :=
  (screen.row row)[column]?.getD false

/-- The place of a coordinate on an axis that wraps. -/
def wrap (size : Nat) (coordinate : Int) : Nat :=
  (Bounds.wrap coordinate % size).toNat

/-- One bit of a sprite row, counted from the left. -/
def spriteBit (byte : UInt8) (column : Nat) : Bool :=
  byte.toNat.testBit (7 - column)

/-- A row of cells with a sprite row laid over it at column `x`. -/
def overlay (cells : Vector Bool width) (x : Int) (byte : UInt8) : Vector Bool width :=
  (List.range spriteWidth).foldl
    (fun result (offset : Nat) =>
      let column := wrap width (x + offset)
      result.setIfInBounds column (cells[column]?.getD false ^^ spriteBit byte offset))
    cells

/-- Draw a sprite with its top left corner at `(x, y)`.  Every sprite row is laid
over the row that the screen showed before the drawing. -/
def draw (screen : Framebuffer width height) (x y : Int) (sprite : List UInt8) :
    Framebuffer width height :=
  ⟨sprite.zipIdx.foldl
    (fun rows line =>
      let place := wrap height (y + line.2)
      rows.setIfInBounds place (overlay (screen.row place) x line.1))
    screen.rows⟩

/-- Whether drawing a sprite turns a lit cell dark. -/
def collides (screen : Framebuffer width height) (x y : Int) (sprite : List UInt8) : Bool :=
  sprite.zipIdx.any fun line =>
    let cells := screen.row (wrap height (y + line.2))
    (List.range spriteWidth).any fun (offset : Nat) =>
      spriteBit line.1 offset && cells[wrap width (x + offset)]?.getD false

/-- Draw a sprite, and tell whether it collides.  The coordinates have to be words
where there is anything to draw. -/
def place (screen : Framebuffer width height) (x y : Int) (sprite : List UInt8) :
    Except TooLarge (Framebuffer width height × Bool) :=
  if sprite.isEmpty then .ok (screen, false)
  else if Bounds.isWord x && Bounds.isWord y then
    .ok (screen.draw x y sprite, screen.collides x y sprite)
  else .error .word

/-- The number of lit cells. -/
def litCount (screen : Framebuffer width height) : Nat :=
  screen.rows.foldl (fun total cells => total + cells.count true) 0

/-- Whether no cell is lit. -/
def isBlank (screen : Framebuffer width height) : Bool :=
  screen.rows.all fun cells => cells.all fun lit => !lit

/-- The rows as text, with one text for a lit cell and one for a dark cell. -/
def lines (screen : Framebuffer width height) (on off : String) : List String :=
  screen.rows.toList.map fun cells =>
    String.join (cells.toList.map fun lit => if lit then on else off)

/-- The grid as text, one line a row. -/
def text (screen : Framebuffer width height) (on off : String) : String :=
  "\n".intercalate (screen.lines on off)

/-- The grid as it is printed: `#` for a lit cell and `.` for a dark one. -/
def print (screen : Framebuffer width height) : String :=
  screen.text "#" "."

end Framebuffer

/-- A grid of any dimensions, as it is passed on to be shown. -/
structure Picture where
  /-- Cells in a row. -/
  width : Nat
  /-- Rows. -/
  height : Nat
  /-- The cells. -/
  cells : Framebuffer width height

/-- A grid as a picture. -/
def Framebuffer.picture {width height : Nat} (screen : Framebuffer width height) : Picture :=
  ⟨width, height, screen⟩

end ChipEight
