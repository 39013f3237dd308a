import ChipEight.Proofs.Screen.Placement
import Mathlib.Algebra.Ring.Parity

/-!
# Drawings as sets of flipped cells

The machine draws sprites of up to fifteen rows at the coordinates in two registers.  Such
a drawing is a placement like any other and keeps step with every screen.  So a screen on
which several sprites have been drawn shows, cell by cell, the parity of the bits that have
fallen there (`Framebuffer.shows_draw`).
-/

namespace ChipEight

/-- A sprite and where it is drawn. -/
structure Drawing where
  /-- The column of its left edge. -/
  column : UInt8
  /-- The row of its top edge. -/
  row : UInt8
  /-- Its rows, a byte each. -/
  sprite : List UInt8

namespace Drawing

/-- The columns that the lit bits of a sprite row fall on. -/
def columns (drawing : Drawing) (width : Nat) (byte : UInt8) : List Nat :=
  ((List.range spriteWidth).filter (Framebuffer.spriteBit byte)).map fun offset =>
    (drawing.column.toNat + offset) % width

/-- The cells that the lit bits of a sprite fall on, by row and column. -/
def cells (width height : Nat) (drawing : Drawing) : List (Nat × Nat) :=
  drawing.sprite.zipIdx.flatMap fun line =>
    (drawing.columns width line.1).map fun column =>
      ((drawing.row.toNat + line.2) % height, column)

/-- A drawing as a placement. -/
def placement (drawing : Drawing) : Placement where
  x := drawing.column.toNat
  y := drawing.row.toNat
  sprite := drawing.sprite

variable {width height : Nat} {drawing : Drawing}

theorem cells_eq (width height : Nat) (drawing : Drawing) :
    drawing.cells width height = drawing.placement.cells width height := by
  simp only [cells, columns, Placement.cells, Placement.columns, placement, ← Int.natCast_add,
    Framebuffer.around_natCast]

/-- The coordinates in registers are far from the end of the words. -/
theorem regular_placement (fits : drawing.sprite.length < 16) :
    drawing.placement.Regular width height := by
  have := drawing.column.toNat_lt
  have := drawing.row.toNat_lt
  constructor
  · exact Bounds.isWord_iff.mpr (by simp only [placement]; omega)
  · exact Bounds.isWord_iff.mpr (by simp only [placement]; omega)
  · exact .inl (by simp only [placement, spriteWidth]; omega)
  · exact .inl (by simp only [placement]; omega)

end Drawing

namespace Framebuffer

variable {width height : Nat}

/-- Whether a screen shows what is left of drawings on a blank screen: a cell is lit
if an odd number of lit bits has fallen on it. -/
def Shows (screen : Framebuffer width height) (drawings : List Drawing) : Prop :=
  ∀ row < height, ∀ column < width, screen.pixel row column ↔
    Odd ((drawings.flatMap (Drawing.cells width height)).count (row, column))

theorem shows_blank : (blank : Framebuffer width height).Shows [] := by
  intro row rowInside column columnInside
  simp [pixel_eq_getElem _ rowInside columnInside, blank]

/-- A further drawing adds its bits to those that have fallen before. -/
theorem shows_draw {screen : Framebuffer width height} {drawings : List Drawing}
    (shows : screen.Shows drawings) (drawing : Drawing) (wide : spriteWidth ≤ width)
    (fits : drawing.sprite.length < 16) (tall : drawing.sprite.length ≤ height) :
    (screen.draw drawing.column.toNat drawing.row.toNat drawing.sprite).Shows
      (drawings ++ [drawing]) := by
  intro row rowInside column columnInside
  have before := shows row rowInside column columnInside
  have drawn := pixel_draw screen (Drawing.regular_placement fits) wide tall rowInside columnInside
  have distinct : (drawing.cells width height).Nodup := by
    rw [Drawing.cells_eq]
    exact Placement.nodup_cells wide tall
  rw [← Drawing.cells_eq] at drawn
  rw [List.flatMap_append, List.flatMap_singleton, List.count_append, distinct.count]
  refine (iff_of_eq (congrArg (· = true) drawn)).trans ?_
  by_cases flipped : (row, column) ∈ drawing.cells width height
  · rw [if_pos flipped, decide_eq_true flipped, Bool.xor_true, Nat.odd_add_one, ← before,
      Bool.not_eq_true', Bool.not_eq_true]
  · rw [if_neg flipped, decide_eq_false flipped, Bool.xor_false, Nat.add_zero, before]

end Framebuffer

end ChipEight
