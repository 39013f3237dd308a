import ChipEight.Framebuffer
import Mathlib.Data.Int.ModEq
import Mathlib.Data.List.Nodup

/-!
# The cells under a sprite

A sprite is placed anywhere: its coordinates are integers, and each axis of the screen
wraps.  On a screen with room for the sprite no two of its bits fall on the same cell,
since neither rows nor columns meet after wrapping.  So drawing it flips the cells that its
lit bits fall on, each of them once (`Framebuffer.pixel_draw`).

Coordinates are counted in words, and a sprite that begins at the last words goes on at the
first ones.  That keeps step with the screen where the axis divides the number of words, as
it does on the usual screen; elsewhere the words must not run out under the sprite
(`Placement.Regular`).
-/

namespace ChipEight

/-! ## Scattered writes -/

section Scatter

variable {α β : Type} {size : Nat} {place : β → Nat} {value : β → α} {index : Nat}

/-- A cell that no write is aimed at keeps its content. -/
theorem scatter_of_forall_ne {targets : List β} (inside : index < size)
    (missed : ∀ target ∈ targets, place target ≠ index) (cells : Vector α size) :
    (targets.foldl (fun cells target => cells.setIfInBounds (place target) (value target))
      cells)[index] = cells[index] := by
  induction targets generalizing cells with
  | nil => rfl
  | cons first rest ih =>
    rw [List.foldl_cons,
      ih (fun target member => missed target (List.mem_cons_of_mem first member))]
    exact Vector.getElem_setIfInBounds_ne inside (missed first List.mem_cons_self)

/-- A cell that one write is aimed at holds what was written. -/
theorem scatter_of_mem {targets : List β} {target : β} (inside : index < size)
    (member : target ∈ targets) (aimed : place target = index)
    (unique : ∀ other ∈ targets, place other = index → other = target) (cells : Vector α size) :
    (targets.foldl (fun cells target => cells.setIfInBounds (place target) (value target))
      cells)[index] = value target := by
  induction targets generalizing cells with
  | nil => contradiction
  | cons first rest ih =>
    rw [List.foldl_cons]
    by_cases again : target ∈ rest
    · exact ih again (fun other member => unique other (List.mem_cons_of_mem first member)) _
    · rcases List.mem_cons.mp member with rfl | later
      · have missed : ∀ other ∈ rest, place other ≠ index := by
          intro other otherMember hit
          rw [unique other (List.mem_cons_of_mem _ otherMember) hit] at otherMember
          exact again otherMember
        rw [scatter_of_forall_ne inside missed]
        cases aimed
        exact Vector.getElem_setIfInBounds_self inside
      · exact absurd later again

/-- Writes with places of their own: a cell holds what was written to it, or what it
held before. -/
theorem scatter_cases {targets : List β} (inside : index < size)
    (apart : ∀ first ∈ targets, ∀ second ∈ targets, place first = place second → first = second)
    (cells : Vector α size) :
    (∃ target ∈ targets, place target = index ∧
      (targets.foldl (fun cells target => cells.setIfInBounds (place target) (value target))
        cells)[index] = value target) ∨
    (∀ target ∈ targets, place target ≠ index) ∧
      (targets.foldl (fun cells target => cells.setIfInBounds (place target) (value target))
        cells)[index] = cells[index] := by
  by_cases hit : ∃ target ∈ targets, place target = index
  · obtain ⟨target, member, aimed⟩ := hit
    have unique : ∀ other ∈ targets, place other = index → other = target :=
      fun other otherMember otherAimed => apart other otherMember target member
        (otherAimed.trans aimed.symm)
    exact .inl ⟨target, member, aimed, scatter_of_mem inside member aimed unique cells⟩
  · have missed : ∀ target ∈ targets, place target ≠ index :=
      fun target member aimed => hit ⟨target, member, aimed⟩
    exact .inr ⟨missed, scatter_of_forall_ne inside missed cells⟩

end Scatter

/-! ## Axes that wrap -/

namespace Framebuffer

/-- The place of a number on an axis that wraps, however large the number is. -/
def around (size : Nat) (coordinate : Int) : Nat :=
  (coordinate % size).toNat

theorem around_lt {size : Nat} (positive : 0 < size) (coordinate : Int) :
    around size coordinate < size := by
  have := Int.emod_nonneg coordinate (b := size) (by omega)
  have := Int.emod_lt_of_pos coordinate (b := size) (by omega)
  unfold around
  omega

theorem around_natCast (size place : Nat) : around size place = place % size := by
  rw [around, ← Int.natCast_emod, Int.toNat_natCast]

/-- Whether a cell, given by row and column, is on the grid. -/
def Inside (width height : Nat) (cell : Nat × Nat) : Prop :=
  cell.1 < height ∧ cell.2 < width

/-- Different offsets within an axis lead to different places. -/
theorem offset_eq_of_around_eq {size first second : Nat} {start : Int}
    (firstInside : first < size) (secondInside : second < size)
    (same : around size (start + first) = around size (start + second)) : first = second := by
  have nonneg (coordinate : Int) : 0 ≤ coordinate % size := Int.emod_nonneg _ (by omega)
  have residue_eq : (start + first) % size = (start + second) % size := by
    rw [← Int.toNat_of_nonneg (nonneg _), ← Int.toNat_of_nonneg (nonneg (start + second))]
    exact congrArg Nat.cast same
  have congruent : first ≡ second [MOD size] :=
    Int.natCast_modEq_iff.mp (Int.ModEq.add_left_cancel' start residue_eq)
  rw [← Nat.mod_eq_of_lt firstInside, ← Nat.mod_eq_of_lt secondInside]
  exact congruent

/-- Whether so many coordinates from a start on are words, or the axis divides the number of
words, so that it does not matter where these run out. -/
def InStep (size : Nat) (start : Int) (count : Nat) : Prop :=
  start + count ≤ 0x8000000000000000 ∨ size ∣ 0x10000000000000000

/-- Counting in words keeps step with the axis. -/
theorem wrap_eq_around {size count offset : Nat} {start : Int} (isWord : Bounds.isWord start)
    (inStep : InStep size start count) (inside : offset < count) :
    wrap size (start + offset) = around size (start + offset) := by
  rcases inStep with enough | divides
  · have := Bounds.isWord_iff.mp isWord
    rw [wrap, Bounds.wrap_of_isWord (Bounds.isWord_iff.mpr (by omega)), around]
  · have dividesInt : (size : Int) ∣ ((0x10000000000000000 : Nat) : Int) :=
      Int.natCast_dvd_natCast.mpr divides
    rw [wrap, around, Bounds.wrap_eq_bmod, ← Int.emod_emod_of_dvd _ dividesInt, Int.bmod_emod,
      Int.emod_emod_of_dvd _ dividesInt]

end Framebuffer

/-! ## Placements -/

/-- A sprite and the coordinates of its top left corner. -/
structure Placement where
  /-- The column. -/
  x : Int
  /-- The row. -/
  y : Int
  /-- The rows of the sprite, a byte each. -/
  sprite : List UInt8

namespace Placement

open Framebuffer (around Inside InStep)

/-- The columns that the lit bits of a sprite row fall on. -/
def columns (placement : Placement) (width : Nat) (byte : UInt8) : List Nat :=
  ((List.range spriteWidth).filter (Framebuffer.spriteBit byte)).map fun (offset : Nat) =>
    around width (placement.x + offset)

/-- The cells that the lit bits of a sprite fall on, by row and column, in the order of the
bits. -/
def cells (width height : Nat) (placement : Placement) : List (Nat × Nat) :=
  placement.sprite.zipIdx.flatMap fun line =>
    (placement.columns width line.1).map fun column =>
      (around height (placement.y + line.2), column)

/-- Whether the coordinates of a placement are words, and those of its cells keep step with
the screen. -/
structure Regular (width height : Nat) (placement : Placement) : Prop where
  wordX : Bounds.isWord placement.x
  wordY : Bounds.isWord placement.y
  columns : InStep width placement.x spriteWidth
  rows : InStep height placement.y placement.sprite.length

variable {width height : Nat} {placement : Placement}

theorem mem_columns {byte : UInt8} {column : Nat} :
    column ∈ placement.columns width byte ↔
      ∃ offset < spriteWidth, Framebuffer.spriteBit byte offset ∧
        around width (placement.x + offset) = column := by
  simp only [columns, List.mem_map, List.mem_filter, List.mem_range, and_assoc]

theorem mem_cells {row column : Nat} :
    (row, column) ∈ placement.cells width height ↔
      ∃ line ∈ placement.sprite.zipIdx, around height (placement.y + line.2) = row ∧
        column ∈ placement.columns width line.1 := by
  simp only [cells, List.mem_flatMap, List.mem_map, Prod.mk.injEq]
  constructor
  · rintro ⟨line, member, place, isColumn, row_eq, rfl⟩
    exact ⟨line, member, row_eq, isColumn⟩
  · rintro ⟨line, member, row_eq, isColumn⟩
    exact ⟨line, member, column, isColumn, row_eq, rfl⟩

/-- Sprites fall on the screen. -/
theorem inside_cells (placement : Placement) (wide : spriteWidth ≤ width)
    (positive : 0 < height) :
    ∀ cell ∈ placement.cells width height, Inside width height cell := by
  rintro ⟨row, column⟩ member
  obtain ⟨line, -, rfl, isColumn⟩ := mem_cells.mp member
  obtain ⟨offset, -, -, rfl⟩ := mem_columns.mp isColumn
  have positiveWidth : 0 < width := Nat.lt_of_lt_of_le (by decide) wide
  exact ⟨Framebuffer.around_lt positive _, Framebuffer.around_lt positiveWidth _⟩

theorem index_lt_of_mem {line : UInt8 × Nat} (member : line ∈ placement.sprite.zipIdx) :
    line.2 < placement.sprite.length := by
  have found := List.mem_zipIdx_iff_getElem?.mp member
  exact (List.getElem?_eq_some_iff.mp found).1

/-- The columns of a sprite do not meet. -/
theorem offsets_apart (placement : Placement) (wide : spriteWidth ≤ width) :
    ∀ first ∈ List.range spriteWidth, ∀ second ∈ List.range spriteWidth,
      around width (placement.x + first) = around width (placement.x + second) →
        first = second := by
  intro first firstMember second secondMember same
  have firstInside := Nat.lt_of_lt_of_le (List.mem_range.mp firstMember) wide
  have secondInside := Nat.lt_of_lt_of_le (List.mem_range.mp secondMember) wide
  exact Framebuffer.offset_eq_of_around_eq firstInside secondInside same

/-- The rows of a sprite do not meet. -/
theorem lines_apart (tall : placement.sprite.length ≤ height) :
    ∀ first ∈ placement.sprite.zipIdx, ∀ second ∈ placement.sprite.zipIdx,
      around height (placement.y + first.2) = around height (placement.y + second.2) →
        first = second := by
  intro first firstMember second secondMember same
  have index_eq : first.2 = second.2 := Framebuffer.offset_eq_of_around_eq
    (Nat.lt_of_lt_of_le (index_lt_of_mem firstMember) tall)
    (Nat.lt_of_lt_of_le (index_lt_of_mem secondMember) tall) same
  have firstFound := List.mem_zipIdx_iff_getElem?.mp firstMember
  have secondFound := List.mem_zipIdx_iff_getElem?.mp secondMember
  rw [index_eq, secondFound] at firstFound
  exact Prod.ext (Option.some.inj firstFound).symm index_eq

theorem nodup_columns (wide : spriteWidth ≤ width) (byte : UInt8) :
    (placement.columns width byte).Nodup := by
  apply List.Nodup.map_on
  · intro first firstMember second secondMember same
    exact placement.offsets_apart wide first (List.mem_of_mem_filter firstMember) second
      (List.mem_of_mem_filter secondMember) same
  · exact List.nodup_range.filter _

/-- No two lit bits fall on the same cell. -/
theorem nodup_cells (wide : spriteWidth ≤ width) (tall : placement.sprite.length ≤ height) :
    (placement.cells width height).Nodup := by
  apply List.nodup_flatMap.mpr
  constructor
  · intro line member
    exact (placement.nodup_columns wide line.1).map
      fun first second same => (Prod.mk.inj same).2
  · have distinct : placement.sprite.zipIdx.Nodup := by
      apply List.Nodup.of_map Prod.snd
      rw [List.zipIdx_map_snd]
      exact List.nodup_range'
    apply distinct.imp_of_mem
    intro first second firstMember secondMember different
    apply List.disjoint_left.mpr
    rintro ⟨row, column⟩ inFirst inSecond
    obtain ⟨_, -, same⟩ := List.mem_map.mp inFirst
    obtain ⟨_, -, other⟩ := List.mem_map.mp inSecond
    apply different
    apply lines_apart tall first firstMember second secondMember
    exact (Prod.mk.inj same).1.trans (Prod.mk.inj other).1.symm

end Placement

/-! ## What drawing does to a cell -/

namespace Framebuffer

variable {width height : Nat} {placement : Placement}

theorem pixel_eq_getElem (screen : Framebuffer width height) {row column : Nat}
    (rowInside : row < height) (columnInside : column < width) :
    screen.pixel row column = screen.rows[row][column] := by
  simp [pixel, Framebuffer.row, rowInside, columnInside]

theorem row_eq_getElem (screen : Framebuffer width height) {row : Nat} (inside : row < height) :
    screen.row row = screen.rows[row] := by
  simp [Framebuffer.row, inside]

/-- Screens that agree row by row are equal. -/
theorem ext_rows {screen other : Framebuffer width height}
    (agree : ∀ row (_ : row < height), screen.rows[row] = other.rows[row]) : screen = other :=
  congrArg mk (Vector.ext agree)

/-- Screens that agree cell by cell are equal. -/
theorem ext_pixel {screen other : Framebuffer width height}
    (agree : ∀ row < height, ∀ column < width, screen.pixel row column = other.pixel row column) :
    screen = other := by
  refine ext_rows fun row rowInside => Vector.ext fun column columnInside => ?_
  have same := agree row rowInside column columnInside
  rwa [pixel_eq_getElem _ rowInside columnInside, pixel_eq_getElem _ rowInside columnInside] at same

/-- A column of a sprite row is under one bit of it, or under none. -/
theorem overlay_cases (regular : placement.Regular width height) (wide : spriteWidth ≤ width)
    (cells : Vector Bool width) (byte : UInt8) {column : Nat} (inside : column < width) :
    (∃ offset ∈ List.range spriteWidth, around width (placement.x + offset) = column ∧
      (overlay cells placement.x byte)[column] =
        (cells[around width (placement.x + offset)]?.getD false ^^ spriteBit byte offset)) ∨
    (∀ offset ∈ List.range spriteWidth, around width (placement.x + offset) ≠ column) ∧
      (overlay cells placement.x byte)[column] = cells[column] := by
  have overlay_eq : overlay cells placement.x byte =
      (List.range spriteWidth).foldl
        (fun result (offset : Nat) => result.setIfInBounds (around width (placement.x + offset))
          (cells[around width (placement.x + offset)]?.getD false ^^ spriteBit byte offset))
        cells := by
    apply List.foldl_ext
    intro result offset member
    simp only [wrap_eq_around regular.wordX regular.columns (List.mem_range.mp member)]
  rw [overlay_eq]
  exact scatter_cases inside (placement.offsets_apart wide) cells

/-- A sprite row flips the columns that its lit bits fall on. -/
theorem overlay_getElem (regular : placement.Regular width height) (wide : spriteWidth ≤ width)
    (cells : Vector Bool width) (byte : UInt8) {column : Nat} (inside : column < width) :
    (overlay cells placement.x byte)[column] =
      (cells[column] ^^ decide (column ∈ placement.columns width byte)) := by
  rcases overlay_cases regular wide cells byte inside with
    ⟨offset, member, aimed, written⟩ | ⟨missed, kept⟩
  · have flipped : column ∈ placement.columns width byte ↔ spriteBit byte offset := by
      rw [Placement.mem_columns]
      constructor
      · rintro ⟨other, small, lit, same⟩
        rw [← placement.offsets_apart wide other (List.mem_range.mpr small) offset member
          (same.trans aimed.symm)]
        exact lit
      · exact fun lit => ⟨offset, List.mem_range.mp member, lit, aimed⟩
    rw [written, aimed, Vector.getElem?_eq_getElem inside, Option.getD_some]
    simp only [flipped, Bool.decide_eq_true]
  · have dark : column ∉ placement.columns width byte := by
      rw [Placement.mem_columns]
      rintro ⟨offset, small, -, aimed⟩
      exact missed offset (List.mem_range.mpr small) aimed
    rw [kept, decide_eq_false dark, Bool.xor_false]

/-- A row of the screen is under one row of a sprite, or under none. -/
theorem draw_cases (screen : Framebuffer width height) (regular : placement.Regular width height)
    (tall : placement.sprite.length ≤ height) {row : Nat} (inside : row < height) :
    (∃ line ∈ placement.sprite.zipIdx, around height (placement.y + line.2) = row ∧
      (screen.draw placement.x placement.y placement.sprite).rows[row] =
        overlay (screen.row (around height (placement.y + line.2))) placement.x line.1) ∨
    (∀ line ∈ placement.sprite.zipIdx, around height (placement.y + line.2) ≠ row) ∧
      (screen.draw placement.x placement.y placement.sprite).rows[row] = screen.rows[row] := by
  have rows_eq : (screen.draw placement.x placement.y placement.sprite).rows =
      placement.sprite.zipIdx.foldl
        (fun rows line => rows.setIfInBounds (around height (placement.y + line.2))
          (overlay (screen.row (around height (placement.y + line.2))) placement.x line.1))
        screen.rows := by
    apply List.foldl_ext
    intro rows line member
    have small := Placement.index_lt_of_mem member
    simp only [wrap_eq_around regular.wordY regular.rows small]
  rw [rows_eq]
  exact scatter_cases inside (Placement.lines_apart tall) screen.rows

/-- Drawing a sprite flips the cells that its lit bits fall on. -/
theorem pixel_draw (screen : Framebuffer width height) (regular : placement.Regular width height)
    (wide : spriteWidth ≤ width) (tall : placement.sprite.length ≤ height) {row column : Nat}
    (rowInside : row < height) (columnInside : column < width) :
    (screen.draw placement.x placement.y placement.sprite).pixel row column =
      (screen.pixel row column ^^ decide ((row, column) ∈ placement.cells width height)) := by
  rw [pixel_eq_getElem _ rowInside columnInside, pixel_eq_getElem _ rowInside columnInside]
  rcases draw_cases screen regular tall rowInside with
    ⟨line, member, aimed, written⟩ | ⟨missed, kept⟩
  · have flipped : (row, column) ∈ placement.cells width height ↔
        column ∈ placement.columns width line.1 := by
      rw [Placement.mem_cells]
      constructor
      · rintro ⟨other, otherMember, same, isColumn⟩
        rw [← Placement.lines_apart tall other otherMember line member (same.trans aimed.symm)]
        exact isColumn
      · exact fun isColumn => ⟨line, member, aimed, isColumn⟩
    rw [written, aimed, row_eq_getElem screen rowInside,
      overlay_getElem regular wide _ _ columnInside]
    simp only [flipped]
  · have dark : (row, column) ∉ placement.cells width height := by
      rw [Placement.mem_cells]
      rintro ⟨line, member, aimed, -⟩
      exact missed line member aimed
    rw [decide_eq_false dark, Bool.xor_false]
    exact congrArg (fun cells : Vector Bool width => cells[column]) kept

end Framebuffer

end ChipEight
