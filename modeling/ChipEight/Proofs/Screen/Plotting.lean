import ChipEight.Proofs.Screen.History
import Mathlib.Algebra.BigOperators.Group.Finset.Piecewise
import Mathlib.Algebra.BigOperators.Group.Finset.Sigma

/-!
# Drawing bit by bit

The instruction set describes a drawing as a loop over the bits of the sprite.  A lit bit
flips its cell on the screen as it is by then, and where that turns a lit cell dark a flag
is raised, which stays up (`Framebuffer.plot`).

A drawing reads the screen once and writes it once.  That comes to the same because no two
bits of a sprite with room on the screen fall on one cell: every cell the loop comes to is
still as it was before the drawing.  So the loop is a fold of flips over distinct cells, and
cell by cell it leaves what `Framebuffer.pixel_draw` says of a drawing.  The number of lit
cells follows from counting the cells that were lit before and those under the sprite.
-/

namespace ChipEight

namespace Framebuffer

open Finset (range)

variable {width height : Nat} {placement : Placement}

/-! ## The loop -/

/-- Flip a cell, given by row and column. -/
def flip (screen : Framebuffer width height) (cell : Nat × Nat) : Framebuffer width height :=
  ⟨screen.rows.setIfInBounds cell.1
    ((screen.row cell.1).setIfInBounds cell.2 !screen.pixel cell.1 cell.2)⟩

/-- Flip a cell, and raise the flag if it was lit. -/
def plotCell (progress : Framebuffer width height × Bool) (cell : Nat × Nat) :
    Framebuffer width height × Bool :=
  (progress.1.flip cell, progress.2 || progress.1.pixel cell.1 cell.2)

/-- Go through the bits of a sprite row from the left. -/
def plotRow (placement : Placement) (progress : Framebuffer width height × Bool)
    (line : UInt8 × Nat) : Framebuffer width height × Bool :=
  (List.range spriteWidth).foldl
    (fun progress (offset : Nat) =>
      if spriteBit line.1 offset then
        plotCell progress
          (around height (placement.y + line.2), around width (placement.x + offset))
      else progress)
    progress

/-- Go through the rows of a sprite from the top, with the flag down at first. -/
def plot (screen : Framebuffer width height) (placement : Placement) :
    Framebuffer width height × Bool :=
  placement.sprite.zipIdx.foldl (plotRow placement) (screen, false)

/-- The loop comes to the cells under the lit bits, and to nothing else. -/
theorem plot_eq_foldl (screen : Framebuffer width height) (placement : Placement) :
    screen.plot placement =
      (placement.cells width height).foldl plotCell (screen, false) := by
  rw [Placement.cells, List.foldl_flatMap]
  simp only [Placement.columns, List.foldl_map, List.foldl_filter]
  rfl

/-! ## Flips of distinct cells -/

theorem pixel_flip (screen : Framebuffer width height) (flipped : Nat × Nat) {cell : Nat × Nat}
    (inside : Inside width height cell) :
    (screen.flip flipped).pixel cell.1 cell.2 =
      (screen.pixel cell.1 cell.2 ^^ decide (cell = flipped)) := by
  obtain ⟨row, column⟩ := cell
  obtain ⟨rowInside, columnInside⟩ := inside
  rw [pixel_eq_getElem _ rowInside columnInside, pixel_eq_getElem _ rowInside columnInside]
  by_cases sameRow : flipped.1 = row
  · by_cases sameColumn : flipped.2 = column
    · subst sameRow sameColumn
      simp [flip, pixel_eq_getElem, row_eq_getElem, rowInside, columnInside]
    · have other : (row, column) ≠ flipped := fun same => sameColumn (same ▸ rfl)
      subst sameRow
      simp [flip, row_eq_getElem, rowInside, sameColumn, other]
  · have other : (row, column) ≠ flipped := fun same => sameRow (same ▸ rfl)
    simp [flip, sameRow, other]

/-- A flip elsewhere leaves a cell as it was. -/
theorem pixel_flip_of_ne (screen : Framebuffer width height) {flipped cell : Nat × Nat}
    (inside : Inside width height cell) (other : cell ≠ flipped) :
    (screen.flip flipped).pixel cell.1 cell.2 = screen.pixel cell.1 cell.2 := by
  rw [pixel_flip screen flipped inside, decide_eq_false other, Bool.xor_false]

/-- After flips of distinct cells, those cells and no others are flipped. -/
theorem pixel_foldl_plotCell {cells : List (Nat × Nat)} (distinct : cells.Nodup)
    (progress : Framebuffer width height × Bool) {cell : Nat × Nat}
    (inside : Inside width height cell) :
    (cells.foldl plotCell progress).1.pixel cell.1 cell.2 =
      (progress.1.pixel cell.1 cell.2 ^^ decide (cell ∈ cells)) := by
  induction cells generalizing progress with
  | nil => simp
  | cons first rest ih =>
    obtain ⟨absent, distinctRest⟩ := List.nodup_cons.mp distinct
    rw [List.foldl_cons, ih distinctRest, plotCell, pixel_flip progress.1 first inside]
    by_cases same : cell = first
    · subst same
      simp [absent]
    · simp [same]

/-- The flag is raised by the first cell that is lit.  Since no cell comes twice, every cell
is found as it was at first. -/
theorem flag_foldl_plotCell {cells : List (Nat × Nat)} (distinct : cells.Nodup)
    (inside : ∀ cell ∈ cells, Inside width height cell)
    (progress : Framebuffer width height × Bool) :
    (cells.foldl plotCell progress).2 ↔
      progress.2 ∨ ∃ cell ∈ cells, progress.1.pixel cell.1 cell.2 := by
  induction cells generalizing progress with
  | nil => simp
  | cons first rest ih =>
    obtain ⟨absent, distinctRest⟩ := List.nodup_cons.mp distinct
    obtain ⟨firstInside, restInside⟩ := List.forall_mem_cons.mp inside
    have kept : (∃ cell ∈ rest, (progress.1.flip first).pixel cell.1 cell.2) ↔
        ∃ cell ∈ rest, progress.1.pixel cell.1 cell.2 := by
      apply exists_congr
      intro cell
      apply and_congr_right
      intro member
      have other : cell ≠ first := fun same => absent (same ▸ member)
      rw [pixel_flip_of_ne progress.1 (restInside cell member) other]
    rw [List.foldl_cons, ih distinctRest restInside, plotCell, kept, List.exists_mem_cons_iff,
      Bool.or_eq_true, or_assoc]

/-! ## The drawing and the loop -/

/-- A drawing collides if one of the cells under its lit bits is lit. -/
theorem collides_iff (screen : Framebuffer width height)
    (regular : placement.Regular width height) :
    screen.collides placement.x placement.y placement.sprite ↔
      ∃ cell ∈ placement.cells width height, screen.pixel cell.1 cell.2 := by
  simp only [collides, List.any_eq_true, Bool.and_eq_true]
  constructor
  · rintro ⟨line, member, offset, small, lit, found⟩
    rw [wrap_eq_around regular.wordY regular.rows (Placement.index_lt_of_mem member),
      wrap_eq_around regular.wordX regular.columns (List.mem_range.mp small)] at found
    exact ⟨_, Placement.mem_cells.mpr ⟨line, member, rfl, Placement.mem_columns.mpr
      ⟨offset, List.mem_range.mp small, lit, rfl⟩⟩, found⟩
  · rintro ⟨⟨row, column⟩, member, found⟩
    obtain ⟨line, lineMember, rfl, isColumn⟩ := Placement.mem_cells.mp member
    obtain ⟨offset, small, lit, rfl⟩ := Placement.mem_columns.mp isColumn
    refine ⟨line, lineMember, offset, List.mem_range.mpr small, lit, ?_⟩
    rw [wrap_eq_around regular.wordY regular.rows (Placement.index_lt_of_mem lineMember),
      wrap_eq_around regular.wordX regular.columns small]
    exact found

/-- A sprite with room on the screen is drawn as the loop draws it. -/
theorem draw_eq_plot (screen : Framebuffer width height)
    (regular : placement.Regular width height) (wide : spriteWidth ≤ width)
    (tall : placement.sprite.length ≤ height) (positive : 0 < height) :
    (screen.draw placement.x placement.y placement.sprite,
      screen.collides placement.x placement.y placement.sprite) = screen.plot placement := by
  have distinct := Placement.nodup_cells wide tall
  rw [plot_eq_foldl]
  apply Prod.ext
  · apply ext_pixel
    intro row rowInside column columnInside
    have inside : Inside width height (row, column) := ⟨rowInside, columnInside⟩
    rw [pixel_draw screen regular wide tall rowInside columnInside]
    exact (pixel_foldl_plotCell distinct (screen, false) inside).symm
  · rw [Bool.eq_iff_iff, collides_iff screen regular,
      flag_foldl_plotCell distinct (placement.inside_cells wide positive)]
    simp

/-! ## Counting lit cells -/

/-- The lit cells. -/
def lit (screen : Framebuffer width height) : Finset (Nat × Nat) :=
  (range height ×ˢ range width).filter fun cell => screen.pixel cell.1 cell.2

theorem mem_lit {screen : Framebuffer width height} {cell : Nat × Nat} :
    cell ∈ screen.lit ↔ Inside width height cell ∧ screen.pixel cell.1 cell.2 := by
  simp [lit, Inside]

/-- A quantity summed up over the entries of a vector. -/
theorem foldl_add_eq_sum {α : Type} {size : Nat} (entries : Vector α size) (default : α)
    (amount : α → Nat) :
    entries.foldl (fun total entry => total + amount entry) 0 =
      ∑ index ∈ range size, amount (entries[index]?.getD default) := by
  have entries_eq : entries.toList =
      (List.range size).map fun (index : Nat) => entries[index]?.getD default := by
    apply List.ext_getElem
    · simp
    · intro index inEntries inRange
      have small : index < size := by simpa using inEntries
      simp [small]
  rw [← Vector.foldl_toList, ← List.foldl_map, ← List.sum_eq_foldl, entries_eq, List.map_map]
  rfl

theorem count_true_eq_foldl (cells : Vector Bool width) :
    cells.count true = cells.foldl (fun total lit => total + lit.toNat) 0 := by
  have sum_eq (entries : List Bool) : entries.count true = (entries.map Bool.toNat).sum := by
    induction entries with
    | nil => rfl
    | cons first rest ih =>
      rw [List.count_cons, List.map_cons, List.sum_cons, ih, Nat.add_comm]
      cases first <;> rfl
  rw [← Vector.count_toList, sum_eq, ← Vector.foldl_toList, List.sum_eq_foldl, List.foldl_map]

/-- The lit cells counted row by row. -/
theorem card_lit (screen : Framebuffer width height) : screen.lit.card = screen.litCount := by
  rw [lit, Finset.card_filter, Finset.sum_product, litCount,
    foldl_add_eq_sum _ (Vector.replicate width false)]
  apply Finset.sum_congr rfl
  intro row _
  rw [count_true_eq_foldl, foldl_add_eq_sum _ false]
  apply Finset.sum_congr rfl
  intro column _
  change _ = (screen.pixel row column).toNat
  cases screen.pixel row column <;> rfl

/-- Each flipped cell adds one to the lit cells, and takes two off again if it was lit. -/
theorem litCount_of_flipped {screen after : Framebuffer width height} {cells : List (Nat × Nat)}
    (distinct : cells.Nodup) (inside : ∀ cell ∈ cells, Inside width height cell)
    (flipped : ∀ cell, Inside width height cell →
      after.pixel cell.1 cell.2 = (screen.pixel cell.1 cell.2 ^^ decide (cell ∈ cells))) :
    after.litCount + 2 * (screen.lit \ after.lit).card = screen.litCount + cells.length := by
  have after_eq : after.lit = (screen.lit \ cells.toFinset) ∪ (cells.toFinset \ screen.lit) := by
    ext cell
    have cellInside := inside cell
    have cellFlipped := flipped cell
    simp only [mem_lit, Finset.mem_union, Finset.mem_sdiff, List.mem_toFinset]
    grind
  have off_eq : screen.lit \ after.lit = screen.lit ∩ cells.toFinset := by
    rw [after_eq]
    ext cell
    simp only [Finset.mem_sdiff, Finset.mem_union, Finset.mem_inter]
    tauto
  have before := Finset.card_sdiff_add_card_inter screen.lit cells.toFinset
  have under := Finset.card_sdiff_add_card_inter cells.toFinset screen.lit
  rw [Finset.inter_comm] at under
  rw [off_eq, ← card_lit, ← card_lit, ← List.toFinset_card_of_nodup distinct, after_eq,
    Finset.card_union_of_disjoint disjoint_sdiff_sdiff]
  omega

end Framebuffer

namespace Placement

/-- The number of lit bits of a sprite. -/
def bits (placement : Placement) : Nat :=
  (placement.sprite.map fun byte =>
    (List.range spriteWidth).countP (Framebuffer.spriteBit byte)).sum

theorem length_cells (width height : Nat) (placement : Placement) :
    (placement.cells width height).length = placement.bits := by
  have sprite_eq : placement.sprite = placement.sprite.zipIdx.map Prod.fst := by
    rw [List.zipIdx_map_fst]
  rw [bits, sprite_eq, List.map_map, cells, List.length_flatMap]
  simp only [columns, List.length_map, ← List.countP_eq_length_filter, Function.comp_def]

/-- Where an axis divides the number of words, nothing depends on where these run out. -/
theorem regular_of_dvd {width height : Nat} {placement : Placement}
    (wordX : Bounds.isWord placement.x) (wordY : Bounds.isWord placement.y)
    (columns : width ∣ 0x10000000000000000) (rows : height ∣ 0x10000000000000000) :
    placement.Regular width height :=
  ⟨wordX, wordY, .inr columns, .inr rows⟩

end Placement

namespace Framebuffer

variable {width height : Nat} {placement : Placement}

theorem pixel_plot (screen : Framebuffer width height) (wide : spriteWidth ≤ width)
    (tall : placement.sprite.length ≤ height) {cell : Nat × Nat}
    (inside : Inside width height cell) :
    (screen.plot placement).1.pixel cell.1 cell.2 =
      (screen.pixel cell.1 cell.2 ^^ decide (cell ∈ placement.cells width height)) := by
  rw [plot_eq_foldl]
  exact pixel_foldl_plotCell (Placement.nodup_cells wide tall) (screen, false) inside

/-- The flag tells whether a cell was lit before the loop and is dark after it. -/
theorem flag_plot_iff (screen : Framebuffer width height) (wide : spriteWidth ≤ width)
    (tall : placement.sprite.length ≤ height) (positive : 0 < height) :
    (screen.plot placement).2 ↔ ∃ cell ∈ screen.lit, cell ∉ (screen.plot placement).1.lit := by
  have inside := placement.inside_cells wide positive
  have raised : (screen.plot placement).2 ↔
      ∃ cell ∈ placement.cells width height, screen.pixel cell.1 cell.2 := by
    rw [plot_eq_foldl, flag_foldl_plotCell (Placement.nodup_cells wide tall) inside]
    simp
  rw [raised]
  constructor
  · rintro ⟨cell, member, found⟩
    have after := pixel_plot screen wide tall (inside cell member)
    refine ⟨cell, mem_lit.mpr ⟨inside cell member, found⟩, fun stillLit => ?_⟩
    rw [found, decide_eq_true member, (mem_lit.mp stillLit).2] at after
    contradiction
  · rintro ⟨cell, wasLit, isDark⟩
    obtain ⟨cellInside, found⟩ := mem_lit.mp wasLit
    have after := pixel_plot screen wide tall cellInside
    refine ⟨cell, ?_, found⟩
    by_contra absent
    rw [found, decide_eq_false absent] at after
    exact isDark (mem_lit.mpr ⟨cellInside, after⟩)

theorem litCount_plot (screen : Framebuffer width height) (wide : spriteWidth ≤ width)
    (tall : placement.sprite.length ≤ height) (positive : 0 < height) :
    (screen.plot placement).1.litCount +
        2 * (screen.lit \ (screen.plot placement).1.lit).card =
      screen.litCount + placement.bits := by
  rw [← Placement.length_cells width height]
  exact litCount_of_flipped (Placement.nodup_cells wide tall)
    (placement.inside_cells wide positive) fun cell inside => pixel_plot screen wide tall inside

/-! ## Placing a sprite -/

/-- A sprite that may be placed is placed as the loop draws it. -/
theorem place_eq_plot (screen : Framebuffer width height)
    (regular : placement.sprite ≠ [] → placement.Regular width height)
    (wide : spriteWidth ≤ width) (tall : placement.sprite.length ≤ height)
    (positive : 0 < height) :
    screen.place placement.x placement.y placement.sprite = .ok (screen.plot placement) := by
  obtain ⟨x, y, sprite⟩ := placement
  cases sprite with
  | nil => rfl
  | cons first rest =>
    have regular := regular (List.cons_ne_nil first rest)
    rw [← draw_eq_plot screen regular wide tall positive, place, regular.wordX, regular.wordY]
    rfl

/-- A sprite with something to draw is refused where a coordinate is no word. -/
theorem place_of_not_isWord (screen : Framebuffer width height) {x y : Int}
    {sprite : List UInt8} (something : sprite ≠ [])
    (noWord : ¬ (Bounds.isWord x ∧ Bounds.isWord y)) :
    screen.place x y sprite = .error .word := by
  have notEmpty : ¬ sprite.isEmpty := fun empty => something (List.isEmpty_iff.mp empty)
  have noWords : ¬ (Bounds.isWord x && Bounds.isWord y) := by
    rwa [Bool.and_eq_true]
  rw [place, if_neg notEmpty, if_neg noWords]

/-- On a screen ten cells wide a sprite at the last word is torn, its second bit falling on
column two and not on column eight; and past the last word nothing is drawn. -/
theorem torn_at_last_word :
    let screen : Framebuffer 10 15 := blank
    screen.place 0x7FFFFFFFFFFFFFFF 0 [0xC0] ≠
        .ok (screen.plot ⟨0x7FFFFFFFFFFFFFFF, 0, [0xC0]⟩) ∧
      screen.place 0x8000000000000000 0 [0x80] ≠
        .ok (screen.plot ⟨0x8000000000000000, 0, [0x80]⟩) := by
  intro screen
  constructor
  · intro same
    have drawn : (screen.draw 0x7FFFFFFFFFFFFFFF 0 [0xC0]).pixel 0 2 =
        (screen.plot ⟨0x7FFFFFFFFFFFFFFF, 0, [0xC0]⟩).1.pixel 0 2 :=
      congrArg (·.1.pixel 0 2) (Except.ok.inj same)
    revert drawn
    decide +kernel
  · have refused : screen.place 0x8000000000000000 0 [0x80] = .error .word :=
      screen.place_of_not_isWord (by decide) (by decide)
    rw [refused]
    exact fun same => nomatch same

end Framebuffer

/-! ## The instruction -/

namespace Machine

variable {width height : Nat} {machine : Machine width height}

theorem length_drawing (x y : Register) (rows : Fin 16) :
    (machine.drawing x y rows).sprite.length = rows.val := by
  rw [drawing, List.length_map, List.length_range]

/-- A machine that executes a drawing runs the loop at the coordinates that the registers
held before, then sets the flag register, and leaves the other registers alone. -/
theorem step_plots {x y : Register} {rows : Fin 16} {word : Span 2} {sprite : Span rows.val}
    (idle : machine.wait = none) (fetched : Span.at? machine.pc 2 = some word)
    (decoded : machine.instructionAt word = .draw x y rows)
    (located : Span.at? machine.index rows.val = some sprite) (wide : spriteWidth ≤ width)
    (tall : rows.val ≤ height) (positive : 0 < height) :
    let plotted := machine.screen.plot (machine.drawing x y rows).placement
    machine.step.outcome = .ok (some (.draw x y rows)) ∧
      machine.step.machine.screen = plotted.1 ∧
      machine.step.machine.registers =
        machine.registers.set Register.flag (if plotted.2 then 1 else 0) := by
  intro plotted
  have short : (machine.drawing x y rows).sprite.length < 16 := by
    rw [length_drawing]
    exact rows.isLt
  have drawn := machine.screen.draw_eq_plot (Drawing.regular_placement short) wide
    ((length_drawing x y rows).le.trans tall) positive
  have sprite_eq : (machine.bytes sprite).toList = (machine.drawing x y rows).placement.sprite :=
    bytes_eq_sprite (x := x) (y := y) located
  rw [← sprite_eq] at drawn
  have executed : (machine.fetch word).effect (machine.instructionAt word) =
      .ok ({ (machine.fetch word).advance with screen := plotted.1 }.setFlag
        plotted.2.toUInt8) := by
    have found : Span.at? (machine.fetch word).index rows.val = some sprite := located
    rw [decoded, effect, within, found]
    simp only [plotted, ← drawn]
    rfl
  rw [machine.step_of_effect idle fetched executed, decoded]
  refine ⟨rfl, rfl, ?_⟩
  cases plotted.2 <;> rfl

/-- Drawing a sprite with room on the screen is the loop over its bits, for the screen and
for the flag, where the coordinates are words and those under the sprite keep step with the
screen.  The flag is up exactly if a cell was lit and is dark afterwards.  Each lit bit adds
a lit cell, and each cell that went dark takes two off.  Other coordinates are refused if
there is anything to draw.  The drawing instruction always has room; it takes the
coordinates from the registers as they were before the flag was written, and writes the flag
as one or zero. -/
theorem draws_bit_by_bit (size : ScreenSize) :
    (∀ (screen : Framebuffer size.width size.height) (placement : Placement),
      placement.sprite.length ≤ size.height →
      (placement.sprite ≠ [] → placement.Regular size.width size.height) →
        let plotted := screen.plot placement
        screen.place placement.x placement.y placement.sprite = .ok plotted ∧
          (plotted.2 ↔ ∃ cell ∈ screen.lit, cell ∉ plotted.1.lit) ∧
          plotted.1.litCount + 2 * (screen.lit \ plotted.1.lit).card =
            screen.litCount + placement.bits) ∧
    (∀ (screen : Framebuffer size.width size.height) (placement : Placement),
      placement.sprite ≠ [] → ¬ (Bounds.isWord placement.x ∧ Bounds.isWord placement.y) →
        screen.place placement.x placement.y placement.sprite = .error .word) ∧
    ∀ (machine : Machine size.width size.height) (x y : Register) (rows : Fin 16)
      (word : Span 2) (sprite : Span rows.val),
      machine.wait = none → Span.at? machine.pc 2 = some word →
      machine.instructionAt word = .draw x y rows →
      Span.at? machine.index rows.val = some sprite →
        let drawing := machine.drawing x y rows
        let plotted := machine.screen.plot drawing.placement
        drawing.sprite.length ≤ size.height ∧
          machine.step.outcome = .ok (some (.draw x y rows)) ∧
          machine.step.machine.screen = plotted.1 ∧
          machine.step.machine.registers =
            machine.registers.set Register.flag (if plotted.2 then 1 else 0) := by
  have positive : 0 < size.height := Nat.lt_of_lt_of_le (by decide) size.tall
  refine ⟨?_, ?_, ?_⟩
  · intro screen placement tall regular
    exact ⟨screen.place_eq_plot regular size.wide tall positive,
      screen.flag_plot_iff size.wide tall positive, screen.litCount_plot size.wide tall positive⟩
  · intro screen placement something noWord
    exact screen.place_of_not_isWord something noWord
  · intro machine x y rows word sprite idle fetched decoded located
    have tall : rows.val ≤ size.height := (Nat.le_of_lt_succ rows.isLt).trans size.tall
    exact ⟨(length_drawing x y rows).le.trans tall,
      step_plots idle fetched decoded located size.wide tall positive⟩

/-- A machine about to draw one row of eight cells across the right edge, at the column in
the flag register. -/
def acrossEdge : Machine 64 32 :=
  { (powerOn .reference (.cycle #[])).setFlag 60 with
    memory := Vector.ofFn fun place =>
      if place.val = programStart then 0xDF
      else if place.val = programStart + 1 then 0x01
      else 0xFF }

theorem acrossEdge_decodes :
    acrossEdge.instructionAt ⟨programStart, by decide⟩ = .draw 15 0 1 := by
  have word_eq : acrossEdge.wordAt ⟨programStart, by decide⟩ = 0xDF01 := by
    simp [wordAt, bytes, Span.read, Span.place, acrossEdge, Word.ofBytes]
  rw [instructionAt, word_eq]
  decide

/-- The same sprite placed from outside, with all its bits lit, on a screen that is lit at
the other end of the row. -/
theorem acrossEdge_draws :
    let screen : Framebuffer 64 32 := Framebuffer.blank.draw 0 0 [0x80]
    let placement : Placement := ⟨60, 0, [0xFF]⟩
    placement.sprite.length ≤ 32 ∧ placement.Regular 64 32 ∧
      screen.place 60 0 [0xFF] = .ok (screen.plot placement) ∧
      (screen.place 0x8000000000000000 0 [0xFF] = .error .word) ∧
      acrossEdge.step.machine.screen =
        (acrossEdge.screen.plot (acrossEdge.drawing 15 0 1).placement).1 := by
  intro screen placement
  have agrees := draws_bit_by_bit ⟨64, 32, by decide, by decide⟩
  have regular : placement.Regular 64 32 :=
    Placement.regular_of_dvd (by decide) (by decide) (by decide) (by decide)
  have idle : acrossEdge.wait = none := rfl
  have fetched : Span.at? acrossEdge.pc 2 = some ⟨programStart, by decide⟩ :=
    Span.at?_eq_some_iff.mpr rfl
  have located : Span.at? acrossEdge.index (1 : Fin 16).val = some ⟨0, by decide⟩ :=
    Span.at?_eq_some_iff.mpr rfl
  have placed := (agrees.1 screen placement (by decide) fun _ => regular).1
  have refused := agrees.2.1 screen ⟨0x8000000000000000, 0, [0xFF]⟩ (by decide) (by decide)
  have drawn := (agrees.2.2 acrossEdge 15 0 1 _ _ idle fetched acrossEdge_decodes located).2.2.1
  -- The dimensions are fields of a literal; reduce these, lest the step be evaluated.
  dsimp only at drawn
  exact ⟨by decide, regular, placed, refused, drawn⟩

end Machine

end ChipEight
