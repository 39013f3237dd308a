import ChipEight.Host.Window
import Mathlib.Algebra.Order.Group.Int
import Mathlib.Algebra.Order.Group.Unbundled.Abs
import Mathlib.Order.Bounds.Defs

/-!
# Where an image is painted

A window is painted in five calls: the image goes on the surface, the surface is scaled by a
whole factor, the window is darkened, and the scaled image is put in its middle and shown.  The
factor is the largest one that fits, where any does, and then nothing of the image is outside
of the window.  In a window that is too small for the screen the factor is one, and the image
reaches beyond the window as far on one side as on the other, to within a pixel
(`Window.paint_centres`).
-/

namespace ChipEight.Host

theorem Toolkit.toList_calls_logAll (toolkit : Toolkit) (calls : List Call) :
    (calls.foldl log toolkit).calls.toList = toolkit.calls.toList ++ calls := by
  induction calls generalizing toolkit with
  | nil => exact (List.append_nil _).symm
  | cons first rest ih =>
    rw [List.foldl_cons, ih, log, Array.toList_push, List.append_assoc]
    rfl

namespace Window

/-! ## The factor -/

/-- The factors by which a screen can be scaled so that it fits into a window. -/
def fitting (width height : Nat) (room : Int × Int) : Set Int :=
  { factor | factor * width ≤ room.1 ∧ factor * height ≤ room.2 }

variable {width height : Nat} {room : Int × Int}

theorem one_le_factor (width height : Nat) (room : Int × Int) : 1 ≤ factor width height room :=
  le_max_left _ _

theorem mem_fitting_iff (wide : 0 < width) (tall : 0 < height) {factor : Int} :
    factor ∈ fitting width height room ↔ factor ≤ min (room.1 / width) (room.2 / height) := by
  rw [Int.le_min, Int.le_ediv_iff_mul_le (Int.natCast_pos.mpr wide),
    Int.le_ediv_iff_mul_le (Int.natCast_pos.mpr tall)]
  rfl

/-- Where the screen fits as it is, the factor is the largest one at which it fits. -/
theorem isGreatest_factor (wide : 0 < width) (tall : 0 < height)
    (fits : 1 ∈ fitting width height room) :
    IsGreatest (fitting width height room) (factor width height room) := by
  have factor_eq : factor width height room = min (room.1 / width) (room.2 / height) :=
    Int.max_eq_right ((mem_fitting_iff wide tall).mp fits)
  rw [factor_eq]
  constructor
  · exact (mem_fitting_iff wide tall).mpr (Int.le_refl _)
  · intro other otherFits
    exact (mem_fitting_iff wide tall).mp otherFits

/-! ## The margins -/

/-- The margin before an image and the one behind it differ by a pixel at most. -/
theorem margins_even (room used : Int) :
    |room - (margin room used + used) - margin room used| ≤ 1 := by
  rw [margin, abs_le']
  omega

/-- An image that is not too large begins and ends in the window. -/
theorem margin_inside {room used : Int} (fits : used ≤ room) :
    0 ≤ margin room used ∧ margin room used + used ≤ room := by
  rw [margin]
  omega

/-! ## Painting -/

/-- An open window is painted if its picture has an image. -/
theorem paint_eq {window : Window} (toolkit : Toolkit) {image : List UInt8}
    (isOpen : window.isOpen = true) (wide : 0 < window.width) (tall : 0 < window.height)
    (imaged : window.shown.image window.lit window.dark = .ok image) :
    window.paint toolkit =
      ({ window with dirty := false },
        (paintCalls window.width window.height toolkit.windowSize window.shown image).foldl .log
          toolkit, .ok ()) := by
  have cells : ¬ (window.width = 0 ∨ window.height = 0) := by omega
  simp [paint, isOpen, cells, imaged]

/-- An open window whose picture has an image is painted by a factor of one at least.  Where the
screen fits into the window, the factor is the largest one at which it does, and the scaled
image begins and ends in the window.  In any window the margins on opposite sides differ by a
pixel at most. -/
theorem paint_centres {window : Window} (toolkit : Toolkit) {image : List UInt8}
    (isOpen : window.isOpen = true) (wide : 0 < window.width) (tall : 0 < window.height)
    (imaged : window.shown.image window.lit window.dark = .ok image) :
    let room := toolkit.windowSize
    ∃ factor left top : Int,
      let used := (window.width * factor, window.height * factor)
      (window.paint toolkit).2.2 = .ok () ∧
      (window.paint toolkit).2.1.calls.toList = toolkit.calls.toList ++
        [.pixels window.shown.width window.shown.height image, .scale used.1 used.2, .fill 0 0 0,
          .blit left top, .flip] ∧
      1 ≤ factor ∧
      (window.width ≤ room.1 → window.height ≤ room.2 →
        IsGreatest { factor : Int | factor * window.width ≤ room.1 ∧
          factor * window.height ≤ room.2 } factor ∧
        (0 ≤ left ∧ left + used.1 ≤ room.1) ∧ (0 ≤ top ∧ top + used.2 ≤ room.2)) ∧
      |room.1 - (left + used.1) - left| ≤ 1 ∧ |room.2 - (top + used.2) - top| ≤ 1 := by
  intro room
  let factor := factor window.width window.height room
  let used : Int × Int := (window.width * factor, window.height * factor)
  refine ⟨factor, margin room.1 used.1, margin room.2 used.2, ?_, ?_, one_le_factor _ _ _, ?_,
    margins_even _ _, margins_even _ _⟩
  · rw [paint_eq toolkit isOpen wide tall imaged]
  · rw [paint_eq toolkit isOpen wide tall imaged, Toolkit.toList_calls_logAll]
    rfl
  · intro wideEnough tallEnough
    have fits : 1 ∈ fitting window.width window.height room := by
      simp [fitting, wideEnough, tallEnough]
    have greatest := isGreatest_factor wide tall fits
    obtain ⟨across, down⟩ := greatest.1
    rw [Int.mul_comm] at across down
    exact ⟨greatest, margin_inside across, margin_inside down⟩

/-- A small window that is open, with a picture of which one cell is lit. -/
def small : Window where
  width := 3
  height := 2
  scale := 1
  lit := ⟨255, 255, 255⟩
  dark := ⟨0, 0, 0⟩
  fullscreen := false
  software := false
  keymap := .layout
  title := "Chip8"
  isOpen := true
  bindings := []
  frame := some ⟨3, 2, ⟨#v[#v[false, true, false], #v[false, false, false]]⟩⟩
  dirty := true

/-- Twice as large, the screen fits into a window of eight by nine pixels, with a pixel more
below it than above. -/
theorem small_centred :
    let toolkit : Toolkit := { resized := some (8, 9) }
    let image := [0, 0, 0, 0, 0, 0, 255, 255, 255, 0, 0, 0, 0, 0, 0, 0, 0, 0]
    (small.isOpen = true ∧ 0 < small.width ∧ 0 < small.height ∧
      small.shown.image small.lit small.dark = .ok image) ∧
    (small.paint toolkit).2.1.calls.toList =
      [.pixels 3 2 image, .scale 6 4, .fill 0 0 0, .blit 1 2, .flip] ∧
    IsGreatest { factor : Int | factor * 3 ≤ 8 ∧ factor * 2 ≤ 9 } 2 := by
  intro toolkit image
  have imaged : small.shown.image small.lit small.dark = .ok image := by decide +kernel
  have called : (small.paint toolkit).2.1.calls.toList =
      [.pixels 3 2 image, .scale 6 4, .fill 0 0 0, .blit 1 2, .flip] := by decide +kernel
  obtain ⟨factor, left, top, -, calls, -, largest, -⟩ :=
    paint_centres toolkit rfl (by decide) (by decide) imaged
  obtain ⟨greatest, -⟩ := largest (by decide) (by decide)
  rw [called] at calls
  have scaled := (List.cons.inj (List.cons.inj calls).2).1
  have across : 6 = 3 * factor := (Call.scale.inj scaled).1
  have twice : factor = 2 := by omega
  rw [twice] at greatest
  exact ⟨⟨rfl, by decide, by decide, imaged⟩, called, greatest⟩

end Window

end ChipEight.Host
