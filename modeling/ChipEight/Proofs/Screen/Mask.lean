import ChipEight.Proofs.Screen.Placement
import Mathlib.Data.List.Perm.Basic

/-!
# Drawings as masks

To draw a sprite is to lay a mask over the screen: the cells that the mask lights are
flipped, and the mask is what the drawing leaves on a dark screen
(`Framebuffer.draw_eq_lay`).  Which cells these are does not depend on the screen, not even
where several bits of a sprite meet on one cell.  That happens to a sprite taller than the
screen, and to one that begins at the last words; the last of the bits decides, on every
screen alike.

Masks can be laid in any order, and one laid twice is gone.  So sprites placed in any order
leave the same screen, and placing them all once more brings back the screen from before
(`Framebuffer.placements_cancel`).
-/

namespace ChipEight

namespace Framebuffer

variable {width height : Nat}

/-! ## Laying masks -/

/-- A row of cells, flipped where a mask is lit. -/
def layRow (cells mask : Vector Bool width) : Vector Bool width :=
  Vector.zipWith (· ^^ ·) cells mask

/-- A screen, flipped where a mask is lit. -/
def lay (screen mask : Framebuffer width height) : Framebuffer width height :=
  ⟨Vector.zipWith layRow screen.rows mask.rows⟩

@[simp]
theorem getElem_layRow (cells mask : Vector Bool width) {column : Nat} (inside : column < width) :
    (layRow cells mask)[column] = (cells[column] ^^ mask[column]) :=
  Vector.getElem_zipWith inside

@[simp]
theorem getElem_lay (screen mask : Framebuffer width height) {row : Nat} (inside : row < height) :
    (screen.lay mask).rows[row] = layRow screen.rows[row] mask.rows[row] :=
  Vector.getElem_zipWith inside

theorem lay_blank (screen : Framebuffer width height) : screen.lay blank = screen := by
  refine ext_rows fun row rowInside => Vector.ext fun column columnInside => ?_
  simp [blank]

/-- Masks can be laid in any order. -/
theorem lay_right_comm (screen first second : Framebuffer width height) :
    (screen.lay first).lay second = (screen.lay second).lay first := by
  refine ext_rows fun row rowInside => Vector.ext fun column columnInside => ?_
  simp only [getElem_lay, getElem_layRow]
  exact Bool.xor_right_comm _ _ _

/-- A mask laid twice is gone. -/
theorem lay_lay_self (screen mask : Framebuffer width height) :
    (screen.lay mask).lay mask = screen := by
  refine ext_rows fun row rowInside => Vector.ext fun column columnInside => ?_
  simp

/-! ## Drawing lays a mask -/

/-- Laying a mask over a row and a sprite row over both is the same as laying the sprite
row over the mask first. -/
theorem overlay_layRow (cells mask : Vector Bool width) (x : Int) (byte : UInt8) :
    overlay (layRow cells mask) x byte = layRow cells (overlay mask x byte) := by
  unfold overlay
  refine List.foldl_hom (layRow cells) fun result offset => ?_
  refine Vector.ext fun column inside => ?_
  by_cases aimed : wrap width (x + offset) = column
  · subst aimed
    simp [inside]
  · simp [aimed]

/-- So it is with masks laid over the whole screen. -/
theorem draw_lay (screen mask : Framebuffer width height) (x y : Int) (sprite : List UInt8) :
    (screen.lay mask).draw x y sprite = screen.lay (mask.draw x y sprite) := by
  refine congrArg mk (List.foldl_hom (Vector.zipWith layRow screen.rows) fun rows line => ?_)
  refine Vector.ext fun row inside => ?_
  by_cases aimed : wrap height (y + line.2) = row
  · subst aimed
    simp [inside, row_eq_getElem, overlay_layRow]
  · simp [aimed]

/-- To draw a sprite is to lay what it leaves on a dark screen. -/
theorem draw_eq_lay (screen : Framebuffer width height) (x y : Int) (sprite : List UInt8) :
    screen.draw x y sprite = screen.lay (blank.draw x y sprite) := by
  rw [← draw_lay, lay_blank]

/-! ## Placing one sprite after the other -/

/-- The screen after a sprite has been placed.  A refused placement leaves it as it was. -/
def receive (screen : Framebuffer width height) (placement : Placement) :
    Framebuffer width height :=
  match screen.place placement.x placement.y placement.sprite with
  | .ok (drawn, _) => drawn
  | .error _ => screen

/-- The screen after sprites have been placed one after the other. -/
def receiveAll (screen : Framebuffer width height) (placements : List Placement) :
    Framebuffer width height :=
  placements.foldl receive screen

/-- Place sprites one after the other, up to the first one that is refused. -/
def placeAll (screen : Framebuffer width height) (placements : List Placement) :
    Except TooLarge (Framebuffer width height) :=
  placements.foldlM (fun screen placement =>
    (screen.place placement.x placement.y placement.sprite).map (·.1)) screen

/-- Every placement lays a mask, a refused one the dark mask. -/
theorem receive_eq_lay (screen : Framebuffer width height) (placement : Placement) :
    screen.receive placement = screen.lay (blank.receive placement) := by
  unfold receive place
  by_cases empty : placement.sprite.isEmpty
  · simp only [empty, if_true]
    exact screen.lay_blank.symm
  · by_cases words : Bounds.isWord placement.x && Bounds.isWord placement.y
    · simp only [empty, words, if_true]
      exact screen.draw_eq_lay placement.x placement.y placement.sprite
    · simp only [empty, words]
      exact screen.lay_blank.symm

theorem receive_comm (screen : Framebuffer width height) (first second : Placement) :
    (screen.receive first).receive second = (screen.receive second).receive first := by
  rw [receive_eq_lay (screen.receive first), receive_eq_lay screen first, lay_right_comm,
    ← receive_eq_lay screen second, ← receive_eq_lay]

theorem receive_receive (screen : Framebuffer width height) (placement : Placement) :
    (screen.receive placement).receive placement = screen := by
  rw [receive_eq_lay (screen.receive placement), receive_eq_lay screen, lay_lay_self]

/-- The order of placements does not matter. -/
theorem receiveAll_perm (screen : Framebuffer width height) {placements others : List Placement}
    (perm : placements.Perm others) : screen.receiveAll placements = screen.receiveAll others :=
  perm.foldl_eq' (fun first _ second _ screen => screen.receive_comm first second) screen

/-- Placements made again, the last one first, undo each other. -/
theorem receiveAll_reverse (screen : Framebuffer width height) (placements : List Placement) :
    (screen.receiveAll placements).receiveAll placements.reverse = screen := by
  induction placements generalizing screen with
  | nil => rfl
  | cons first rest ih =>
    have undone := ih (screen.receive first)
    rw [receiveAll, List.reverse_cons, List.foldl_append]
    exact (congrArg (receive · first) undone).trans (screen.receive_receive first)

/-! ## Placing until one is refused -/

/-- Whether a placement is accepted.  It is not up to the screen. -/
def accepts (placement : Placement) : Bool :=
  placement.sprite.isEmpty || (Bounds.isWord placement.x && Bounds.isWord placement.y)

theorem place_map (screen : Framebuffer width height) (placement : Placement) :
    (screen.place placement.x placement.y placement.sprite).map (·.1) =
      if accepts placement then .ok (screen.receive placement) else .error .word := by
  unfold receive place accepts
  by_cases empty : placement.sprite.isEmpty
  · simp only [empty, Bool.true_or, if_true]
    rfl
  · by_cases words : Bounds.isWord placement.x && Bounds.isWord placement.y
    · simp only [empty, words, Bool.or_true, if_true]
      rfl
    · simp only [empty, words]
      rfl

theorem placeAll_eq (screen : Framebuffer width height) (placements : List Placement) :
    screen.placeAll placements =
      if placements.all accepts then .ok (screen.receiveAll placements) else .error .word := by
  induction placements generalizing screen with
  | nil => rfl
  | cons first rest ih =>
    rw [placeAll, List.foldlM_cons, place_map, List.all_cons]
    cases accepted : accepts first with
    | false => rfl
    | true => exact ih (screen.receive first)

/-- Sprites placed in any order leave the same screen, and placing them all once more, in
any order, brings back the screen from before; in particular each placement undoes itself.
A refused placement changes nothing.  If no placement is refused, then none is when they
are made in another order or made again. -/
theorem placements_cancel (size : ScreenSize) (screen : Framebuffer size.width size.height)
    {placements others : List Placement} (perm : placements.Perm others) :
    screen.receiveAll others = screen.receiveAll placements ∧
      (screen.receiveAll placements).receiveAll others = screen ∧
      (∀ placement, (screen.receive placement).receive placement = screen) ∧
      ∀ drawn, screen.placeAll placements = .ok drawn →
        screen.placeAll others = .ok drawn ∧ drawn.placeAll others = .ok screen := by
  have undone : (screen.receiveAll placements).receiveAll others = screen := by
    rw [← receiveAll_perm _ (placements.reverse_perm.trans perm), receiveAll_reverse]
  refine ⟨(screen.receiveAll_perm perm).symm, undone, screen.receive_receive, ?_⟩
  intro drawn placed
  have accepted : others.all accepts = placements.all accepts := perm.all_eq.symm
  rw [placeAll_eq] at placed
  split at placed
  · rename_i all_accepted
    cases placed
    rw [placeAll_eq, placeAll_eq, accepted, if_pos all_accepted, if_pos all_accepted, undone,
      screen.receiveAll_perm perm]
    exact ⟨rfl, rfl⟩
  · contradiction

/-- Two sprites on the usual screen: one that crosses its right edge, and one that is
taller than it and lies over the first. -/
def overlapping : List Placement :=
  [⟨60, -3, [0xFF, 0x81]⟩, ⟨-2, 30, List.replicate 40 0xA5⟩]

/-- A screen with something on it. -/
def underneath : Framebuffer 64 32 :=
  blank.draw 0 0 [0xF0, 0x90, 0x90, 0x90, 0xF0]

/-- Placed in one order and then in the other they leave no trace. -/
theorem overlapping_cancel :
    overlapping.Perm overlapping.reverse ∧
      (underneath.receiveAll overlapping).receiveAll overlapping.reverse = underneath :=
  have perm : overlapping.Perm overlapping.reverse := overlapping.reverse_perm.symm
  ⟨perm, (placements_cancel ⟨64, 32, by decide, by decide⟩ underneath perm).2.1⟩

end Framebuffer

end ChipEight
