import ChipEight.Colour
import ChipEight.Proofs.Except
import ChipEight.Proofs.Machine.Memory

/-!
# The image of a picture

An image holds three bytes a pixel, one column after the other.  A picture has an image only
if it has rows and the components of both colours are bytes (`Picture.of_image`).  Then it has
one, and every pixel has the colour of the cell in its row and column (`Picture.exists_image`).
-/

namespace ChipEight

/-! ## Colours -/

namespace Colour

/-- Whether a colour can be painted with: its components are bytes. -/
def IsPaint (colour : Colour) : Prop :=
  ∀ component ∈ colour.components, 0 ≤ component ∧ component ≤ 255

instance (colour : Colour) : Decidable colour.IsPaint :=
  List.decidableBAll _ _

theorem byte_of_range {component : Int} (low : 0 ≤ component) (high : component ≤ 255) :
    byte component = .ok (UInt8.ofInt component) := by
  have isWord : Bounds.isWord component := Bounds.isWord_iff.mpr ⟨by omega, by omega⟩
  have inByte : ¬ (component < 0 ∨ 255 < component) := by omega
  simp [byte, isWord, inByte]

theorem range_of_byte {component : Int} {value : UInt8} (held : byte component = .ok value) :
    0 ≤ component ∧ component ≤ 255 := by
  rw [byte] at held
  split at held
  · contradiction
  · split at held
    · contradiction
    · omega

/-- The bytes of a colour that can be painted with are its components. -/
theorem exists_bytes {colour : Colour} (paint : colour.IsPaint) :
    ∃ bytes, colour.bytes = .ok bytes ∧ bytes.length = 3 ∧
      bytes.map (fun byte => (byte.toNat : Int)) = colour.components := by
  have held : colour.bytes = .ok (colour.components.map UInt8.ofInt) :=
    mapM_eq_pure_map fun component member =>
      byte_of_range (paint component member).1 (paint component member).2
  refine ⟨_, held, rfl, ?_⟩
  have same : ∀ component ∈ colour.components,
      ((UInt8.ofInt component).toNat : Int) = id component := by
    intro component member
    obtain ⟨low, high⟩ := paint component member
    rw [toNat_ofInt, id]
    omega
  rw [List.map_map]
  exact (List.map_congr_left same).trans (List.map_id _)

theorem isPaint_of_bytes {colour : Colour} {bytes : List UInt8} (held : colour.bytes = .ok bytes) :
    colour.IsPaint := by
  intro component member
  obtain ⟨value, byte_eq⟩ := exists_of_mapM_eq_ok held component member
  exact range_of_byte byte_eq

end Colour

/-! ## Blocks of a list -/

theorem length_flatMap_range {α : Type} {block : Nat → List α} {size count : Nat}
    (sized : ∀ index < count, (block index).length = size) :
    ((List.range count).flatMap block).length = size * count := by
  induction count with
  | zero => rfl
  | succ count ih =>
    rw [List.range_succ, List.flatMap_append, List.length_append,
      ih fun index inside => sized index (Nat.lt_succ_of_lt inside)]
    simp [sized count (Nat.lt_succ_self count), Nat.mul_succ]

/-- Blocks of one size are found at its multiples. -/
theorem take_drop_flatMap_range {α : Type} {block : Nat → List α} {size count index : Nat}
    (sized : ∀ index < count, (block index).length = size) (inside : index < count) :
    (((List.range count).flatMap block).drop (size * index)).take size = block index := by
  induction count with
  | zero => contradiction
  | succ count ih =>
    have earlier : ∀ index < count, (block index).length = size :=
      fun index inside => sized index (Nat.lt_succ_of_lt inside)
    have length_eq := length_flatMap_range earlier
    rw [List.range_succ, List.flatMap_append]
    rcases Nat.lt_succ_iff_lt_or_eq.mp inside with before | rfl
    · have room : size * index + size ≤ size * count := by
        rw [← Nat.mul_succ]
        exact Nat.mul_le_mul_left size before
      rw [List.drop_append_of_le_length (by omega),
        List.take_append_of_le_length (by rw [List.length_drop]; omega)]
      exact ih earlier before
    · have last : (block index).length ≤ size := Nat.le_of_eq (sized index (Nat.lt_succ_self index))
      rw [← length_eq, List.drop_left]
      simpa using List.take_of_length_le last

/-! ## Images -/

/-- An image as it is put on a surface: three bytes a pixel, column by column from the left, each
from the top. -/
structure Image where
  /-- Pixels in a row. -/
  width : Nat
  /-- Rows. -/
  height : Nat
  /-- The bytes. -/
  bytes : List UInt8
  deriving DecidableEq, Repr

/-- The components of the pixel in a column and a row. -/
def Image.pixel (image : Image) (column row : Nat) : List Int :=
  ((image.bytes.drop (3 * (column * image.height + row))).take 3).map fun byte => byte.toNat

/-- Whether an image shows a picture in two colours: it has the dimensions of the picture, and
each pixel has the colour of its cell. -/
structure Image.Shows (image : Image) (picture : Picture) (lit dark : Colour) : Prop where
  width : image.width = picture.width
  height : image.height = picture.height
  size : image.bytes.length = 3 * (picture.width * picture.height)
  pixels : ∀ column < picture.width, ∀ row < picture.height, image.pixel column row =
    (if picture.cells.pixel row column then lit else dark).components

/-- In two colours that differ, the pixels in the colour of lit cells are those of lit cells. -/
theorem Image.Shows.pixel_eq_lit_iff {image : Image} {picture : Picture} {lit dark : Colour}
    (shows : image.Shows picture lit dark) (differ : lit ≠ dark) {column row : Nat}
    (across : column < picture.width) (down : row < picture.height) :
    image.pixel column row = lit.components ↔ picture.cells.pixel row column = true := by
  rw [shows.pixels column across row down]
  cases picture.cells.pixel row column with
  | true => simp
  | false =>
    simp only [Bool.false_eq_true, if_false, iff_false]
    intro same
    obtain ⟨red, green, blue⟩ := lit
    obtain ⟨_, _, _⟩ := dark
    simp only [Colour.components, List.cons.injEq, and_true] at same
    obtain ⟨rfl, rfl, rfl⟩ := same
    exact differ rfl

namespace Framebuffer

variable {width height : Nat} {screen : Framebuffer width height} {lit dark : List UInt8}

theorem length_cell (litSize : lit.length = 3) (darkSize : dark.length = 3) (on : Bool) :
    (if on then lit else dark).length = 3 := by
  cases on
  · exact darkSize
  · exact litSize

theorem length_column (screen : Framebuffer width height) (litSize : lit.length = 3)
    (darkSize : dark.length = 3) (column : Nat) :
    ((List.range height).flatMap fun row =>
      if screen.pixel row column then lit else dark).length = 3 * height :=
  length_flatMap_range fun row _ => length_cell litSize darkSize (screen.pixel row column)

theorem length_paint (litSize : lit.length = 3) (darkSize : dark.length = 3) :
    (screen.paint lit dark).length = 3 * (width * height) := by
  rw [paint, length_flatMap_range fun column _ => length_column screen litSize darkSize column,
    Nat.mul_assoc, Nat.mul_comm height]

/-- The bytes of a cell stand where the image has its pixel. -/
theorem take_drop_paint (litSize : lit.length = 3) (darkSize : dark.length = 3) {column row : Nat}
    (across : column < width) (down : row < height) :
    ((screen.paint lit dark).drop (3 * (column * height + row))).take 3 =
      if screen.pixel row column then lit else dark := by
  have whole := take_drop_flatMap_range
    (fun column _ => length_column screen litSize darkSize column) across
  have single := take_drop_flatMap_range
    (fun row _ => length_cell litSize darkSize (screen.pixel row column)) down
  have place : 3 * (column * height + row) = 3 * height * column + 3 * row := by
    rw [Nat.mul_add, Nat.mul_assoc, Nat.mul_comm column]
  have room : min 3 (3 * height - 3 * row) = 3 := by omega
  rw [← whole, List.drop_take, List.take_take, room, List.drop_drop] at single
  rw [place]
  exact single

end Framebuffer

namespace Picture

variable {picture : Picture} {lit dark : Colour}

/-- A picture with rows has an image in colours that can be painted with. -/
theorem exists_image (rows : 0 < picture.height) (litPaint : lit.IsPaint)
    (darkPaint : dark.IsPaint) :
    ∃ bytes, picture.image lit dark = .ok bytes ∧
      Image.Shows ⟨picture.width, picture.height, bytes⟩ picture lit dark := by
  obtain ⟨litBytes, lit_eq, litSize, litComponents⟩ := Colour.exists_bytes litPaint
  obtain ⟨darkBytes, dark_eq, darkSize, darkComponents⟩ := Colour.exists_bytes darkPaint
  refine ⟨picture.cells.paint litBytes darkBytes, ?_, rfl, rfl,
    Framebuffer.length_paint litSize darkSize, fun column across row down => ?_⟩
  · have some_rows : picture.height ≠ 0 := Nat.ne_of_gt rows
    rw [image, if_neg some_rows, lit_eq, dark_eq]
    rfl
  · rw [Image.pixel, Framebuffer.take_drop_paint litSize darkSize across down]
    cases picture.cells.pixel row column
    · exact darkComponents
    · exact litComponents

/-- A picture without rows has no image, and none has in colours that cannot be painted with. -/
theorem of_image {bytes : List UInt8} (imaged : picture.image lit dark = .ok bytes) :
    0 < picture.height ∧ lit.IsPaint ∧ dark.IsPaint := by
  rw [image] at imaged
  split at imaged
  · contradiction
  · rename_i some_rows
    obtain ⟨litBytes, lit_eq, others⟩ := bind_eq_ok_iff.mp imaged
    obtain ⟨darkBytes, dark_eq, -⟩ := bind_eq_ok_iff.mp others
    exact ⟨Nat.pos_of_ne_zero some_rows,
      Colour.isPaint_of_bytes (mapError_eq_ok_iff.mp lit_eq),
      Colour.isPaint_of_bytes (mapError_eq_ok_iff.mp dark_eq)⟩

end Picture

end ChipEight
