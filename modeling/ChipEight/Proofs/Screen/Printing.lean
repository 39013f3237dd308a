import ChipEight.Framebuffer

/-!
# Reading a printed screen

A printed screen has a line for every row and a character for every cell, `#` for a lit
cell and `.` for a dark one.  `Framebuffer.read?` reads the cells back and refuses any
other text; what is printed reads back as what was on the screen
(`Framebuffer.read?_print`).
-/

namespace ChipEight.Framebuffer

variable {width height : Nat}

/-- The cells of a screen, row by row. -/
def cells (screen : Framebuffer width height) : List (List Bool) :=
  screen.rows.toList.map Vector.toList

/-- The cell that a character stands for. -/
def cell? : Char → Option Bool
  | '#' => some true
  | '.' => some false
  | _ => none

/-- Read the cells of a printed screen. -/
def read? (text : String) : Option (List (List Bool)) :=
  (text.toList.splitOn '\n').mapM (·.mapM cell?)

/-- The character of a cell. -/
def mark (lit : Bool) : Char :=
  if lit then '#' else '.'

theorem cell?_mark (lit : Bool) : cell? (mark lit) = some lit := by
  cases lit <;> rfl

theorem mark_ne_newline (lit : Bool) : mark lit ≠ '\n' := by
  cases lit <;> decide

theorem mapM_map_of_inverse {α β : Type} {write : α → β} {read : β → Option α}
    (inverse : ∀ value, read (write value) = some value) (values : List α) :
    (values.map write).mapM read = some values := by
  have reads : read ∘ write = fun value => pure (id value) := funext inverse
  rw [List.mapM_map, reads, List.mapM_pure, List.map_id]
  rfl

theorem lines_eq (screen : Framebuffer width height) :
    (screen.lines "#" ".").map String.toList = screen.cells.map (·.map mark) := by
  rw [lines, cells, List.map_map, List.map_map]
  refine List.map_congr_left fun row _ => ?_
  have single (lit : Bool) : (if lit then "#" else ".").toList = [mark lit] := by
    cases lit <;> rfl
  simp only [Function.comp, String.toList_join, List.flatMap_map, single]
  exact List.map_eq_flatMap.symm

/-- What is printed reads back. -/
theorem read?_print (screen : Framebuffer width height) (tall : 0 < height) :
    read? screen.print = some screen.cells := by
  have oneLine : ∀ line ∈ screen.cells.map (·.map mark), '\n' ∉ line := by
    intro line isLine newline
    obtain ⟨row, -, rfl⟩ := List.mem_map.mp isLine
    obtain ⟨lit, -, lit_eq⟩ := List.mem_map.mp newline
    exact mark_ne_newline lit lit_eq
  have nonempty : screen.cells.map (·.map mark) ≠ [] := by
    apply List.ne_nil_of_length_pos
    simpa [cells] using tall
  have newline_eq : "\n".toList = ['\n'] := rfl
  rw [read?, print, text, String.toList_intercalate, lines_eq, newline_eq,
    List.splitOn_intercalate '\n' oneLine nonempty]
  exact mapM_map_of_inverse (mapM_map_of_inverse cell?_mark) screen.cells

end ChipEight.Framebuffer
