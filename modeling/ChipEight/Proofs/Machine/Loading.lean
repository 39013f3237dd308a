import ChipEight.Machine.Basic

/-!
# Loading a program

A load is refused before it writes anything, or it goes through to its end
(`Machine.loadProgram_of_tooLarge`, `Machine.loadProgram_of_room`).  Each of its two writes
replaces as many bytes as it brings along, so that memory keeps its size; between them they
leave the program, with zeros behind it, above the bytes that do not belong to the program
area (`Memory.toList_loaded`).
-/

namespace ChipEight

namespace Span

variable {size : Nat}

/-- Memory after a write at once: what precedes the span, the bytes, and what follows. -/
theorem toList_splice (span : Span size) (memory : Memory) (bytes : Vector UInt8 size) :
    (span.splice memory bytes).toList =
      memory.toList.take span.start ++ bytes.toList ++ memory.toList.drop (span.start + size) := by
  have front : (memory.toArray.extract 0 span.start).toList = memory.toList.take span.start := by
    rw [Array.toList_extract, List.extract_eq_take_drop, List.drop_zero, Nat.sub_zero]
    rfl
  have back : (memory.toArray.extract (span.start + size)).toList =
      memory.toList.drop (span.start + size) := by
    rw [Array.toList_extract, List.extract_eq_take_drop]
    exact List.take_of_length_le (Nat.le_of_eq (by rw [List.length_drop, Array.length_toList]))
  change (memory.toArray.extract 0 span.start ++ bytes.toArray ++
    memory.toArray.extract (span.start + size)).toList = _
  rw [Array.toList_append, Array.toList_append, front, back]
  rfl

end Span

namespace Memory

variable (memory : Memory) {program : Array UInt8}

/-- Memory after the first write of a load. -/
def cleared : Memory :=
  Machine.programArea.splice memory (Vector.replicate programRoom 0)

/-- Memory after both writes of a load. -/
def loaded (program : Array UInt8) (room : program.size ≤ programRoom) : Memory :=
  Span.splice ⟨programStart, Machine.fits_of_room (Nat.not_lt.mpr room)⟩ memory.cleared
    program.toVector

theorem length_take_programStart : (memory.toList.take programStart).length = programStart := by
  rw [List.length_take, Vector.length_toList]
  rfl

/-- The first write leaves zeros up to the end of memory. -/
theorem toList_cleared :
    memory.cleared.toList = memory.toList.take programStart ++ List.replicate programRoom 0 := by
  have none_behind :
      memory.toList.drop (Machine.programArea.start + programRoom) = [] := by
    apply List.drop_eq_nil_of_le
    rw [Vector.length_toList]
    exact Nat.le_refl _
  rw [cleared, Span.toList_splice, none_behind, List.append_nil, Vector.toList_replicate]
  rfl

/-- A loaded program fills the program area; what it leaves free is zero. -/
theorem toList_loaded (room : program.size ≤ programRoom) :
    (memory.loaded program room).toList =
      memory.toList.take programStart ++ program.toList ++
        List.replicate (programRoom - program.size) 0 := by
  have behind : (memory.toList.take programStart).length ≤ programStart + program.size := by
    rw [memory.length_take_programStart]
    exact Nat.le_add_right _ _
  rw [loaded, Span.toList_splice, toList_cleared, List.take_left' memory.length_take_programStart,
    List.drop_append, List.drop_of_length_le behind, memory.length_take_programStart,
    Nat.add_sub_cancel_left, List.nil_append, List.drop_replicate]
  rfl

/-- The bytes of memory after a load, place by place. -/
theorem getElem?_loaded (room : program.size ≤ programRoom) {place : Nat}
    (inMemory : place < memorySize) :
    (memory.loaded program room).toList[place]? =
      if place < programStart then memory.toList[place]?
      else some (program[place - programStart]?.getD 0) := by
  have start_le : programStart ≤ memorySize := by decide
  rw [toList_loaded, List.append_assoc, List.getElem?_append, memory.length_take_programStart,
    List.getElem?_take]
  split
  · rfl
  · rename_i notBelow
    rw [List.getElem?_append, Array.length_toList]
    split
    · rename_i inProgram
      rw [Array.getElem?_toList, Array.getElem?_eq_getElem inProgram, Option.getD_some]
    · rename_i notInProgram
      rw [Array.getElem?_eq_none (Nat.le_of_not_lt notInProgram), List.getElem?_replicate,
        if_pos]
      · rfl
      · simp only [programRoom] at room ⊢
        omega

end Memory

namespace Machine

variable {width height : Nat} (machine : Machine width height) {program : Array UInt8}

/-- A program that there is no room for is refused before anything is written. -/
theorem loadProgram_of_tooLarge (tooLarge : programRoom < program.size) :
    machine.loadProgram program = .error ⟨program.size⟩ machine := by
  rw [loadProgram, load, dif_pos tooLarge]
  rfl

/-- A program that there is room for is written. -/
theorem loadProgram_of_room (room : program.size ≤ programRoom) :
    machine.loadProgram program =
      .ok program.size
        { machine with
          memory := machine.memory.loaded program room, programSize := program.size } := by
  rw [loadProgram, load, dif_neg (Nat.not_lt.mpr room), Memory.loaded, Memory.cleared]
  simp only [splice]
  rfl

end Machine

end ChipEight
