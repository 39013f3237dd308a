import ChipEight.Machine.Fault

/-!
# The call stack

The call stack has a fixed number of slots, of which the first ones hold the addresses of
the pending calls, the outermost first.  A return only moves the mark up to which the slots
are in use; what stood above the mark stays there until another call overwrites it.

The slots in use, read from the mark down, are the pending calls with the innermost first:
on these lists a call is a `cons` and a return goes to the tail (`CallStack.live_push`,
`CallStack.live_pop`).
-/

namespace ChipEight

/-- The slots for pending calls and how many of them are in use. -/
structure CallStack where
  /-- All slots. -/
  slots : Vector Int stackDepth
  /-- How many slots are in use. -/
  depth : Nat
  /-- No more are in use than there are. -/
  fits : depth ≤ stackDepth

namespace CallStack

/-- No call is pending, and all slots are zero. -/
def empty : CallStack where
  slots := Vector.replicate stackDepth 0
  depth := 0
  fits := Nat.zero_le _

/-- The address of the innermost pending call, if there is one. -/
def top? (calls : CallStack) : Option Int :=
  if pending : 0 < calls.depth then
    have inUse : calls.depth - 1 < stackDepth :=
      Nat.lt_of_lt_of_le (Nat.sub_one_lt_of_lt pending) calls.fits
    some calls.slots[calls.depth - 1]
  else none

/-- Put the address of a call into the first slot that is not in use. -/
def push (calls : CallStack) (room : calls.depth < stackDepth) (caller : Int) : CallStack where
  slots := calls.slots.set calls.depth caller
  depth := calls.depth + 1
  fits := room

/-- Give up the last slot in use; it keeps its address. -/
def pop (calls : CallStack) : CallStack where
  slots := calls.slots
  depth := calls.depth - 1
  fits := Nat.le_trans (Nat.sub_le _ _) calls.fits

/-- The addresses of the pending calls, outermost first. -/
def frames (calls : CallStack) : List Int :=
  calls.slots.toList.take calls.depth

/-- The addresses of the pending calls, innermost first. -/
def live (calls : CallStack) : List Int :=
  calls.frames.reverse

theorem length_frames (calls : CallStack) : calls.frames.length = calls.depth := by
  rw [frames, List.length_take, Vector.length_toList]
  exact Nat.min_eq_left calls.fits

@[simp]
theorem length_live (calls : CallStack) : calls.live.length = calls.depth := by
  rw [live, List.length_reverse, length_frames]

/-- A call comes before all that are pending already. -/
@[simp]
theorem live_push (calls : CallStack) (room : calls.depth < stackDepth) (caller : Int) :
    (calls.push room caller).live = caller :: calls.live := by
  have inside : calls.depth < (calls.slots.toList.set calls.depth caller).length := by
    rw [List.length_set, Vector.length_toList]
    exact room
  rw [live, frames, push, Vector.toList_set, List.take_succ_eq_append_getElem inside,
    List.getElem_set_self, List.take_set_of_le (Nat.le_refl _), List.reverse_concat]
  rfl

/-- A return leaves the pending calls behind the innermost one. -/
@[simp]
theorem live_pop (calls : CallStack) : calls.pop.live = calls.live.tail := by
  rw [live, live, List.tail_reverse, List.dropLast_eq_take, length_frames, frames, frames,
    List.take_take, Nat.min_eq_left (Nat.sub_le _ _)]
  rfl

/-- The innermost pending call stands in the last slot in use. -/
theorem top?_eq_head? (calls : CallStack) : calls.top? = calls.live.head? := by
  rw [top?, live, List.head?_reverse]
  split
  · rename_i pending
    have inUse : calls.depth - 1 < calls.frames.length := by
      rw [length_frames]
      exact Nat.sub_one_lt_of_lt pending
    rw [List.getLast?_eq_getElem?, length_frames, List.getElem?_eq_getElem inUse]
    simp only [frames, List.getElem_take, Vector.getElem_toList]
  · rename_i unused
    have frames_eq : calls.frames = [] := by
      rw [← List.length_eq_zero_iff, length_frames]
      exact Nat.eq_zero_of_not_pos unused
    rw [frames_eq, List.getLast?_nil]

theorem top?_eq_none_iff {calls : CallStack} : calls.top? = none ↔ calls.live = [] := by
  rw [top?_eq_head?, List.head?_eq_none_iff]

/-- A return takes off the innermost pending call. -/
theorem live_of_top? {calls : CallStack} {caller : Int} (top : calls.top? = some caller) :
    calls.live = caller :: calls.pop.live := by
  rw [top?_eq_head?] at top
  obtain ⟨outer, live_eq⟩ := List.head?_eq_some_iff.mp top
  rw [live_pop, live_eq, List.tail_cons]

end CallStack

end ChipEight
