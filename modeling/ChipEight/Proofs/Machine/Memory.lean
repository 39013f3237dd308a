import ChipEight.Machine.Span

/-!
# Spans read and written

What is written in a span is read back from it, and nothing else changes.  Two spans
without a common place are independent of each other: neither sees what is written in
the other, and it does not matter which is written first.
-/

namespace ChipEight

/-- A byte holds the low eight bits of a number. -/
theorem toNat_ofInt (value : Int) : ((UInt8.ofInt value).toNat : Int) = value % 256 := by
  rw [UInt8.ofInt, UInt8.toNat_ofNat']
  omega

namespace Span

variable {size : Nat}

/-- Whether two spans have no place in common. -/
def Apart {other : Nat} (one : Span size) (second : Span other) : Prop :=
  ∀ mine theirs, one.place mine ≠ second.place theirs

/-- Whether memories hold the same outside a span. -/
def AgreeOutside (span : Span size) (one other : Memory) : Prop :=
  ∀ place, (∀ offset, span.place offset ≠ place) → one.get place = other.get place

theorem place_injective (span : Span size) {one other : Fin size}
    (same : span.place one = span.place other) : one = other := by
  have values := congrArg Fin.val same
  simp only [place] at values
  omega

theorem get_set (memory : Memory) (written place : Fin memorySize) (byte : UInt8) :
    (memory.set written byte written.isLt).get place =
      if written = place then byte else memory.get place := by
  change (memory.set written byte)[place] = if written = place then byte else memory[place]
  simp [Vector.getElem_set, Fin.ext_iff]

/-! ## Sequences of writes -/

/-- A place that no write goes to keeps its byte. -/
theorem get_foldl_of_ne {count : Nat} {places : Fin count → Fin memorySize}
    (bytes : Fin count → UInt8) (memory : Memory) {place : Fin memorySize}
    (outside : ∀ offset, places offset ≠ place) :
    (Fin.foldl count
      (fun memory offset => memory.set (places offset) (bytes offset) (places offset).isLt)
      memory).get place = memory.get place := by
  induction count with
  | zero => rw [Fin.foldl_zero]
  | succ count ih =>
    rw [Fin.foldl_succ_last, get_set, if_neg (outside (Fin.last count))]
    exact ih (fun offset => bytes offset.castSucc) fun offset => outside offset.castSucc

/-- A place that one write goes to has its byte. -/
theorem get_foldl_of_injective {count : Nat} {places : Fin count → Fin memorySize}
    (bytes : Fin count → UInt8) (memory : Memory)
    (distinct : ∀ one other, places one = places other → one = other) (offset : Fin count) :
    (Fin.foldl count
      (fun memory offset => memory.set (places offset) (bytes offset) (places offset).isLt)
      memory).get (places offset) = bytes offset := by
  induction count with
  | zero => exact offset.elim0
  | succ count ih =>
    rw [Fin.foldl_succ_last, get_set]
    induction offset using Fin.lastCases with
    | last => rw [if_pos rfl]
    | cast offset =>
      have earlier : places (Fin.last count) ≠ places offset.castSucc := fun same =>
        absurd (distinct _ _ same).symm (Fin.ne_of_lt (Fin.castSucc_lt_last offset))
      rw [if_neg earlier]
      exact ih (fun offset => bytes offset.castSucc)
        (fun one other same => Fin.castSucc_inj.mp (distinct _ _ same)) offset

/-! ## Reading what has been written -/

/-- A write changes nothing outside its span. -/
theorem agreeOutside_write (span : Span size) (memory : Memory) (bytes : Vector UInt8 size) :
    span.AgreeOutside (span.write memory bytes) memory :=
  fun _ outside => get_foldl_of_ne bytes.get memory outside

theorem get_write_place (span : Span size) (memory : Memory) (bytes : Vector UInt8 size)
    (offset : Fin size) : (span.write memory bytes).get (span.place offset) = bytes.get offset :=
  get_foldl_of_injective bytes.get memory (fun _ _ same => span.place_injective same) offset

theorem read_write (span : Span size) (memory : Memory) (bytes : Vector UInt8 size) :
    span.read (span.write memory bytes) = bytes := by
  apply Vector.ext
  intro offset inSpan
  rw [read, Vector.getElem_ofFn]
  exact span.get_write_place memory bytes ⟨offset, inSpan⟩

/-- Memories are the same if they agree within a span and elsewhere. -/
theorem memory_ext (span : Span size) {one other : Memory}
    (within : ∀ offset, one.get (span.place offset) = other.get (span.place offset))
    (elsewhere : span.AgreeOutside one other) : one = other := by
  have agree (place : Fin memorySize) : one.get place = other.get place := by
    by_cases inside : ∃ offset, span.place offset = place
    · obtain ⟨offset, rfl⟩ := inside
      exact within offset
    · exact elsewhere place fun offset same => inside ⟨offset, same⟩
  exact Vector.ext fun place inMemory => agree ⟨place, inMemory⟩

/-- To write what another memory holds in a span gives that memory, if the two agree
elsewhere. -/
theorem write_read_of_agree (span : Span size) {memory other : Memory}
    (elsewhere : span.AgreeOutside other memory) :
    span.write memory (span.read other) = other := by
  refine span.memory_ext (fun offset => ?_) fun place outside => ?_
  · rw [get_write_place]
    exact Vector.getElem_ofFn offset.isLt
  · rw [span.agreeOutside_write memory _ place outside, elsewhere place outside]

theorem write_read (span : Span size) (memory : Memory) :
    span.write memory (span.read memory) = memory :=
  span.write_read_of_agree fun _ _ => rfl

theorem read_congr (span : Span size) {one other : Memory}
    (same : ∀ offset, one.get (span.place offset) = other.get (span.place offset)) :
    span.read one = span.read other := by
  apply Vector.ext
  intro offset inSpan
  rw [read, read, Vector.getElem_ofFn, Vector.getElem_ofFn]
  exact same ⟨offset, inSpan⟩

theorem get_read (span : Span size) (memory : Memory) (offset : Fin size) :
    (span.read memory).get offset = memory.get (span.place offset) :=
  Vector.getElem_ofFn offset.isLt

/-- Memories are the same if a span reads the same in both and they agree elsewhere. -/
theorem eq_of_read_eq (span : Span size) {one other : Memory}
    (within : span.read one = span.read other) (elsewhere : span.AgreeOutside one other) :
    one = other :=
  calc
    one = span.write other (span.read one) := (span.write_read_of_agree elsewhere).symm
    _ = span.write other (span.read other) := congrArg _ within
    _ = other := span.write_read other

/-! ## Spans apart -/

variable {otherSize : Nat} {one : Span size} {other : Span otherSize}

theorem read_write_of_apart (apart : one.Apart other) (memory : Memory)
    (bytes : Vector UInt8 otherSize) : one.read (other.write memory bytes) = one.read memory := by
  refine one.read_congr fun offset => ?_
  exact other.agreeOutside_write memory bytes _ fun theirs same =>
    apart offset theirs same.symm

theorem write_comm_of_apart (apart : one.Apart other) (memory : Memory) (mine : Vector UInt8 size)
    (theirs : Vector UInt8 otherSize) :
    one.write (other.write memory theirs) mine = other.write (one.write memory mine) theirs := by
  refine one.memory_ext (fun offset => ?_) fun place outside => ?_
  · have notTheirs (their : Fin otherSize) : other.place their ≠ one.place offset :=
      fun same => apart offset their same.symm
    rw [get_write_place, other.agreeOutside_write _ _ _ notTheirs, get_write_place]
  · rw [one.agreeOutside_write _ _ _ outside]
    by_cases inside : ∃ offset, other.place offset = place
    · obtain ⟨offset, rfl⟩ := inside
      rw [get_write_place, get_write_place]
    · have notTheirs (their : Fin otherSize) : other.place their ≠ place :=
        fun same => inside ⟨their, same⟩
      rw [other.agreeOutside_write _ _ _ notTheirs, other.agreeOutside_write _ _ _ notTheirs,
        one.agreeOutside_write _ _ _ outside]

end Span

end ChipEight
