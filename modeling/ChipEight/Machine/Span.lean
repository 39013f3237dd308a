import ChipEight.Machine.Fault

/-!
# Spans of memory

Instructions touch memory in spans of consecutive bytes.  A span carries the
proof that it lies within memory, so that nothing read or written through a span
is ever outside.  The only way from an address to a span is `Span.at?`, which
refuses what does not lie within memory.
-/

namespace ChipEight

/-- Whether `size` bytes at an address lie within memory. -/
def inMemory (address : Int) (size : Nat) : Bool :=
  decide (0 ≤ address ∧ address.toNat + size ≤ memorySize)

theorem inMemory_iff {address : Int} {size : Nat} :
    inMemory address size ↔ 0 ≤ address ∧ address + size ≤ memorySize := by
  simp only [inMemory, decide_eq_true_eq]
  omega

/-- The bytes of a memory. -/
abbrev Memory := Vector UInt8 memorySize

/-- `size` consecutive places of memory. -/
structure Span (size : Nat) where
  /-- The first place. -/
  start : Nat
  /-- All of them are places of memory. -/
  fits : start + size ≤ memorySize

namespace Span

variable {size : Nat}

/-- The span at an address, if it lies within memory. -/
def at? (address : Int) (size : Nat) : Option (Span size) :=
  if inside : inMemory address size then
    some ⟨address.toNat, by have := inMemory_iff.mp inside; omega⟩
  else none

theorem at?_eq_some_iff {address : Int} {span : Span size} :
    at? address size = some span ↔ address = span.start := by
  rcases span with ⟨start, fits⟩
  rw [at?]
  constructor
  · intro located
    split at located
    · rename_i inside
      have bounds := inMemory_iff.mp inside
      have start_eq := congrArg Span.start (Option.some.inj located)
      simp only at start_eq ⊢
      omega
    · contradiction
  · rintro rfl
    have inside : inMemory start size := inMemory_iff.mpr (by omega)
    rw [dif_pos inside]
    rfl

theorem at?_eq_none_iff {address : Int} : at? address size = none ↔ ¬ inMemory address size := by
  rw [at?]
  split <;> simp_all

theorem inMemory_of_at?_eq_some {address : Int} {span : Span size}
    (located : at? address size = some span) : inMemory address size := by
  rcases span with ⟨start, fits⟩
  have address_eq := at?_eq_some_iff.mp located
  exact inMemory_iff.mpr (by simp only at address_eq; omega)

/-- The place of a byte of the span. -/
def place (span : Span size) (offset : Fin size) : Fin memorySize :=
  ⟨span.start + offset.val, by have := span.fits; have := offset.isLt; omega⟩

/-- The bytes of a span. -/
def read (span : Span size) (memory : Memory) : Vector UInt8 size :=
  Vector.ofFn fun offset => memory[span.place offset]

/-- Replace the bytes of a span. -/
def write (span : Span size) (memory : Memory) (bytes : Vector UInt8 size) : Memory :=
  Fin.foldl size (fun memory offset => memory.set (span.place offset) bytes[offset]) memory

/-- Replace the bytes of a span at once: memory is what precedes them, the new ones, and what
follows. -/
def splice (span : Span size) (memory : Memory) (bytes : Vector UInt8 size) : Memory :=
  ⟨memory.toArray.extract 0 span.start ++ bytes.toArray ++
      memory.toArray.extract (span.start + size), by
    have := span.fits
    simp only [Array.size_append, Array.size_extract, Vector.size_toArray]
    omega⟩

end Span

end ChipEight
