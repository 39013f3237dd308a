import ChipEight.Proofs.Machine.Footprint
import ChipEight.Proofs.Safety

/-!
# Block transfers

A store writes the registers up to one of them to memory, at the index, and a load reads
them from there.  A load gives back what a store has left (`Machine.Stores.load_back`), and a
store of what a load has found changes nothing (`Machine.Loads.store_back`).

Where the machine moves the index past the bytes of a transfer, blocks that are stored one
after the other lie next to each other, and the same loads, from where the stores have begun,
find them again (`Machine.Faces.restores`).
-/

namespace ChipEight

/-- How far a transfer of so many bytes moves the index. -/
def Compatibility.stride (switches : Compatibility) (count : Nat) : Int :=
  if switches.indexAdvances then count else 0

namespace Machine

variable {width height : Nat} {machine later : Machine width height} {x : Register}

/-! ## Registers and digits -/

theorem registersTo_setRegistersTo (machine : Machine width height) (x : Register)
    (bytes : Vector UInt8 (x.val + 1)) :
    (machine.setRegistersTo x bytes).registersTo x = bytes := by
  apply Vector.ext
  intro offset inside
  rw [registersTo, Vector.getElem_ofFn]
  exact (Vector.getElem_ofFn _).trans (dif_pos inside)

/-- The digits of a byte make up its value. -/
theorem decimalDigits_eq (value : UInt8) :
    ∃ hundreds tens units : UInt8, decimalDigits value = #v[hundreds, tens, units] ∧
      hundreds.toNat ≤ 9 ∧ tens.toNat ≤ 9 ∧ units.toNat ≤ 9 ∧
      100 * hundreds.toNat + 10 * tens.toNat + units.toNat = value.toNat := by
  have bound := value.toNat_lt
  refine ⟨value / 100, value / 10 % 10, value % 10, rfl, ?_⟩
  simp only [UInt8.toNat_div, UInt8.toNat_mod, UInt8.reduceToNat]
  omega

/-! ## One transfer -/

/-- An index within memory never wraps. -/
theorem advanceIndex_of_located (machine : Machine width height) {count : Nat}
    (block : Span count) (located : machine.index = block.start) :
    machine.advanceIndex count =
      { machine with index := machine.index + machine.compatibility.stride count } := by
  have fits := block.fits
  simp only [memorySize] at fits
  rw [advanceIndex, Compatibility.stride]
  split
  · have stays : (machine.index + count) % 65536 = machine.index + count :=
      Int.emod_eq_of_lt (by omega) (by omega)
    rw [stays]
  · rw [Int.add_zero]

/-- What a block transfer does beside moving bytes. -/
structure Transfers (machine : Machine width height) (instruction : Instruction) (count : Nat) :
    Prop where
  outcome : machine.step.outcome = .ok (some instruction)
  index : machine.step.machine.index = machine.index + machine.compatibility.stride count
  pc : machine.step.machine.pc = machine.pc + 2
  wait : machine.step.machine.wait = none
  compatibility : machine.step.machine.compatibility = machine.compatibility

/-- Whether a step stores the registers up to one of them in a block at the index. -/
structure Stores (machine : Machine width height) (x : Register) (block : Span (x.val + 1)) :
    Prop extends Transfers machine (.store x) (x.val + 1) where
  located : machine.index = block.start
  stored : machine.step.machine.bytes block = machine.registersTo x
  elsewhere : block.AgreeOutside machine.step.machine.memory machine.memory
  registers : machine.step.machine.registers = machine.registers

/-- Whether a step loads the registers up to one of them from a block at the index. -/
structure Loads (machine : Machine width height) (x : Register) (block : Span (x.val + 1)) :
    Prop extends Transfers machine (.load x) (x.val + 1) where
  located : machine.index = block.start
  loaded : machine.step.machine.registersTo x = machine.bytes block
  above : ∀ register, x < register →
    machine.step.machine.register register = machine.register register
  memory : machine.step.machine.memory = machine.memory

/-- An index that leaves room for a block is where the block starts. -/
theorem exists_block (count : Nat) (start : 0 ≤ machine.index)
    (inside : machine.index + count ≤ memorySize) :
    ∃ block : Span count, machine.index = block.start :=
  ⟨⟨machine.index.toNat, by omega⟩, by simp only; omega⟩

theorem exists_block_to (x : Register) (start : 0 ≤ machine.index)
    (inside : machine.index + x.val + 1 ≤ 0x1000) :
    ∃ block : Span (x.val + 1), machine.index = block.start := by
  refine exists_block (x.val + 1) start ?_
  simp only [memorySize]
  omega

/-- Beside memory, a store changes nothing but the program counter and the index. -/
theorem effect_store (machine : Machine width height) {block : Span (x.val + 1)}
    (located : machine.index = block.start) :
    ∃ next, machine.effect (.store x) = .ok next ∧
      next = { machine with
        memory := next.memory, pc := machine.pc + 2
        index := machine.index + machine.compatibility.stride (x.val + 1) } ∧
      next.bytes block = machine.registersTo x ∧
      block.AgreeOutside next.memory machine.memory := by
  have moved : (machine.advance.fill block (machine.registersTo x)).advanceIndex (x.val + 1) =
      { machine with
        memory := block.write machine.memory (machine.registersTo x), pc := machine.pc + 2
        index := machine.index + machine.compatibility.stride (x.val + 1) } := by
    rw [advanceIndex_of_located _ block]
    · rfl
    · exact located
  refine ⟨_, within_eq_ok_iff.mpr ⟨block, Span.at?_eq_some_iff.mpr located, moved⟩, rfl, ?_, ?_⟩
  · exact block.read_write machine.memory (machine.registersTo x)
  · exact block.agreeOutside_write machine.memory (machine.registersTo x)

/-- Beside registers, a load changes nothing but the program counter and the index. -/
theorem effect_load (machine : Machine width height) {block : Span (x.val + 1)}
    (located : machine.index = block.start) :
    ∃ next, machine.effect (.load x) = .ok next ∧
      next = { machine with
        registers := next.registers, pc := machine.pc + 2
        index := machine.index + machine.compatibility.stride (x.val + 1) } ∧
      next.registersTo x = machine.bytes block ∧
      ∀ register, x < register → next.register register = machine.register register := by
  -- The registers are opaque from here on: unifying them unfolds sixteen cases.
  obtain ⟨registers, filled⟩ : ∃ registers,
      machine.advance.setRegistersTo x (machine.bytes block) =
        { machine with registers := registers, pc := machine.pc + 2 } := ⟨_, rfl⟩
  have loaded := machine.advance.registersTo_setRegistersTo x (machine.bytes block)
  have above (register : Register) (higher : x < register) :=
    machine.advance.register_setRegistersTo_of_lt (machine.bytes block) higher
  rw [filled] at loaded
  rw [filled] at above
  have moved : (machine.advance.setRegistersTo x (machine.bytes block)).advanceIndex (x.val + 1) =
      { machine with
        registers := registers, pc := machine.pc + 2
        index := machine.index + machine.compatibility.stride (x.val + 1) } := by
    rw [filled, advanceIndex_of_located _ block]
    exact located
  exact ⟨_, within_eq_ok_iff.mpr ⟨block, Span.at?_eq_some_iff.mpr located, moved⟩, rfl, loaded,
    above⟩

theorem Reads.stores {block : Span (x.val + 1)} (reads : machine.Reads (.store x))
    (idle : machine.wait = none) (located : machine.index = block.start) :
    machine.Stores x block := by
  obtain ⟨span, -, outcome_eq, machine_eq⟩ := reads.step idle
  obtain ⟨next, effect_eq, next_eq, stored, elsewhere⟩ := (machine.fetch span).effect_store located
  rw [effect_eq] at outcome_eq
  have machine_eq := machine_eq next effect_eq
  refine ⟨⟨outcome_eq, ?_, ?_, ?_, ?_⟩, located, ?_, ?_, ?_⟩ <;> rw [machine_eq]
  · exact (congrArg Machine.index next_eq).trans rfl
  · exact (congrArg Machine.pc next_eq).trans rfl
  · exact (congrArg Machine.wait next_eq).trans idle
  · exact (congrArg Machine.compatibility next_eq).trans rfl
  · exact stored
  · exact elsewhere
  · exact (congrArg Machine.registers next_eq).trans rfl

theorem Reads.loads {block : Span (x.val + 1)} (reads : machine.Reads (.load x))
    (idle : machine.wait = none) (located : machine.index = block.start) :
    machine.Loads x block := by
  obtain ⟨span, -, outcome_eq, machine_eq⟩ := reads.step idle
  obtain ⟨next, effect_eq, next_eq, loaded, above⟩ := (machine.fetch span).effect_load located
  rw [effect_eq] at outcome_eq
  have machine_eq := machine_eq next effect_eq
  refine ⟨⟨outcome_eq, ?_, ?_, ?_, ?_⟩, located, ?_, ?_, ?_⟩ <;> rw [machine_eq]
  · exact (congrArg Machine.index next_eq).trans rfl
  · exact (congrArg Machine.pc next_eq).trans rfl
  · exact (congrArg Machine.wait next_eq).trans idle
  · exact (congrArg Machine.compatibility next_eq).trans rfl
  · exact loaded
  · exact above
  · exact (congrArg Machine.memory next_eq).trans rfl

/-! ## Round trips -/

/-- A load gives back what a store has left. -/
theorem Stores.load_back {block : Span (x.val + 1)} (stores : machine.Stores x block)
    (loads : later.Loads x block) (same : later.bytes block = machine.step.machine.bytes block) :
    later.step.machine.registersTo x = machine.registersTo x := by
  rw [loads.loaded, same, stores.stored]

/-- To store what a load has found changes nothing. -/
theorem Loads.store_back {block : Span (x.val + 1)} (loads : machine.Loads x block)
    (stores : later.Stores x block) (sameBytes : later.bytes block = machine.bytes block)
    (sameRegisters : later.registersTo x = machine.step.machine.registersTo x) :
    later.step.machine.memory = later.memory := by
  have within : later.step.machine.bytes block = later.bytes block := by
    rw [stores.stored, sameRegisters, loads.loaded, sameBytes]
  exact block.eq_of_read_eq within stores.elsewhere

/-! ## Transfers in a row -/

/-- How many bytes there are in blocks that lie next to each other. -/
def extent : List Register → Nat
  | [] => 0
  | x :: rest => x.val + 1 + extent rest

/-- Whether the words from an address on denote instructions, one after the other. -/
def Carries (machine : Machine width height) : Int → List Instruction → Prop
  | _, [] => True
  | address, first :: rest =>
    { machine with pc := address }.Reads first ∧ machine.Carries (address + 2) rest

/-- Whether a machine is about to transfer blocks that fit into memory, one after the
other, and moves the index past each of them. -/
structure Faces (machine : Machine width height) (transfer : Register → Instruction)
    (blocks : List Register) : Prop where
  idle : machine.wait = none
  advances : machine.compatibility.indexAdvances
  inside : machine.index + extent blocks ≤ memorySize
  code : machine.Carries machine.pc (blocks.map transfer)

/-- Whether the code that transfers blocks lies outside the blocks. -/
def Spares (machine : Machine width height) (blocks : List Register) : Prop :=
  machine.pc + 2 * blocks.length ≤ machine.index ∨ machine.index + extent blocks ≤ machine.pc

/-- Whether the next steps transfer blocks, and leave the index behind the last one. -/
structure Performs (machine : Machine width height) (transfer : Register → Instruction)
    (blocks : List Register) : Prop where
  outcome : ∀ position (inside : position < blocks.length),
    (machine.after position).step.outcome = .ok (some (transfer blocks[position]))
  index : (machine.after blocks.length).index = machine.index + extent blocks
  pc : (machine.after blocks.length).pc = machine.pc + 2 * blocks.length
  wait : (machine.after blocks.length).wait = machine.wait
  compatibility : (machine.after blocks.length).compatibility = machine.compatibility

/-- The words of a program are the same where its bytes are. -/
theorem Carries.of_memory {address : Int} {instructions : List Instruction}
    (carries : machine.Carries address instructions)
    (same : ∀ place : Fin memorySize,
      address ≤ place.val → place.val < address + 2 * instructions.length →
        later.memory.get place = machine.memory.get place) :
    later.Carries address instructions := by
  induction instructions generalizing address with
  | nil => trivial
  | cons first rest ih =>
    obtain ⟨⟨span, fetched, denotes⟩, carried⟩ := carries
    rw [List.length_cons] at same
    have start_eq : address = span.start := Span.at?_eq_some_iff.mp fetched
    have bytes_eq : later.bytes span = machine.bytes span := by
      refine span.read_congr fun offset => same _ ?_ ?_
      · simp only [Span.place]
        omega
      · have := offset.isLt
        simp only [Span.place]
        omega
    have word_eq : later.wordAt span = machine.wordAt span := by
      rw [wordAt, wordAt, bytes_eq]
    refine ⟨⟨span, fetched, ?_⟩, ih carried fun place lower upper => same place ?_ ?_⟩
    · have denotes : (machine.wordAt span).Denotes first := denotes
      rw [← word_eq] at denotes
      exact denotes
    · omega
    · omega

section Runs

variable {transfer : Register → Instruction} {blocks rest : List Register}

/-- The blocks behind the first one lie where it ends. -/
theorem Transfers.index_eq (transfers : machine.Transfers (transfer x) (x.val + 1))
    (advances : machine.compatibility.indexAdvances) (rest : List Register) :
    machine.step.machine.index + extent rest = machine.index + extent (x :: rest) := by
  rw [transfers.index, Compatibility.stride, if_pos advances, extent]
  omega

theorem Faces.tail (faces : machine.Faces transfer (x :: rest))
    (transfers : machine.Transfers (transfer x) (x.val + 1))
    (carries : machine.step.machine.Carries (machine.pc + 2) (rest.map transfer)) :
    machine.step.machine.Faces transfer rest where
  idle := transfers.wait
  advances := by
    rw [transfers.compatibility]
    exact faces.advances
  inside := by
    rw [transfers.index_eq faces.advances rest]
    exact faces.inside
  code := by
    rw [transfers.pc]
    exact carries

theorem performs_nil (machine : Machine width height) : machine.Performs transfer [] where
  outcome _ inside := absurd inside (Nat.not_lt_zero _)
  index := (Int.add_zero machine.index).symm
  pc := (Int.add_zero machine.pc).symm
  wait := rfl
  compatibility := rfl

theorem Performs.cons (transfers : machine.Transfers (transfer x) (x.val + 1))
    (idle : machine.wait = none) (advances : machine.compatibility.indexAdvances)
    (performs : machine.step.machine.Performs transfer rest) :
    machine.Performs transfer (x :: rest) where
  outcome position inside := by
    cases position with
    | zero => exact transfers.outcome
    | succ position => exact performs.outcome position (Nat.lt_of_succ_lt_succ inside)
  index := performs.index.trans (transfers.index_eq advances rest)
  pc := by
    refine performs.pc.trans ?_
    rw [transfers.pc, List.length_cons]
    omega
  wait := performs.wait.trans (transfers.wait.trans idle.symm)
  compatibility := performs.compatibility.trans transfers.compatibility

theorem Stores.get_of_outside {block : Span (x.val + 1)} (stores : machine.Stores x block)
    {place : Fin memorySize}
    (outside : place.val < machine.index ∨ machine.index + (x.val + 1 : Nat) ≤ place.val) :
    machine.step.machine.memory.get place = machine.memory.get place := by
  refine stores.elsewhere place fun offset same => ?_
  have := offset.isLt
  have := stores.located
  have := congrArg Fin.val same
  simp only [Span.place] at this
  omega

theorem Faces.reads (faces : machine.Faces transfer (x :: rest)) : machine.Reads (transfer x) :=
  faces.code.1

/-- The first of the blocks, at the index. -/
theorem Faces.exists_block (faces : machine.Faces transfer (x :: rest))
    (start : 0 ≤ machine.index) : ∃ block : Span (x.val + 1), machine.index = block.start := by
  have inside := faces.inside
  rw [extent] at inside
  exact Machine.exists_block (x.val + 1) start (by omega)

/-- A store leaves the code behind it alone. -/
theorem Faces.after_store {block : Span (x.val + 1)} (faces : machine.Faces .store (x :: rest))
    (spares : machine.Spares (x :: rest)) (stores : machine.Stores x block) :
    machine.step.machine.Faces .store rest ∧ machine.step.machine.Spares rest := by
  have index_eq := stores.index_eq faces.advances rest
  rw [Spares, List.length_cons] at spares
  refine ⟨faces.tail stores.toTransfers ?_, ?_⟩
  · refine faces.code.2.of_memory fun place lower upper => stores.get_of_outside ?_
    rw [List.length_map] at upper
    rw [extent] at spares
    omega
  · rw [Spares, index_eq, stores.pc]
    rw [extent] at index_eq
    omega

theorem Faces.after_load {block : Span (x.val + 1)} (faces : machine.Faces .load (x :: rest))
    (loads : machine.Loads x block) : machine.step.machine.Faces .load rest := by
  refine faces.tail loads.toTransfers (faces.code.2.of_memory fun place _ _ => ?_)
  rw [loads.memory]

/-- Once the index is put back, a machine faces the loads whose code follows its stores,
whatever its registers hold by then. -/
theorem Performs.faces_loads (performs : machine.Performs .store blocks)
    (faces : machine.Faces .store blocks)
    (carries : (machine.after blocks.length).Carries (machine.pc + 2 * blocks.length)
      (blocks.map .load)) (registers : Vector UInt8 16) :
    { machine.after blocks.length with
      index := machine.index, registers := registers }.Faces .load blocks where
  idle := performs.wait.trans faces.idle
  advances := by
    have advances := faces.advances
    rw [← performs.compatibility] at advances
    exact advances
  inside := faces.inside
  code := by
    rw [← performs.pc] at carries
    exact carries.of_memory fun _ _ _ => rfl

/-- Stores in a row write nothing outside their blocks. -/
theorem Faces.stores_run (faces : machine.Faces .store blocks) (spares : machine.Spares blocks)
    (start : 0 ≤ machine.index) :
    machine.Performs .store blocks ∧
      ∀ place : Fin memorySize,
        place.val < machine.index ∨ machine.index + extent blocks ≤ place.val →
          (machine.after blocks.length).memory.get place = machine.memory.get place := by
  induction blocks generalizing machine with
  | nil => exact ⟨machine.performs_nil, fun _ _ => rfl⟩
  | cons x rest ih =>
    obtain ⟨block, located⟩ := faces.exists_block start
    have stores := faces.reads.stores faces.idle located
    obtain ⟨facesRest, sparesRest⟩ := faces.after_store spares stores
    have index_eq := stores.index_eq faces.advances rest
    rw [extent] at index_eq ⊢
    obtain ⟨performs, elsewhere⟩ := ih facesRest sparesRest (by omega)
    refine ⟨.cons stores.toTransfers faces.idle faces.advances performs, fun place outside => ?_⟩
    calc
      (machine.step.machine.after rest.length).memory.get place
        = machine.step.machine.memory.get place := elsewhere place (by omega)
      _ = machine.memory.get place := stores.get_of_outside (by omega)

/-- Loads in a row find what stores in a row have left, block by block. -/
theorem Faces.restores (faces : machine.Faces .store blocks) (spares : machine.Spares blocks)
    (start : 0 ≤ machine.index) (loading : later.Faces .load blocks)
    (sameIndex : later.index = machine.index)
    (sameBytes : ∀ place : Fin memorySize,
      machine.index ≤ place.val → place.val < machine.index + extent blocks →
        later.memory.get place = (machine.after blocks.length).memory.get place) :
    later.Performs .load blocks ∧
      ∀ position (inside : position < blocks.length),
        (later.after (position + 1)).registersTo blocks[position] =
          (machine.after position).registersTo blocks[position] := by
  induction blocks generalizing machine later with
  | nil => exact ⟨later.performs_nil, fun _ inside => absurd inside (Nat.not_lt_zero _)⟩
  | cons x rest ih =>
    obtain ⟨block, located⟩ := faces.exists_block start
    have stores := faces.reads.stores faces.idle located
    have loads := loading.reads.loads loading.idle (sameIndex.trans located)
    obtain ⟨facesRest, sparesRest⟩ := faces.after_store spares stores
    have index_eq := stores.index_eq faces.advances rest
    have laterIndex_eq := loads.index_eq loading.advances rest
    rw [extent] at index_eq laterIndex_eq sameBytes
    have startRest : 0 ≤ machine.step.machine.index := by omega
    obtain ⟨-, elsewhere⟩ := facesRest.stores_run sparesRest startRest
    -- The later stores lie behind the first block.
    have kept : later.bytes block = machine.step.machine.bytes block := by
      refine block.read_congr fun offset => ?_
      have := offset.isLt
      refine (sameBytes _ ?_ ?_).trans (elsewhere _ (.inl ?_)) <;>
        simp only [Span.place] <;> omega
    obtain ⟨performs, restored⟩ :=
      ih facesRest sparesRest startRest (loading.after_load loads) (by omega)
        fun place lower upper => by
          rw [loads.memory]
          exact sameBytes place (by omega) (by omega)
    refine ⟨.cons loads.toTransfers loading.idle loading.advances performs, ?_⟩
    intro position inside
    cases position with
    | zero => exact stores.load_back loads kept
    | succ position => exact restored position (Nat.lt_of_succ_lt_succ inside)

end Runs

/-! ## Decimal digits -/

/-- A decimal instruction writes the digits of its register at the index. -/
theorem Reads.decimal {block : Span 3} (reads : machine.Reads (.decimal x))
    (idle : machine.wait = none) (located : machine.index = block.start) :
    machine.step.outcome = .ok (some (.decimal x)) ∧
      machine.step.machine.bytes block = decimalDigits (machine.register x) ∧
      block.AgreeOutside machine.step.machine.memory machine.memory ∧
      machine.step.machine.index = machine.index := by
  obtain ⟨span, -, outcome_eq, machine_eq⟩ := reads.step idle
  have effect_eq : (machine.fetch span).effect (.decimal x) =
      .ok ((machine.fetch span).advance.fill block (decimalDigits (machine.register x))) :=
    within_eq_ok_iff.mpr ⟨block, Span.at?_eq_some_iff.mpr located, rfl⟩
  rw [effect_eq] at outcome_eq
  rw [machine_eq _ effect_eq]
  exact ⟨outcome_eq, block.read_write machine.memory (decimalDigits (machine.register x)),
    block.agreeOutside_write machine.memory (decimalDigits (machine.register x)), rfl⟩

/-! ## Block transfers as a whole -/

/-- What block transfers do, for every machine that there can be.

A store whose block lies within memory writes the registers up to its own there, and a
load of the same block in any later state gives them back and leaves the higher ones
alone.  Conversely, to store what a load has found changes nothing.  The index moves past
the block, without wrapping, where the machine moves it, and stays otherwise.

So where it moves, any number of stores in a row, whose code lies outside of what they
write, are undone block by block by the same loads in a row from where they have begun.

A decimal instruction writes the three digits of its register. -/
theorem transfers_restore (reachable : Reachable machine) :
    (∀ x, machine.upcoming? = some (.store x) → machine.index + x.val + 1 ≤ 0x1000 →
      ∃ block, machine.Stores x block ∧
        ∀ later : Machine width height,
          later.upcoming? = some (.load x) → later.index = machine.index →
          later.bytes block = machine.step.machine.bytes block →
          later.Loads x block ∧ later.step.machine.registersTo x = machine.registersTo x) ∧
    (∀ x, machine.upcoming? = some (.load x) → machine.index + x.val + 1 ≤ 0x1000 →
      ∃ block, machine.Loads x block ∧
        ∀ later : Machine width height,
          later.upcoming? = some (.store x) → later.index = machine.index →
          later.bytes block = machine.bytes block →
          later.registersTo x = machine.step.machine.registersTo x →
          later.Stores x block ∧ later.step.machine.memory = later.memory) ∧
    (∀ blocks, machine.Faces .store blocks → machine.Spares blocks →
      machine.Performs .store blocks ∧
      (∀ place : Fin memorySize,
        place.val < machine.index ∨ machine.index + extent blocks ≤ place.val →
          (machine.after blocks.length).memory.get place = machine.memory.get place) ∧
      ∀ later : Machine width height, later.Faces .load blocks → later.index = machine.index →
        (∀ place : Fin memorySize,
          machine.index ≤ place.val → place.val < machine.index + extent blocks →
            later.memory.get place = (machine.after blocks.length).memory.get place) →
        later.Performs .load blocks ∧
          ∀ position (inside : position < blocks.length),
            (later.after (position + 1)).registersTo blocks[position] =
              (machine.after position).registersTo blocks[position]) ∧
    (∀ x, machine.upcoming? = some (.decimal x) → machine.index + 3 ≤ 0x1000 →
      ∃ block : Span 3, machine.index = block.start ∧
        machine.step.outcome = .ok (some (.decimal x)) ∧
        block.AgreeOutside machine.step.machine.memory machine.memory ∧
        machine.step.machine.index = machine.index ∧
        ∃ hundreds tens units : UInt8,
          machine.step.machine.bytes block = #v[hundreds, tens, units] ∧
          hundreds.toNat ≤ 9 ∧ tens.toNat ≤ 9 ∧ units.toNat ≤ 9 ∧
          100 * hundreds.toNat + 10 * tens.toNat + units.toNat = (machine.register x).toNat) := by
  have start := reachable.sound.index.1
  refine ⟨?stored, ?loaded, ?inARow, ?digits⟩
  case stored =>
    intro x upcoming inside
    obtain ⟨idle, reads⟩ := upcoming?_eq_some_iff.mp upcoming
    obtain ⟨block, located⟩ := exists_block_to x start inside
    have stores := reads.stores idle located
    refine ⟨block, stores, fun later upcoming sameIndex same => ?_⟩
    obtain ⟨idle, reads⟩ := upcoming?_eq_some_iff.mp upcoming
    have loads := reads.loads idle (sameIndex.trans located)
    exact ⟨loads, stores.load_back loads same⟩
  case loaded =>
    intro x upcoming inside
    obtain ⟨idle, reads⟩ := upcoming?_eq_some_iff.mp upcoming
    obtain ⟨block, located⟩ := exists_block_to x start inside
    have loads := reads.loads idle located
    refine ⟨block, loads, fun later upcoming sameIndex sameBytes sameRegisters => ?_⟩
    obtain ⟨idle, reads⟩ := upcoming?_eq_some_iff.mp upcoming
    have stores := reads.stores idle (sameIndex.trans located)
    exact ⟨stores, loads.store_back stores sameBytes sameRegisters⟩
  case inARow =>
    intro blocks faces spares
    obtain ⟨performs, elsewhere⟩ := faces.stores_run spares start
    exact ⟨performs, elsewhere, fun later loading sameIndex sameBytes =>
      faces.restores spares start loading sameIndex sameBytes⟩
  case digits =>
    intro x upcoming inside
    obtain ⟨idle, reads⟩ := upcoming?_eq_some_iff.mp upcoming
    obtain ⟨block, located⟩ := exists_block 3 start inside
    obtain ⟨outcome_eq, digits_eq, elsewhere, index_eq⟩ := reads.decimal idle located
    refine ⟨block, ?_⟩
    rw [digits_eq]
    exact ⟨located, outcome_eq, elsewhere, index_eq, decimalDigits_eq (machine.register x)⟩

/-! ## Two blocks saved and restored -/

/-- A register that is set to a byte; nothing that transfers depend on changes. -/
theorem Reads.sets_byte {byte : UInt8} (reads : machine.Reads (.setByte x byte))
    (idle : machine.wait = none) :
    ∃ word, machine.step.machine =
      { machine with
        pc := machine.pc + 2, registers := machine.registers.set x byte x.isLt, word := word
        cycles := machine.cycles + 1 } := by
  obtain ⟨-, span, machine_eq⟩ := reads.step_of_total idle fun _ => rfl
  exact ⟨_, machine_eq⟩

/-- A program that sets two registers, stores two blocks and loads them again. -/
def savingProgram : Array UInt8 :=
  #[0xA3, 0x00, 0x60, 0x11, 0x61, 0x22, 0xF0, 0x55, 0xF1, 0x55, 0xF0, 0x65, 0xF1, 0x65]

/-- A machine about to store the two blocks at `0x300`. -/
def saving : Machine 64 32 :=
  (started .cosmac savingProgram).run [.step, .step]

theorem saving_reachable : Reachable saving := by
  rw [saving, run_cons, run_cons, run_nil, started]
  exact ((((Reachable.usualPowerOn .cosmac (.cycle #[])).act (.load savingProgram)).act
    .step).act .step).act .step

theorem saving_begins :
    Instruction.decode (.ofBytes (savingProgram[0]?.getD 0) (savingProgram[1]?.getD 0)) =
      .setIndex 0x300 := by
  decide

/-- The words of the program behind the first one. -/
theorem saving_reads {offset : Nat} {instruction : Instruction}
    (inside : offset + 2 ≤ programRoom)
    (decoded : Instruction.decode (.ofBytes (savingProgram[offset]?.getD 0)
      (savingProgram[offset + 1]?.getD 0)) = instruction) :
    { started .cosmac savingProgram with pc := (programStart + offset : Nat) }.Reads
      instruction :=
  started_reads .cosmac (by decide) saving_begins inside decoded

/-- Two registers are set by then. -/
theorem saving_parts :
    saving.wait = none ∧ saving.compatibility = .cosmac ∧ saving.index = 0x300 ∧
      saving.pc = 0x206 ∧ saving.registersTo 1 = #v[0x11, 0x22] ∧
      saving.memory = (started .cosmac savingProgram).memory := by
  have room : savingProgram.size ≤ programRoom := by decide
  obtain ⟨word, started_eq⟩ := started_eq .cosmac room saving_begins
  have parts : (started .cosmac savingProgram).wait = none ∧
      (started .cosmac savingProgram).compatibility = .cosmac ∧
      (started .cosmac savingProgram).index = 0x300 ∧
      (started .cosmac savingProgram).pc = (programStart + 2 : Nat) := by
    rw [started_eq, act_load _ room]
    exact ⟨rfl, rfl, rfl, rfl⟩
  have setsFirst : { started .cosmac savingProgram with pc := (programStart + 2 : Nat) }.Reads
      (.setByte 0 0x11) := saving_reads (by decide) (by decide)
  have setsSecond : { started .cosmac savingProgram with pc := (programStart + 4 : Nat) }.Reads
      (.setByte 1 0x22) := saving_reads (by decide) (by decide)
  rw [saving, run_cons, run_cons, run_nil, act, act]
  -- What the program is does not matter any more; unfolding it is what takes time.
  obtain ⟨machine, machine_eq⟩ : ∃ machine, machine = started .cosmac savingProgram := ⟨_, rfl⟩
  rw [← machine_eq] at parts setsFirst setsSecond ⊢
  obtain ⟨idle, switches, index_eq, pc_eq⟩ := parts
  have first : machine.Reads (.setByte 0 0x11) := setsFirst.congr pc_eq rfl
  obtain ⟨word, first_eq⟩ := first.sets_byte idle
  have second : machine.step.machine.Reads (.setByte 1 0x22) := by
    rw [first_eq]
    exact setsSecond.congr (congrArg (· + 2) pc_eq) rfl
  have stillIdle : machine.step.machine.wait = none := by
    rw [first_eq]
    exact idle
  obtain ⟨next, second_eq⟩ := second.sets_byte stillIdle
  rw [second_eq, first_eq]
  refine ⟨idle, switches, index_eq, ?_, ?_, rfl⟩
  · rw [pc_eq]
    rfl
  · refine Vector.ext fun offset inside => ?_
    have inside : offset < 2 := inside
    obtain rfl | rfl : offset = 0 ∨ offset = 1 := by omega
    · simp [registersTo, register]
    · simp [registersTo, register]

/-- The stores and the loads stand behind one another. -/
theorem saving_carries :
    saving.Carries 0x206 [.store 0, .store 1] ∧ saving.Carries 0x20A [.load 0, .load 1] := by
  obtain ⟨-, -, -, -, -, memory_eq⟩ := saving_parts
  have reads {offset : Nat} {instruction : Instruction} (inside : offset + 2 ≤ programRoom)
      (decoded : Instruction.decode (.ofBytes (savingProgram[offset]?.getD 0)
        (savingProgram[offset + 1]?.getD 0)) = instruction) {address : Int}
      (same : address = (programStart + offset : Nat)) :
      { saving with pc := address }.Reads instruction :=
    (saving_reads inside decoded).at_of_memory same memory_eq
  refine ⟨⟨?_, ?_, trivial⟩, ⟨?_, ?_, trivial⟩⟩
  · exact @reads 6 _ (by decide) (by decide) _ rfl
  · exact @reads 8 _ (by decide) (by decide) _ rfl
  · exact @reads 10 _ (by decide) (by decide) _ rfl
  · exact @reads 12 _ (by decide) (by decide) _ rfl

theorem saving_faces : saving.Faces .store [0, 1] ∧ saving.Spares [0, 1] := by
  obtain ⟨idle, switches, index_eq, pc_eq, -⟩ := saving_parts
  refine ⟨⟨idle, ?_, ?_, ?_⟩, ?_⟩
  · rw [switches]
    rfl
  · rw [index_eq]
    decide
  · rw [pc_eq]
    exact saving_carries.1
  · rw [Spares, index_eq, pc_eq]
    decide

/-- With the index put back and the registers cleared, the loads bring back what the
registers held. -/
theorem saving_restores :
    Reachable saving ∧
      let later := { saving.after 2 with
        index := saving.index, registers := Vector.replicate 16 0 }
      later.Performs .load [0, 1] ∧ (later.after 2).registersTo 1 = #v[0x11, 0x22] := by
  obtain ⟨idle, -, index_eq, pc_eq, registers_eq, -⟩ := saving_parts
  obtain ⟨faces, spares⟩ := saving_faces
  have reachable := saving_reachable
  have code := saving_carries.2
  -- What the program is does not matter any more; unfolding it is what takes time.
  obtain ⟨machine, machine_eq⟩ : ∃ machine, machine = saving := ⟨_, rfl⟩
  rw [← machine_eq] at idle index_eq pc_eq registers_eq faces spares reachable code ⊢
  obtain ⟨stored, -, inARow, -⟩ := transfers_restore reachable
  obtain ⟨performs, elsewhere, undone⟩ := inARow [0, 1] faces spares
  have carries : (machine.after 2).Carries (machine.pc + 2 * 2) [.load 0, .load 1] := by
    rw [pc_eq]
    refine code.of_memory fun place lower upper => elsewhere place (.inl ?_)
    simp only [List.length_cons, List.length_nil] at upper
    omega
  obtain ⟨performsLater, restored⟩ :=
    undone _ (performs.faces_loads faces carries (Vector.replicate 16 0)) rfl fun _ _ _ => rfl
  obtain ⟨block, stores, -⟩ :=
    stored 0 (upcoming?_eq_some_iff.mpr ⟨idle, faces.reads⟩) (by rw [index_eq]; decide)
  have kept : (machine.after 1).registersTo 1 = machine.registersTo 1 := by
    change machine.step.machine.registersTo 1 = machine.registersTo 1
    simp only [registersTo, register, stores.registers]
  exact ⟨reachable, performsLater, (restored 1 (by decide)).trans (kept.trans registers_eq)⟩

end Machine

end ChipEight
