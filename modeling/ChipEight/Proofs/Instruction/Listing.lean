import ChipEight.Instruction.Listing
import ChipEight.Proofs.Instruction.Reading

/-!
# What a listing shows

A row of a listing shows an address, a word and the text of the word, and the line of the row
says so: `Listing.Entry.read?` reads all three back (`Listing.Entry.read?_line`).

A listing that starts at a place of memory, or past its end, is never refused.  It has a
row for every two bytes, as far as it is asked to, and one for a last odd byte.  What its
rows show spells out the bytes they stand for, in order, with a zero behind a last odd byte
(`Listing.rows_spell`).  One that starts before the first byte is refused if it has a row
at all (`Listing.rows_eq_error_iff`).
-/

namespace ChipEight

namespace Word

theorem high_ofBytes (high low : UInt8) : (ofBytes high low).high = high := by
  have := high.toNat_lt
  have := low.toNat_lt
  apply UInt8.toNat_inj.mp
  simp only [Word.high, ofBytes, UInt16.toNat_ofNat', UInt8.toNat_ofNat']
  omega

theorem nn_ofBytes (high low : UInt8) : (ofBytes high low).nn = low := by
  have := high.toNat_lt
  have := low.toNat_lt
  apply UInt8.toNat_inj.mp
  simp only [Word.nn, ofBytes, UInt16.toNat_ofNat', UInt8.toNat_ofNat']
  omega

/-- A word is known by its bytes. -/
theorem ofBytes_high_nn (word : Word) : ofBytes word.high word.nn = word := by
  have := word.toNat_lt
  apply UInt16.toNat_inj.mp
  simp only [Word.high, Word.nn, ofBytes, UInt16.toNat_ofNat', UInt8.toNat_ofNat']
  omega

end Word

namespace Listing

open ChipEight.Text

/-! ## Lines -/

/-- What a row shows. -/
structure Entry where
  /-- The address of the first byte. -/
  address : Int
  /-- The word at that address. -/
  word : Word
  /-- The text of the word. -/
  text : String
  deriving DecidableEq, Repr

/-- What a row shows: its address, its word and the text of its word. -/
def Row.entry (row : Row) : Entry :=
  ⟨row.address, row.word, row.text⟩

namespace Entry

/-- The word that four digits write. -/
def wordOf? (digits : List Char) : Option Word :=
  if digits.length = 4 then (Hex.number? digits).map UInt16.ofNat else none

/-- Read what a line shows: an address in front of a colon, four digits behind it, and a text
behind two blanks. -/
def read? (line : String) : Option Entry :=
  let place := line.toList.takeWhile (· != ':')
  match line.toList.dropWhile (· != ':') with
  | ':' :: ' ' :: rest =>
    match rest.drop 4 with
    | ' ' :: ' ' :: text => do
      return ⟨← Hex.read? place, ← wordOf? (rest.take 4), String.ofList text⟩
    | _ => none
  | _ => none

theorem toList_line (row : Row) :
    row.line.toList = (Hex.address row.address).toList ++ ':' :: ' ' ::
      ((Hex.bare 4 row.word.toNat).toList ++ ' ' :: ' ' :: row.text.toList) := by
  have colon : ": ".toList = [':', ' '] := rfl
  have blanks : "  ".toList = [' ', ' '] := rfl
  simp only [Row.line, String.toList_append, colon, blanks, List.append_assoc, List.cons_append,
    List.nil_append]

theorem length_digits (word : Word) : (Hex.bare 4 word.toNat).toList.length = 4 :=
  Hex.length_bare (by decide) word.toNat_lt

theorem wordOf?_digits (word : Word) : wordOf? (Hex.bare 4 word.toNat).toList = some word := by
  rw [wordOf?, if_pos (length_digits word), Hex.number?_bare, Option.map_some, UInt16.ofNat_toNat]

/-- What a row shows reads back from its line. -/
theorem read?_line (row : Row) : read? row.line = some row.entry := by
  have inFront : ∀ c ∈ (Hex.address row.address).toList, (c != ':') = true := by
    intro c member
    have not_colon : ':' ∉ (Hex.address row.address).toList :=
      Hex.not_mem_marked (by decide) (by decide) (by decide)
    exact bne_iff_ne.mpr fun colon => not_colon (colon ▸ member)
  have place : row.line.toList.takeWhile (· != ':') = (Hex.address row.address).toList := by
    rw [toList_line, List.takeWhile_append_of_pos inFront]
    simp
  have behind : row.line.toList.dropWhile (· != ':') =
      ':' :: ' ' :: ((Hex.bare 4 row.word.toNat).toList ++ ' ' :: ' ' :: row.text.toList) := by
    rw [toList_line, List.dropWhile_append_of_pos inFront]
    simp
  have digits := length_digits row.word
  simp only [read?, place, behind, List.drop_left' digits, List.take_left' digits, wordOf?_digits,
    Hex.address, Hex.read?_marked, String.ofList_toList]
  rfl

/-- A row is shown on one line. -/
theorem newline_not_mem_line (row : Row) : '\n' ∉ row.line.toList := by
  have not_in_address : '\n' ∉ (Hex.address row.address).toList :=
    Hex.not_mem_marked (by decide) (by decide) (by decide)
  have not_in_digits : '\n' ∉ (Hex.bare 4 row.word.toNat).toList :=
    fun member => absurd (Hex.isDigit_of_mem_bare member) (by decide)
  have not_in_text : '\n' ∉ row.text.toList :=
    (Instruction.decode row.word).newline_not_mem_mnemonic
  rw [toList_line]
  simp [not_in_address, not_in_digits, not_in_text]

end Entry

/-! ## Bytes that are spelled out -/

/-- The bytes of an entry, the more significant one first. -/
def Entry.bytes (entry : Entry) : List UInt8 :=
  [entry.word.high, entry.word.nn]

/-- The row at a place, with zeros for what lies past the end of memory. -/
def Row.reading (memory : Array UInt8) (place : Nat) : Row :=
  ⟨place, Word.ofBytes (memory[place]?.getD 0) (memory[place + 1]?.getD 0)⟩

/-- Whether entries that begin at a place spell out bytes: two in each, with at most one zero
behind them.  Every entry has the text of its word. -/
structure Spells (start : Nat) (bytes : List UInt8) (entries : List Entry) : Prop where
  addresses : entries.map Entry.address =
    (List.range entries.length).map fun row => ((start + 2 * row : Nat) : Int)
  texts : ∀ entry ∈ entries, entry.text = (Instruction.decode entry.word).mnemonic
  spelled : entries.flatMap Entry.bytes = bytes.rightpad (2 * entries.length) 0
  padding : 2 * entries.length ≤ bytes.length + 1

/-- Entries are known by their addresses and bytes, if they have the texts of their words. -/
theorem eq_of_bytes_eq {entries others : List Entry}
    (addresses : entries.map Entry.address = others.map Entry.address)
    (bytes : entries.flatMap Entry.bytes = others.flatMap Entry.bytes)
    (texts : ∀ entry ∈ entries ++ others, entry.text = (Instruction.decode entry.word).mnemonic) :
    entries = others := by
  induction entries generalizing others with
  | nil => exact (List.map_eq_nil_iff.mp addresses.symm).symm
  | cons entry rest ih =>
    cases others with
    | nil => cases addresses
    | cons other others =>
      obtain ⟨address_eq, addresses⟩ := List.cons.inj addresses
      simp only [List.flatMap_cons, Entry.bytes, List.cons_append, List.nil_append] at bytes
      obtain ⟨high_eq, bytes⟩ := List.cons.inj bytes
      obtain ⟨low_eq, bytes⟩ := List.cons.inj bytes
      have word_eq : entry.word = other.word := by
        rw [← entry.word.ofBytes_high_nn, high_eq, low_eq, other.word.ofBytes_high_nn]
      have text_eq : entry.text = other.text := by
        rw [texts entry (by simp), texts other (by simp), word_eq]
      have rest_eq : rest = others := by
        refine ih addresses bytes fun entry member => texts entry ?_
        rcases List.mem_append.mp member with mine | theirs
        · simp [mine]
        · simp [theirs]
      rw [rest_eq]
      exact congrArg (· :: others) (congr (congr (congrArg Entry.mk address_eq) word_eq) text_eq)

/-- No two lists of entries of one length spell out the same bytes. -/
theorem Spells.unique {start : Nat} {bytes : List UInt8} {entries others : List Entry}
    (spells : Spells start bytes entries) (alike : Spells start bytes others)
    (length_eq : entries.length = others.length) : entries = others := by
  apply eq_of_bytes_eq
  · rw [spells.addresses, alike.addresses, length_eq]
  · rw [spells.spelled, alike.spelled, length_eq]
  · intro entry member
    rcases List.mem_append.mp member with mine | theirs
    · exact spells.texts entry mine
    · exact alike.texts entry theirs

theorem bytes_entry_reading (memory : Array UInt8) (place : Nat) :
    (Row.reading memory place).entry.bytes =
      [memory[place]?.getD 0, memory[place + 1]?.getD 0] := by
  rw [Entry.bytes, Row.entry, Row.reading, Word.high_ofBytes, Word.nn_ofBytes]

/-! ## Rows -/

/-- No place from the first byte on is refused. -/
theorem byteAt_natCast (memory : Array UInt8) (place : Nat) :
    byteAt memory place = .ok (memory[place]?.getD 0) := by
  rw [byteAt]
  split
  · rename_i past
    rw [Array.getElem?_eq_none (Int.ofNat_le.mp past), Option.getD_none]
  · rw [if_pos (Int.natCast_nonneg place), Int.toNat_natCast]

theorem rowAt_natCast (memory : Array UInt8) (place : Nat) :
    rowAt memory place = .ok (.reading memory place) := by
  have next : byteAt memory (place + 1) = .ok (memory[place + 1]?.getD 0) :=
    byteAt_natCast memory (place + 1)
  rw [rowAt, byteAt_natCast, next]
  rfl

/-- The rows of a listing: one for every two bytes, as far as it is asked to go. -/
def readings (memory : Array UInt8) (start count : Nat) : List Row :=
  (List.range (min count ((memory.size - start + 1) / 2))).map fun row =>
    .reading memory (start + 2 * row)

theorem length_readings (memory : Array UInt8) (start count : Nat) :
    (readings memory start count).length = min count ((memory.size - start + 1) / 2) := by
  rw [readings, List.length_map, List.length_range]

theorem rows_natCast (memory : Array UInt8) (start count : Nat) :
    rows memory start count = .ok (readings memory start count) := by
  induction count generalizing start with
  | zero => rw [rows, readings, Nat.zero_min, List.range_zero, List.map_nil]
  | succ count ih =>
    rw [rows]
    split
    · rename_i past
      have none_left : (memory.size - start + 1) / 2 = 0 := by omega
      rw [readings, none_left, Nat.min_zero, List.range_zero, List.map_nil]
    · rename_i inside
      have one_more : min (count + 1) ((memory.size - start + 1) / 2) =
          min count ((memory.size - (start + 2) + 1) / 2) + 1 := by omega
      have rest : rows memory (start + 2) count = .ok (readings memory (start + 2) count) :=
        ih (start + 2)
      have readings_eq : readings memory start (count + 1) =
          .reading memory start :: readings memory (start + 2) count := by
        rw [readings, one_more, List.range_succ_eq_map, List.map_cons, List.map_map, readings]
        refine List.cons_eq_cons.mpr ⟨rfl, List.map_congr_left fun row _ => ?_⟩
        exact congrArg (Row.reading memory) (by simp only [Nat.succ_eq_add_one]; omega)
      rw [rowAt_natCast, rest, readings_eq]
      rfl

/-! ## Bytes -/

theorem flatMap_range_pair {α : Type} (value : Nat → α) (count : Nat) :
    ((List.range count).flatMap fun row => [value (2 * row), value (2 * row + 1)]) =
      (List.range (2 * count)).map value := by
  induction count with
  | zero => rfl
  | succ count ih =>
    rw [List.range_succ, List.flatMap_append, ih, Nat.mul_succ, List.range_succ, List.range_succ]
    simp

/-- Bytes read from a place on are those that are there, and then zeros. -/
theorem map_range_getD (memory : Array UInt8) (start count : Nat) :
    ((List.range count).map fun offset => memory[start + offset]?.getD 0) =
      (memory.extract start (start + count)).toList.rightpad count 0 := by
  apply List.ext_getElem
  · simp only [List.length_map, List.length_range, List.rightpad, List.length_append,
      List.length_replicate, Array.length_toList, Array.size_extract]
    omega
  · intro offset asked _
    rw [List.length_map, List.length_range] at asked
    by_cases inside : start + offset < memory.size
    · have taken : offset < min count (memory.size - start) := by omega
      simp [List.rightpad, inside, taken]
    · have past : ¬ offset < min count (memory.size - start) := by omega
      simp [List.rightpad, List.getElem_append, inside, past]

theorem flatMap_bytes_readings (memory : Array UInt8) (start count : Nat) :
    let rows := readings memory start count
    (rows.map Row.entry).flatMap Entry.bytes =
      (memory.extract start (start + 2 * rows.length)).toList.rightpad (2 * rows.length) 0 := by
  intro rows
  have length_eq : rows.length = min count ((memory.size - start + 1) / 2) :=
    length_readings memory start count
  rw [length_eq, ← map_range_getD, ← flatMap_range_pair]
  simp only [rows, readings, List.flatMap_map, bytes_entry_reading, Nat.add_assoc]

/-- A listing from a place on spells out the bytes of memory from there on, as far as it
is asked to go. -/
theorem rows_spell (memory : Array UInt8) (start count : Nat) :
    ∃ rows, Listing.rows memory start count = .ok rows ∧
      rows.length = min count ((memory.size - start + 1) / 2) ∧
      Spells start (memory.extract start (start + 2 * rows.length)).toList
        (rows.map Row.entry) := by
  have length_eq := length_readings memory start count
  refine ⟨_, rows_natCast memory start count, length_eq, ?_, ?_, ?_, ?_⟩
  · rw [List.length_map, length_eq, readings, List.map_map, List.map_map]
    rfl
  · intro entry shown
    obtain ⟨row, -, rfl⟩ := List.mem_map.mp shown
    rfl
  · rw [List.length_map]
    exact flatMap_bytes_readings memory start count
  · rw [List.length_map, length_eq, Array.length_toList, Array.size_extract]
    omega

/-! ## Refusals -/

/-- Why a place before the first byte is refused. -/
def refusal (address : Int) : AddressError :=
  if Bounds.isWord address then .beforeFirst else .noPosition

/-- A byte is refused if it lies before the first one. -/
theorem byteAt_eq_error_iff {memory : Array UInt8} {address : Int} {error : AddressError} :
    byteAt memory address = .error error ↔
      address < -(memory.size : Int) ∧ error = refusal address := by
  rw [byteAt, refusal]
  split
  · simp only [reduceCtorEq, false_iff]
    omega
  · split
    · simp only [reduceCtorEq, false_iff]
      omega
    · split
      · simp only [reduceCtorEq, false_iff]
        omega
      · have before : address < -(memory.size : Int) := by omega
        split <;> simp [before, eq_comm]

theorem byteAt_ok {memory : Array UInt8} {address : Int} (inside : -(memory.size : Int) ≤ address) :
    ∃ byte, byteAt memory address = .ok byte := by
  cases read : byteAt memory address with
  | ok byte => exact ⟨byte, rfl⟩
  | error error => exact absurd (byteAt_eq_error_iff.mp read).1 (Int.not_lt.mpr inside)

/-- A row is refused if its first byte is. -/
theorem rowAt_eq_error_iff {memory : Array UInt8} {address : Int} {error : AddressError} :
    rowAt memory address = .error error ↔
      address < -(memory.size : Int) ∧ error = refusal address := by
  rw [rowAt]
  cases first : byteAt memory address with
  | error refused =>
    obtain ⟨before, rfl⟩ := byteAt_eq_error_iff.mp first
    constructor
    · intro ended
      exact ⟨before, (Except.error.inj ended).symm⟩
    · rintro ⟨-, rfl⟩
      rfl
  | ok high =>
    have inside : ¬ address < -(memory.size : Int) := by
      intro before
      rw [byteAt_eq_error_iff.mpr ⟨before, rfl⟩] at first
      contradiction
    have next : -(memory.size : Int) ≤ address + 1 := by omega
    obtain ⟨low, second⟩ := byteAt_ok next
    rw [second]
    constructor
    · intro ended
      contradiction
    · rintro ⟨before, -⟩
      exact absurd before inside

theorem rowAt_ok {memory : Array UInt8} {address : Int} (inside : -(memory.size : Int) ≤ address) :
    ∃ row, rowAt memory address = .ok row := by
  cases read : rowAt memory address with
  | ok row => exact ⟨row, rfl⟩
  | error error => exact absurd (rowAt_eq_error_iff.mp read).1 (Int.not_lt.mpr inside)

/-- Rows ascend, so they are all there if the first one is. -/
theorem rows_ok {memory : Array UInt8} {start : Int} (inside : -(memory.size : Int) ≤ start)
    (count : Nat) : ∃ listed, rows memory start count = .ok listed := by
  induction count generalizing start with
  | zero => exact ⟨[], rfl⟩
  | succ count ih =>
    rw [rows]
    split
    · exact ⟨[], rfl⟩
    · obtain ⟨row, first⟩ := rowAt_ok inside
      have next : -(memory.size : Int) ≤ start + 2 := by omega
      obtain ⟨rest, others⟩ := ih next
      exact ⟨row :: rest, by rw [first, others]; rfl⟩

/-- A listing is refused if it has a row and begins before the first byte. -/
theorem rows_eq_error_iff {memory : Array UInt8} {start : Int} {count : Nat}
    {error : AddressError} :
    rows memory start count = .error error ↔
      1 ≤ count ∧ start < -(memory.size : Int) ∧ error = refusal start := by
  by_cases before : start < -(memory.size : Int)
  · cases count with
    | zero => simp [rows]
    | succ count =>
      have first : rowAt memory start = .error (refusal start) :=
        rowAt_eq_error_iff.mpr ⟨before, rfl⟩
      have inside : ¬ (memory.size : Int) ≤ start := by omega
      rw [rows, if_neg inside, first]
      constructor
      · intro ended
        exact ⟨Nat.succ_pos count, before, (Except.error.inj ended).symm⟩
      · rintro ⟨-, -, rfl⟩
        rfl
  · obtain ⟨listed, ended⟩ := rows_ok (Int.not_lt.mp before) count
    rw [ended]
    constructor
    · intro refused
      contradiction
    · rintro ⟨-, refused, -⟩
      exact absurd refused before

end Listing

end ChipEight
