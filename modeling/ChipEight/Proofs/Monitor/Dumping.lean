import ChipEight.Proofs.Safety
import ChipEight.Proofs.Text.Hexadecimal

/-!
# What a dump shows

A line of a dump holds words between blanks: an address with a colon behind it, and bytes of
two digits each.  `Monitor.DumpRow.read?` reads them back, and passes over the blank cells at
the end of a short row.  The rows read from the lines of a dump cover the bytes asked for, as
far as memory goes: sixteen in each row but the last, each byte once (`Monitor.dump_covers`).
-/

namespace ChipEight.Monitor

open ChipEight.Text

/-! ## Reading a line back -/

/-- The words of a text: what stands between blanks. -/
def inkOf (text : List Char) : List (List Char) :=
  (text.splitOn ' ').filter (!·.isEmpty)

/-- The byte that two digits write. -/
def byteOf? (digits : List Char) : Option UInt8 :=
  if digits.length = 2 ∧ digits.all (fun c => (Integer.digitValue? c).isSome) = true then
    some (UInt8.ofNat (Integer.digitsValue 16 digits))
  else none

/-- The address that a word with a colon behind it writes. -/
def placeOf? : List Char → Option Nat
  | '0' :: 'x' :: digits =>
    if digits.getLast? = some ':' then some (Integer.digitsValue 16 digits.dropLast) else none
  | _ => none

/-- Read the row that a line shows. -/
def DumpRow.read? (line : String) : Option DumpRow :=
  match inkOf line.toList with
  | place :: cells => do return ⟨← placeOf? place, ← cells.mapM byteOf?⟩
  | [] => none

theorem inkOf_append (front back : List Char) :
    inkOf (front ++ ' ' :: back) = inkOf front ++ inkOf back := by
  rw [inkOf, List.splitOn_append_cons_self, List.filter_append]
  rfl

theorem inkOf_word {text : List Char} (ink : ' ' ∉ text) (nonempty : text ≠ []) :
    inkOf text = [text] := by
  rw [inkOf, List.splitOn_eq_singleton ink]
  simp [nonempty]

theorem inkOf_intercalate (cells : List (List Char)) :
    inkOf ([' '].intercalate cells) = cells.flatMap inkOf := by
  induction cells with
  | nil => rfl
  | cons first rest ih =>
    cases rest with
    | nil => simp
    | cons second rest =>
      rw [List.intercalate_cons_cons, List.append_assoc, List.singleton_append, inkOf_append, ih]
      rfl

/-! ### Cells -/

/-- The digits of a byte. -/
def byteDigits (byte : UInt8) : List Char :=
  (Hex.bare 2 byte.toNat).toList

theorem length_byteDigits (byte : UInt8) : (byteDigits byte).length = 2 :=
  Hex.length_bare (by decide) byte.toNat_lt

theorem byteOf?_byteDigits (byte : UInt8) : byteOf? (byteDigits byte) = some byte := by
  have digits : (byteDigits byte).all (fun c => (Integer.digitValue? c).isSome) = true :=
    List.all_eq_true.mpr fun _ member => Hex.isSome_of_mem_bare member
  rw [byteOf?, if_pos ⟨length_byteDigits byte, digits⟩, byteDigits, Hex.digitsValue_bare,
    UInt8.ofNat_toNat]

theorem inkOf_byteDigits (byte : UInt8) : inkOf (byteDigits byte) = [byteDigits byte] := by
  apply inkOf_word
  · intro blank
    exact absurd (Hex.isSome_of_mem_bare blank) (by decide)
  · apply List.ne_nil_of_length_pos
    rw [length_byteDigits]
    decide

/-- The words in the cells of a row are its bytes: cells without a byte hold none. -/
theorem flatMap_inkOf_cells (row : DumpRow) :
    (row.cells.map String.toList).flatMap inkOf = row.bytes.map byteDigits := by
  have blanks (count : Nat) : (List.replicate count "  ".toList).flatMap inkOf = [] := by
    have none_in : inkOf "  ".toList = [] := by decide
    rw [List.flatMap_replicate, none_in, List.flatten_replicate_nil]
  have digits : (String.toList ∘ fun byte : UInt8 => Hex.bare 2 byte.toNat) = byteDigits := rfl
  rw [DumpRow.cells, List.map_append, List.map_map, List.map_replicate, List.flatMap_append, blanks,
    List.append_nil, digits, List.flatMap_map, List.map_eq_flatMap]
  simp only [inkOf_byteDigits]

/-! ### Lines -/

/-- The word that a row begins with. -/
def placeWord (place : Nat) : List Char :=
  (Hex.address place).toList ++ [':']

theorem placeWord_eq (place : Nat) :
    placeWord place = '0' :: 'x' :: ((Hex.bare 3 place).toList ++ [':']) := by
  rw [placeWord, Hex.address, Hex.toList_marked 3]
  rfl

theorem placeOf?_placeWord (place : Nat) : placeOf? (placeWord place) = some place := by
  rw [placeWord_eq, placeOf?, if_pos (by simp), List.dropLast_concat, Hex.digitsValue_bare]

theorem inkOf_placeWord (place : Nat) : inkOf (placeWord place) = [placeWord place] := by
  apply inkOf_word
  · rw [placeWord_eq]
    intro blank
    simp only [List.mem_cons, List.mem_append, List.not_mem_nil, or_false] at blank
    rcases blank with marker | marker | digit | colon
    · exact absurd marker (by decide)
    · exact absurd marker (by decide)
    · exact absurd (Hex.isSome_of_mem_bare digit) (by decide)
    · exact absurd colon (by decide)
  · rw [placeWord_eq]
    exact List.cons_ne_nil _ _

theorem toList_line (place : Nat) (bytes : List UInt8) :
    let row : DumpRow := ⟨place, bytes⟩
    let cells := row.cells.map String.toList
    row.line.toList = ' ' :: ' ' :: (placeWord place ++ ' ' ::
      ([' '].intercalate (cells.take 8) ++ ' ' :: ' ' :: [' '].intercalate (cells.drop 8))) := by
  intro row cells
  have blank : " ".toList = [' '] := rfl
  have blanks : "  ".toList = [' ', ' '] := rfl
  have colon : ": ".toList = [':', ' '] := rfl
  simp only [row, cells, DumpRow.line, placeWord, String.toList_append, String.toList_intercalate,
    blank, blanks, colon, List.map_take, List.map_drop, List.append_assoc, List.cons_append,
    List.nil_append]

/-- The words of a line are the address and the bytes, in order. -/
theorem inkOf_line (place : Nat) (bytes : List UInt8) :
    inkOf (DumpRow.line ⟨place, bytes⟩).toList = placeWord place :: bytes.map byteDigits := by
  have leading (text : List Char) : inkOf (' ' :: text) = inkOf text := inkOf_append [] text
  rw [toList_line, leading, leading, inkOf_append, inkOf_placeWord, inkOf_append, leading,
    inkOf_intercalate, inkOf_intercalate, ← List.flatMap_append, List.take_append_drop,
    flatMap_inkOf_cells]
  rfl

/-- What a line shows reads back. -/
theorem DumpRow.read?_line (place : Nat) (bytes : List UInt8) :
    DumpRow.read? (DumpRow.line ⟨place, bytes⟩) = some ⟨place, bytes⟩ := by
  have reads : ∀ byte ∈ bytes, (byteOf? ∘ byteDigits) byte = pure (id byte) := by
    intro byte _
    rw [Function.comp_apply, byteOf?_byteDigits]
    rfl
  have cells : (bytes.map byteDigits).mapM byteOf? = some bytes := by
    rw [List.mapM_map, mapM_eq_pure_map reads, List.map_id]
    rfl
  rw [DumpRow.read?, inkOf_line]
  simp only [placeOf?_placeWord, cells]
  rfl

/-! ## Rows -/

/-- Whether rows cover the bytes from one place up to another: they begin there and follow each
other at sixteen places, their bytes are those of memory, each once, and every row but the last
one is full. -/
structure Covers (memory : Array UInt8) (start stop : Nat) (rows : List DumpRow) : Prop where
  addresses : rows.map DumpRow.address =
    (List.range rows.length).map fun row => ((start + 16 * row : Nat) : Int)
  bytes : rows.flatMap DumpRow.bytes = (memory.extract start stop).toList
  full : ∀ row ∈ rows.dropLast, row.bytes.length = 16
  nonempty : ∀ row ∈ rows, row.bytes ≠ []

/-- The row at a place of a dump up to another one. -/
def rowFrom (memory : Array UInt8) (stop place : Nat) : DumpRow :=
  ⟨place, (memory.extract place (min (place + 16) stop)).toList⟩

/-- How many rows there are up to a place. -/
def rowCount (start stop : Nat) : Nat :=
  (stop - start + 15) / 16

variable {memory : Array UInt8} {start stop : Nat}

/-- Places within memory are neither counted from its end nor held back. -/
theorem slice_natCast (startInside : start ≤ memory.size) (stopInside : stop ≤ memory.size) :
    slice memory start stop = (memory.extract start stop).toList := by
  have held {place : Nat} (inside : place ≤ memory.size) :
      clampPlace memory.size place = place := by
    rw [clampPlace, if_neg (Int.not_lt.mpr (Int.natCast_nonneg place)), Int.toNat_natCast,
      Nat.min_eq_left inside]
  rw [slice, held startInside, held stopInside]

theorem dumpRows_natCast (ordered : start ≤ stop) (inside : stop ≤ memory.size) :
    dumpRows memory start stop = (List.range (rowCount start stop)).map fun row =>
      rowFrom memory stop (start + 16 * row) := by
  have count_eq : (((stop : Int) - start + 15) / 16).toNat = rowCount start stop := by
    rw [rowCount]
    omega
  rw [dumpRows, count_eq]
  refine List.map_congr_left fun row asked => ?_
  rw [List.mem_range, rowCount] at asked
  have place_eq : (start : Int) + 16 * (row : Nat) = ((start + 16 * row : Nat) : Int) := by
    omega
  have end_eq : min (((start + 16 * row : Nat) : Int) + 16) stop =
      ((min (start + 16 * row + 16) stop : Nat) : Int) := by
    omega
  simp only [place_eq, end_eq, rowFrom]
  rw [slice_natCast (by omega) (by omega)]

/-- The bytes of rows that follow each other are those of memory from the first row on. -/
theorem flatMap_bytes_rowFrom (memory : Array UInt8) (ordered : start ≤ stop) (count : Nat) :
    ((List.range count).map fun row => rowFrom memory stop (start + 16 * row)).flatMap
        DumpRow.bytes =
      (memory.extract start (min (start + 16 * count) stop)).toList := by
  induction count with
  | zero =>
    rw [Array.extract_empty_of_stop_le_start (by omega)]
    rfl
  | succ count ih =>
    -- Either all rows so far are full, or what comes next lies past the end.
    have joined : memory.extract start (min (start + 16 * count) stop) ++
          memory.extract (start + 16 * count) (min (start + 16 * count + 16) stop) =
        memory.extract start (min (start + 16 * (count + 1)) stop) := by
      rcases Nat.le_total (start + 16 * count) stop with before | past
      · rw [Nat.min_eq_left before, Array.extract_append_extract]
        congr 1 <;> omega
      · have none_left : memory.extract (start + 16 * count) (min (start + 16 * count + 16) stop) =
            #[] := Array.extract_empty_of_stop_le_start (by omega)
        rw [none_left, Array.append_empty]
        congr 1
        omega
    rw [List.range_succ, List.map_append, List.flatMap_append, ih, ← joined, Array.toList_append]
    simp [rowFrom]

theorem length_bytes_rowFrom (memory : Array UInt8) (stop place : Nat) :
    (rowFrom memory stop place).bytes.length =
      min (min (place + 16) stop) memory.size - place := by
  rw [rowFrom, Array.length_toList, Array.size_extract]

theorem read?_line_rowFrom (memory : Array UInt8) (stop place : Nat) :
    DumpRow.read? (rowFrom memory stop place).line = some (rowFrom memory stop place) :=
  DumpRow.read?_line place (memory.extract place (min (place + 16) stop)).toList

/-- The lines of rows read back. -/
theorem mapM_read?_lines (ordered : start ≤ stop) (inside : stop ≤ memory.size) :
    ((dumpRows memory start stop).map DumpRow.line).mapM DumpRow.read? =
      some (dumpRows memory start stop) := by
  rw [dumpRows_natCast ordered inside, List.map_map, List.mapM_map]
  refine mapM_eq_pure_map fun row _ => ?_
  rw [Function.comp_apply, Function.comp_apply, read?_line_rowFrom]
  rfl

/-- The rows of a dump cover what it is asked for. -/
theorem covers_dumpRows (ordered : start ≤ stop) (inside : stop ≤ memory.size) :
    Covers memory start stop (dumpRows memory start stop) := by
  rw [dumpRows_natCast ordered inside]
  constructor
  · rw [List.map_map, List.length_map, List.length_range]
    rfl
  · have whole : min (start + 16 * rowCount start stop) stop = stop := by
      rw [rowCount]
      omega
    rw [flatMap_bytes_rowFrom memory ordered, whole]
  · intro row front
    obtain ⟨index, asked, rfl⟩ := List.getElem_of_mem front
    rw [List.length_dropLast, List.length_map, List.length_range, rowCount] at asked
    rw [List.getElem_dropLast, List.getElem_map, List.getElem_range, length_bytes_rowFrom]
    omega
  · intro row listed
    obtain ⟨index, asked, rfl⟩ := List.mem_map.mp listed
    rw [List.mem_range, rowCount] at asked
    apply List.ne_nil_of_length_pos
    rw [length_bytes_rowFrom]
    omega

/-! ## The command -/

/-- Whether an argument asks for a dump of so many bytes from an address on. -/
def AsksDump (monitor : Monitor) (argument : String) (start count : Int) : Prop :=
  ∃ place rest, wordsOf argument = .ok (place :: rest) ∧
    address monitor.machine place = .ok start ∧ countOr 64 rest = .ok count

/-- A dump shows its rows and changes nothing. -/
theorem dump_of_asksDump {monitor : Monitor} {argument : String} {start count : Int}
    (asked : monitor.AsksDump argument start count) :
    monitor.dump argument = .ok {
      monitor
      lines := (dumpRows monitor.machine.memory.toArray start
        (min (start + count) memorySize)).map DumpRow.line } := by
  obtain ⟨place, rest, divided, located, counted⟩ := asked
  rw [dump, divided]
  simp only [bind, Except.bind, located, counted]
  rfl

/-- A dump from an address in memory on changes nothing.  What its lines show, read back, are
rows at every sixteenth place from that address on; their bytes, in order, are those of memory
from the address on, as many as are asked for or as there are; and all rows but the last one
hold sixteen of them. -/
theorem dump_covers (monitor : Monitor) {line argument : String} {start count : Nat}
    (parsed : Line.parse line = .command .dump argument)
    (asked : monitor.AsksDump argument start count) (inside : start ≤ 0xFFF) :
    ∃ lines rows, monitor.carryOut line = { monitor, lines } ∧
      lines.mapM DumpRow.read? = some rows ∧
      Covers monitor.machine.memory.toArray start (min (start + count) 4096) rows := by
  let stop := min (start + count) 4096
  have ordered : start ≤ stop := by omega
  have within : stop ≤ monitor.machine.memory.toArray.size := by
    rw [Vector.size_toArray]
    exact Nat.min_le_right _ _
  have stop_eq : min ((start : Int) + count) memorySize = (stop : Int) := by
    simp only [stop, memorySize]
    omega
  refine ⟨_, _, ?_, mapM_read?_lines ordered within, covers_dumpRows ordered within⟩
  simp only [carryOut, parsed, perform, dump_of_asksDump asked, stop_eq]

/-- A dump that reaches the end of memory from a place that is no multiple of sixteen. -/
theorem lastBytes_covered :
    let monitor := Monitor.over (Machine.powerOn .reference (.cycle #[]))
    Line.parse "dump 0xfe5 64" = .command .dump "0xfe5 64" ∧
      ∃ lines rows, monitor.carryOut "dump 0xfe5 64" = { monitor, lines } ∧
        lines.mapM DumpRow.read? = some rows ∧
        Covers monitor.machine.memory.toArray 0xFE5 4096 rows := by
  intro monitor
  have parsed : Line.parse "dump 0xfe5 64" = .command .dump "0xfe5 64" := by
    decide +kernel
  have asked : monitor.AsksDump "0xfe5 64" (0xFE5 : Nat) (64 : Nat) :=
    ⟨"0xfe5", ["64"], rfl, rfl, rfl⟩
  exact ⟨parsed, dump_covers monitor parsed asked (by decide)⟩

end ChipEight.Monitor
