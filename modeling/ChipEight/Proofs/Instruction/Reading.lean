import ChipEight.Instruction.Mnemonic
import ChipEight.Proofs.Text.Hexadecimal

/-!
# Reading instructions back

The written form of an instruction is a name and operands, and it says all there is to
say: `Instruction.ofText?` reads the instruction back from it.  So no two instructions
are written alike (`Instruction.mnemonic_inj`).

Operands of different kinds never look alike.  Registers begin with a `V`, hexadecimal
numbers with `0x`, and the kinds of hexadecimal numbers differ in how many digits they
have.
-/

namespace ChipEight

open ChipEight.Text

/-! ## Operands -/

/-- What the name of an instruction may be followed by. -/
inductive Operand where
  /-- A register. -/
  | register (x : Register)
  /-- A byte. -/
  | byte (value : UInt8)
  /-- An address. -/
  | address (target : Address)
  /-- A word that is no instruction. -/
  | word (data : Word)
  /-- How many rows a sprite has. -/
  | rows (count : Fin 16)
  /-- The index. -/
  | index
  /-- The bytes at the index. -/
  | block
  /-- The timer that programs read. -/
  | delay
  /-- The timer that sounds the tone. -/
  | sound
  /-- A key. -/
  | key
  /-- A glyph. -/
  | glyph
  /-- Decimal digits. -/
  | decimal
  deriving DecidableEq, Repr

namespace Operand

/-- The written form of an operand. -/
def text : Operand → String
  | .register x => x.name
  | .byte value => Hex.byte value
  | .address target => Hex.address target.val
  | .word data => Hex.word data
  | .rows count => toString count.val
  | .index => "I"
  | .block => "[I]"
  | .delay => "DT"
  | .sound => "ST"
  | .key => "K"
  | .glyph => "F"
  | .decimal => "B"

/-- Read a hexadecimal number. -/
def ofDigits? (digits : List Char) : Option Operand :=
  let value := Integer.digitsValue 16 digits
  match digits.length with
  | 2 => some (.byte (UInt8.ofNat value))
  | 3 => some (.address (Word.nnn (UInt16.ofNat value)))
  | 4 => some (.word (UInt16.ofNat value))
  | _ => none

/-- Read an operand. -/
def ofText? : List Char → Option Operand
  | ['I'] => some .index
  | ['[', 'I', ']'] => some .block
  | ['D', 'T'] => some .delay
  | ['S', 'T'] => some .sound
  | ['K'] => some .key
  | ['F'] => some .glyph
  | ['B'] => some .decimal
  | 'V' :: digits => some (.register (Fin.ofNat 16 (Integer.digitsValue 16 digits)))
  | '0' :: 'x' :: digits => ofDigits? digits
  | digits => some (.rows (Fin.ofNat 16 (Integer.digitsValue 10 digits)))

theorem ofText?_marked (width : Nat) {value : Nat} (fits : value < Nat.pow 16 (width + 1)) :
    ofText? (Hex.marked (width + 3) value).toList =
      match width + 1 with
      | 2 => some (.byte (UInt8.ofNat value))
      | 3 => some (.address (Word.nnn (UInt16.ofNat value)))
      | 4 => some (.word (UInt16.ofNat value))
      | _ => none := by
  rw [Hex.toList_marked, ofText?, ofDigits?, Hex.digitsValue_bare,
    Hex.length_bare width.succ_pos fits]

theorem ofText?_text (operand : Operand) : ofText? operand.text.toList = some operand := by
  cases operand with
  | register x =>
    revert x
    decide +kernel
  | rows count =>
    revert count
    decide +kernel
  | byte value =>
    rw [text, Hex.byte, ofText?_marked 1 value.toNat_lt]
    simp
  | address target =>
    have same : Word.nnn (UInt16.ofNat target.val) = target := by
      apply Fin.ext
      simp [Word.nnn]
    rw [text, Hex.address, ofText?_marked 2 target.isLt]
    simp [same]
  | word data =>
    rw [text, Hex.word, ofText?_marked 3 data.toNat_lt]
    simp
  | _ => rfl

/-- Whether a text holds neither blanks nor commas nor line feeds. -/
def Clean (text : List Char) : Prop :=
  ∀ c ∈ text, c ≠ ' ' ∧ c ≠ ',' ∧ c ≠ '\n'

instance (text : List Char) : Decidable (Clean text) :=
  List.decidableBAll (fun c => c ≠ ' ' ∧ c ≠ ',' ∧ c ≠ '\n') text

theorem clean_marked (width value : Nat) : Clean (Hex.marked (width + 2) value).toList := by
  rw [Hex.toList_marked]
  intro c member
  rcases List.mem_cons.mp member with rfl | member
  · decide
  rcases List.mem_cons.mp member with rfl | member
  · decide
  have digit := Hex.isSome_of_mem_bare member
  refine ⟨?_, ?_, ?_⟩ <;>
    · rintro rfl
      exact absurd digit (by decide)

theorem clean_text (operand : Operand) : Clean operand.text.toList := by
  cases operand with
  | register x =>
    revert x
    decide +kernel
  | rows count =>
    revert count
    decide +kernel
  | byte value => exact clean_marked 2 value.toNat
  | address target => exact clean_marked 3 target.val
  | word data => exact clean_marked 4 data.toNat
  | _ => decide

end Operand

/-! ## Names and operands -/

namespace Instruction

/-- The name of an instruction. -/
def name : Instruction → String
  | .clear => "CLS"
  | .return => "RET"
  | .jump _ | .jumpOffset _ => "JP"
  | .call _ => "CALL"
  | .skipIfByte .. | .skipIfEqual .. => "SE"
  | .skipUnlessByte .. | .skipUnlessEqual .. => "SNE"
  | .addByte .. | .addIndex _ => "ADD"
  | .arithmetic operation _ _ => operation.name
  | .random .. => "RND"
  | .draw .. => "DRW"
  | .skipIfKey _ => "SKP"
  | .skipUnlessKey _ => "SKNP"
  | .unknown _ => "DW"
  | _ => "LD"

/-- What follows the name. -/
def operands : Instruction → List Operand
  | .clear | .return => []
  | .jump target | .call target => [.address target]
  | .skipIfByte x byte | .skipUnlessByte x byte | .setByte x byte | .addByte x byte
  | .random x byte => [.register x, .byte byte]
  | .skipIfEqual x y | .skipUnlessEqual x y | .arithmetic _ x y => [.register x, .register y]
  | .setIndex target => [.index, .address target]
  | .jumpOffset base => [.register 0, .address base]
  | .draw x y rows => [.register x, .register y, .rows rows]
  | .skipIfKey x | .skipUnlessKey x => [.register x]
  | .readDelay x => [.register x, .delay]
  | .waitKey x => [.register x, .key]
  | .setDelay x => [.delay, .register x]
  | .setSound x => [.sound, .register x]
  | .addIndex x => [.index, .register x]
  | .glyph x => [.glyph, .register x]
  | .decimal x => [.decimal, .register x]
  | .store x => [.block, .register x]
  | .load x => [.register x, .block]
  | .unknown word => [.word word]

/-- The instruction of a name and operands. -/
def ofParts? : String → List Operand → Option Instruction
  | "CLS", [] => some .clear
  | "RET", [] => some .return
  | "JP", [.address target] => some (.jump target)
  | "JP", [.register 0, .address base] => some (.jumpOffset base)
  | "CALL", [.address target] => some (.call target)
  | "SE", [.register x, .byte byte] => some (.skipIfByte x byte)
  | "SE", [.register x, .register y] => some (.skipIfEqual x y)
  | "SNE", [.register x, .byte byte] => some (.skipUnlessByte x byte)
  | "SNE", [.register x, .register y] => some (.skipUnlessEqual x y)
  | "LD", [.register x, .byte byte] => some (.setByte x byte)
  | "LD", [.register x, .register y] => some (.arithmetic .copy x y)
  | "LD", [.index, .address target] => some (.setIndex target)
  | "LD", [.register x, .delay] => some (.readDelay x)
  | "LD", [.register x, .key] => some (.waitKey x)
  | "LD", [.delay, .register x] => some (.setDelay x)
  | "LD", [.sound, .register x] => some (.setSound x)
  | "LD", [.glyph, .register x] => some (.glyph x)
  | "LD", [.decimal, .register x] => some (.decimal x)
  | "LD", [.block, .register x] => some (.store x)
  | "LD", [.register x, .block] => some (.load x)
  | "ADD", [.register x, .byte byte] => some (.addByte x byte)
  | "ADD", [.register x, .register y] => some (.arithmetic .add x y)
  | "ADD", [.index, .register x] => some (.addIndex x)
  | "OR", [.register x, .register y] => some (.arithmetic .or x y)
  | "AND", [.register x, .register y] => some (.arithmetic .and x y)
  | "XOR", [.register x, .register y] => some (.arithmetic .xor x y)
  | "SUB", [.register x, .register y] => some (.arithmetic .sub x y)
  | "SUBN", [.register x, .register y] => some (.arithmetic .subReverse x y)
  | "SHR", [.register x, .register y] => some (.arithmetic .shiftRight x y)
  | "SHL", [.register x, .register y] => some (.arithmetic .shiftLeft x y)
  | "RND", [.register x, .byte mask] => some (.random x mask)
  | "DRW", [.register x, .register y, .rows rows] => some (.draw x y rows)
  | "SKP", [.register x] => some (.skipIfKey x)
  | "SKNP", [.register x] => some (.skipUnlessKey x)
  | "DW", [.word word] => some (.unknown word)
  | _, _ => none

theorem ofParts?_parts (instruction : Instruction) :
    ofParts? instruction.name instruction.operands = some instruction := by
  cases instruction with
  | arithmetic operation x y => cases operation <;> rfl
  | _ => rfl

/-- A name and operands as they are written. -/
def written (name : String) : List String → String
  | [] => name
  | first :: rest => rest.foldl (· ++ ", " ++ ·) (name ++ " " ++ first)

theorem mnemonic_eq_written (instruction : Instruction) :
    instruction.mnemonic = written instruction.name (instruction.operands.map Operand.text) := by
  cases instruction with
  | readDelay x | waitKey x | load x =>
    simp [mnemonic, written, name, operands, Operand.text, ← String.toList_inj]
  | _ => rfl

/-- All names. -/
def names : List String :=
  ["CLS", "RET", "JP", "CALL", "SE", "SNE", "LD", "ADD", "OR", "AND", "XOR", "SUB", "SUBN", "SHR",
    "SHL", "RND", "DRW", "SKP", "SKNP", "DW"]

theorem name_mem_names (instruction : Instruction) : instruction.name ∈ names := by
  cases instruction with
  | arithmetic operation x y => cases operation <;> simp [name, Arithmetic.name, names]
  | _ => simp [name, names]

theorem clean_name (instruction : Instruction) : Operand.Clean instruction.name.toList := by
  have clean : names.all fun name => decide (Operand.Clean name.toList) := by decide +kernel
  exact of_decide_eq_true (List.all_eq_true.mp clean instruction.name instruction.name_mem_names)

theorem clean_parts (instruction : Instruction) :
    ∀ text ∈ instruction.name :: instruction.operands.map Operand.text,
      Operand.Clean text.toList := by
  intro text member
  rcases List.mem_cons.mp member with rfl | member
  · exact instruction.clean_name
  · obtain ⟨operand, -, rfl⟩ := List.mem_map.mp member
    exact operand.clean_text

/-- The parts of a text between blanks, without commas. -/
def fields (text : String) : List (List Char) :=
  (text.toList.filter (· != ',')).splitOn ' '

theorem intercalate_cons {α : Type} (separator : α) (first : List α) (rest : List (List α)) :
    [separator].intercalate (first :: rest) = first ++ rest.flatMap (separator :: ·) := by
  induction rest generalizing first with
  | nil => simp
  | cons second rest ih =>
    rw [List.intercalate_cons_cons, ih]
    simp

theorem filter_of_clean {text : List Char} (clean : Operand.Clean text) :
    text.filter (· != ',') = text := by
  rw [List.filter_eq_self]
  intro c member
  simp [(clean c member).2.1]

/-- Commas aside, every further operand is written behind a blank. -/
theorem filter_foldl (start : String) {rest : List String}
    (clean : ∀ text ∈ rest, Operand.Clean text.toList) :
    (rest.foldl (· ++ ", " ++ ·) start).toList.filter (· != ',') =
      start.toList.filter (· != ',') ++ (rest.map String.toList).flatMap (' ' :: ·) := by
  induction rest generalizing start with
  | nil => simp
  | cons first rest ih =>
    rw [List.foldl_cons, ih _ fun text member => clean text (.tail first member)]
    simp [filter_of_clean (clean first (.head rest))]

/-- Commas aside, what is written is the name and the operands with blanks between them. -/
theorem filter_written {name : String} {operands : List String}
    (clean : ∀ text ∈ name :: operands, Operand.Clean text.toList) :
    (written name operands).toList.filter (· != ',') =
      [' '].intercalate ((name :: operands).map String.toList) := by
  have name_eq := filter_of_clean (clean name (.head operands))
  rw [List.map_cons, intercalate_cons]
  cases operands with
  | nil => simpa [written] using name_eq
  | cons first rest =>
    have first_eq := filter_of_clean (clean first (by simp))
    rw [written, filter_foldl _ fun text member => clean text (by simp [member])]
    simp [name_eq, first_eq]

/-- The fields of what is written are the name and the operands. -/
theorem fields_written {name : String} {operands : List String}
    (clean : ∀ text ∈ name :: operands, Operand.Clean text.toList) :
    fields (written name operands) = (name :: operands).map String.toList := by
  rw [fields, filter_written clean]
  refine List.splitOn_intercalate ' ' ?_ (by simp)
  intro text member blank
  obtain ⟨part, isPart, rfl⟩ := List.mem_map.mp member
  exact (clean part isPart ' ' blank).1 rfl

/-- An instruction is written on one line. -/
theorem newline_not_mem_mnemonic (instruction : Instruction) :
    '\n' ∉ instruction.mnemonic.toList := by
  intro newline
  have kept : '\n' ∈ instruction.mnemonic.toList.filter (· != ',') :=
    List.mem_filter.mpr ⟨newline, by decide⟩
  rw [mnemonic_eq_written, filter_written instruction.clean_parts, List.map_cons,
    intercalate_cons] at kept
  rcases List.mem_append.mp kept with inName | inOperands
  · exact (instruction.clean_name _ inName).2.2 rfl
  · obtain ⟨part, isPart, inPart⟩ := List.mem_flatMap.mp inOperands
    obtain ⟨text, isText, rfl⟩ := List.mem_map.mp isPart
    rcases List.mem_cons.mp inPart with blank | inText
    · exact absurd blank (by decide)
    · exact (instruction.clean_parts text (.tail _ isText) _ inText).2.2 rfl

/-- Read an instruction. -/
def ofText? (text : String) : Option Instruction :=
  match fields text with
  | [] => none
  | name :: operands => do ofParts? (String.ofList name) (← operands.mapM Operand.ofText?)

/-- The written form of an instruction reads back. -/
theorem ofText?_mnemonic (instruction : Instruction) :
    ofText? instruction.mnemonic = some instruction := by
  have operands_eq : ((instruction.operands.map Operand.text).map String.toList).mapM
      Operand.ofText? = some instruction.operands := by
    have reads : (Operand.ofText? ∘ String.toList) ∘ Operand.text =
        fun operand => pure (id operand) :=
      funext Operand.ofText?_text
    rw [List.mapM_map, List.mapM_map, reads, List.mapM_pure, List.map_id]
    rfl
  rw [ofText?, mnemonic_eq_written, fields_written instruction.clean_parts, List.map_cons]
  simp only [operands_eq, String.ofList_toList]
  exact instruction.ofParts?_parts

/-- No two instructions are written alike. -/
theorem mnemonic_inj {one other : Instruction} :
    one.mnemonic = other.mnemonic ↔ one = other := by
  constructor
  · intro same
    have read := ofText?_mnemonic one
    rw [same, ofText?_mnemonic] at read
    exact (Option.some.inj read).symm
  · rintro rfl
    rfl

end Instruction

end ChipEight
