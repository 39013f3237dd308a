import ChipEight.Instruction.Basic
import ChipEight.Text.Hex

/-!
# Mnemonics

The conventional written form of an instruction.  Operands are registers,
bytes and addresses; a word that is no instruction is written as data.  The
text is computed from the instruction alone, so it shows neither the bits that
decoding ignores nor the compatibility switches of a machine.
-/

namespace ChipEight

open ChipEight.Text

/-- The name of a register, with a capital digit. -/
def Register.name (register : Register) : String :=
  "V" ++ Hex.capital register

/-- The written name of a two-register operation. -/
def Arithmetic.name : Arithmetic → String
  | .copy => "LD"
  | .or => "OR"
  | .and => "AND"
  | .xor => "XOR"
  | .add => "ADD"
  | .sub => "SUB"
  | .shiftRight => "SHR"
  | .subReverse => "SUBN"
  | .shiftLeft => "SHL"

namespace Instruction

/-- A mnemonic with a register and a byte. -/
def withByte (name : String) (x : Register) (byte : UInt8) : String :=
  name ++ " " ++ x.name ++ ", " ++ Hex.byte byte

/-- A mnemonic with two registers. -/
def withPair (name : String) (x y : Register) : String :=
  name ++ " " ++ x.name ++ ", " ++ y.name

/-- A mnemonic whose last operand is an address. -/
def withAddress (name : String) (target : Address) : String :=
  name ++ " " ++ Hex.address target.val

/-- The written form of an instruction. -/
def mnemonic : Instruction → String
  | .clear => "CLS"
  | .return => "RET"
  | .jump target => withAddress "JP" target
  | .call target => withAddress "CALL" target
  | .skipIfByte x byte => withByte "SE" x byte
  | .skipUnlessByte x byte => withByte "SNE" x byte
  | .skipIfEqual x y => withPair "SE" x y
  | .setByte x byte => withByte "LD" x byte
  | .addByte x byte => withByte "ADD" x byte
  | .arithmetic operation x y => withPair operation.name x y
  | .skipUnlessEqual x y => withPair "SNE" x y
  | .setIndex target => withAddress "LD I," target
  | .jumpOffset base => withAddress "JP V0," base
  | .random x mask => withByte "RND" x mask
  | .draw x y rows => withPair "DRW" x y ++ ", " ++ toString rows.val
  | .skipIfKey x => "SKP " ++ x.name
  | .skipUnlessKey x => "SKNP " ++ x.name
  | .readDelay x => "LD " ++ x.name ++ ", DT"
  | .waitKey x => "LD " ++ x.name ++ ", K"
  | .setDelay x => "LD DT, " ++ x.name
  | .setSound x => "LD ST, " ++ x.name
  | .addIndex x => "ADD I, " ++ x.name
  | .glyph x => "LD F, " ++ x.name
  | .decimal x => "LD B, " ++ x.name
  | .store x => "LD [I], " ++ x.name
  | .load x => "LD " ++ x.name ++ ", [I]"
  | .unknown word => "DW " ++ Hex.word word

end Instruction

/-- The written form of the instruction a word decodes to. -/
def Word.text (word : Word) : String :=
  (Instruction.decode word).mnemonic

end ChipEight
