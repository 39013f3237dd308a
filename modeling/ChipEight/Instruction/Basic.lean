import ChipEight.Text.Hex

/-!
# Instruction words

A program is a sequence of big-endian 16-bit words.  Every word is decoded, by
its top nibble first and in four families by its low digits as well, into an
`Instruction` that carries exactly the operands the operation uses.  A word
that fits no pattern decodes to `Instruction.unknown` and keeps its bits.

Words that differ only in a nibble the machine ignores (the last one of the two
register comparisons) decode to the same instruction, so that whatever is
defined on instructions cannot tell them apart.
-/

namespace ChipEight

/-- One of the sixteen registers `V0` to `VF`. -/
abbrev Register := Fin 16

/-- The twelve address bits of an instruction word. -/
abbrev Address := Fin 4096

/-- The register that receives carries, borrows and collisions. -/
def Register.flag : Register := 15

/-- The two-register operations that share the top nibble 8. -/
inductive Arithmetic where
  /-- `8xy0`: copy. -/
  | copy
  /-- `8xy1`: bitwise or. -/
  | or
  /-- `8xy2`: bitwise and. -/
  | and
  /-- `8xy3`: bitwise exclusive or. -/
  | xor
  /-- `8xy4`: sum, with the carry as flag. -/
  | add
  /-- `8xy5`: first less second, with "no borrow" as flag. -/
  | sub
  /-- `8xy6`: halve, with the bit shifted out as flag. -/
  | shiftRight
  /-- `8xy7`: second less first, with "no borrow" as flag. -/
  | subReverse
  /-- `8xyE`: double, with the bit shifted out as flag. -/
  | shiftLeft
  deriving DecidableEq, Repr

/-- A decoded instruction with the operands it uses. -/
inductive Instruction where
  /-- `00E0`: darken the screen. -/
  | clear
  /-- `00EE`: return to the word after the last call. -/
  | return
  /-- `1nnn`: jump. -/
  | jump (target : Address)
  /-- `2nnn`: call. -/
  | call (target : Address)
  /-- `3xnn`: skip the next word if the register equals the byte. -/
  | skipIfByte (x : Register) (byte : UInt8)
  /-- `4xnn`: skip the next word unless the register equals the byte. -/
  | skipUnlessByte (x : Register) (byte : UInt8)
  /-- `5xy.`: skip the next word if the registers are equal. -/
  | skipIfEqual (x y : Register)
  /-- `6xnn`: load a byte. -/
  | setByte (x : Register) (byte : UInt8)
  /-- `7xnn`: add a byte, without touching the flag. -/
  | addByte (x : Register) (byte : UInt8)
  /-- `8xy_`: an operation on two registers. -/
  | arithmetic (operation : Arithmetic) (x y : Register)
  /-- `9xy.`: skip the next word unless the registers are equal. -/
  | skipUnlessEqual (x y : Register)
  /-- `Annn`: load the index. -/
  | setIndex (target : Address)
  /-- `Bnnn`: jump to an address plus a register. -/
  | jumpOffset (base : Address)
  /-- `Cxnn`: a random byte under a mask. -/
  | random (x : Register) (mask : UInt8)
  /-- `Dxyn`: draw `n` sprite rows. -/
  | draw (x y : Register) (rows : Fin 16)
  /-- `Ex9E`: skip the next word if the key is down. -/
  | skipIfKey (x : Register)
  /-- `ExA1`: skip the next word unless the key is down. -/
  | skipUnlessKey (x : Register)
  /-- `Fx07`: read the delay timer. -/
  | readDelay (x : Register)
  /-- `Fx0A`: wait for a key. -/
  | waitKey (x : Register)
  /-- `Fx15`: load the delay timer. -/
  | setDelay (x : Register)
  /-- `Fx18`: load the sound timer. -/
  | setSound (x : Register)
  /-- `Fx1E`: add to the index. -/
  | addIndex (x : Register)
  /-- `Fx29`: point the index at a glyph. -/
  | glyph (x : Register)
  /-- `Fx33`: write three decimal digits. -/
  | decimal (x : Register)
  /-- `Fx55`: store the registers up to `x`. -/
  | store (x : Register)
  /-- `Fx65`: load the registers up to `x`. -/
  | load (x : Register)
  /-- Any other word. -/
  | unknown (word : UInt16)
  deriving DecidableEq, Repr

/-- A 16-bit instruction word and its fields. -/
abbrev Word := UInt16

namespace Word

/-- A word from its two bytes, the first of which is the more significant. -/
def ofBytes (high low : UInt8) : Word :=
  UInt16.ofNat (high.toNat * 256 + low.toNat)

/-- A word from any integer: its low sixteen bits in two's complement. -/
def ofInt (value : Int) : Word :=
  UInt16.ofNat (value % 65536).toNat

/-- The more significant byte. -/
def high (word : Word) : UInt8 :=
  UInt8.ofNat (word.toNat / 256)

/-- The low byte, which is also the byte operand `nn`. -/
def nn (word : Word) : UInt8 :=
  UInt8.ofNat word.toNat

/-- The top nibble, which selects the family. -/
def family (word : Word) : Fin 16 :=
  Fin.ofNat 16 (word.toNat / 4096)

/-- The second nibble, which names the first register. -/
def x (word : Word) : Register :=
  Fin.ofNat 16 (word.toNat / 256)

/-- The third nibble, which names the second register. -/
def y (word : Word) : Register :=
  Fin.ofNat 16 (word.toNat / 16)

/-- The last nibble. -/
def n (word : Word) : Fin 16 :=
  Fin.ofNat 16 word.toNat

/-- The twelve address bits. -/
def nnn (word : Word) : Address :=
  Fin.ofNat 4096 word.toNat

end Word

/-- The operation of a word of family 8, by its last nibble. -/
def Arithmetic.ofNibble? (nibble : Fin 16) : Option Arithmetic :=
  match nibble with
  | 0 => some .copy
  | 1 => some .or
  | 2 => some .and
  | 3 => some .xor
  | 4 => some .add
  | 5 => some .sub
  | 6 => some .shiftRight
  | 7 => some .subReverse
  | 14 => some .shiftLeft
  | _ => none

namespace Instruction

/-- Decode a word of family 0: only two words of it are instructions. -/
def decodeSystem (word : Word) : Instruction :=
  if word = 0x00E0 then .clear
  else if word = 0x00EE then .return
  else .unknown word

/-- Decode a word of family E by its low byte. -/
def decodeKey (word : Word) : Instruction :=
  if word.nn = 0x9E then .skipIfKey word.x
  else if word.nn = 0xA1 then .skipUnlessKey word.x
  else .unknown word

/-- Decode a word of family F by its low byte. -/
def decodeMisc (word : Word) : Instruction :=
  if word.nn = 0x07 then .readDelay word.x
  else if word.nn = 0x0A then .waitKey word.x
  else if word.nn = 0x15 then .setDelay word.x
  else if word.nn = 0x18 then .setSound word.x
  else if word.nn = 0x1E then .addIndex word.x
  else if word.nn = 0x29 then .glyph word.x
  else if word.nn = 0x33 then .decimal word.x
  else if word.nn = 0x55 then .store word.x
  else if word.nn = 0x65 then .load word.x
  else .unknown word

/-- Decode a word. -/
def decode (word : Word) : Instruction :=
  match word.family with
  | 0 => decodeSystem word
  | 1 => .jump word.nnn
  | 2 => .call word.nnn
  | 3 => .skipIfByte word.x word.nn
  | 4 => .skipUnlessByte word.x word.nn
  | 5 => .skipIfEqual word.x word.y
  | 6 => .setByte word.x word.nn
  | 7 => .addByte word.x word.nn
  | 8 =>
    match Arithmetic.ofNibble? word.n with
    | some operation => .arithmetic operation word.x word.y
    | none => .unknown word
  | 9 => .skipUnlessEqual word.x word.y
  | 10 => .setIndex word.nnn
  | 11 => .jumpOffset word.nnn
  | 12 => .random word.x word.nn
  | 13 => .draw word.x word.y word.n
  | 14 => decodeKey word
  | _ => decodeMisc word

/-- The register an offset jump may name: the top nibble of its address. -/
def offsetRegister (base : Address) : Register :=
  Fin.ofNat 16 (base.val / 256)

end Instruction

end ChipEight
