import ChipEight.Bounds
import ChipEight.Instruction.Mnemonic

/-!
# Listings

A listing reads memory as instruction words, two bytes at a time.  It starts at
any address and ends before the first row that begins past the end of memory;
a byte past the end, which only the last row can touch, reads as zero.

Addresses below zero count from the end of memory, down to its first byte; one
that lies further back has no byte, and the whole listing is refused.  Rows
ascend, so a refusal can only come from the first one.
-/

namespace ChipEight.Listing

/-- One row: where it stands and the word there. -/
structure Row where
  /-- The address of the first byte. -/
  address : Int
  /-- The word at that address. -/
  word : Word
  deriving DecidableEq, Repr

/-- The written form of the row's word. -/
def Row.text (row : Row) : String :=
  row.word.text

/-- A row as the command line and the monitor print it: address, word, text. -/
def Row.line (row : Row) : String :=
  Text.Hex.address row.address ++ ": " ++ Text.Hex.bare 4 row.word.toNat ++ "  " ++ row.text

/-- Why there is no byte at an address. -/
inductive AddressError where
  /-- It lies before the first byte. -/
  | beforeFirst
  /-- It is too far below zero to be a position at all. -/
  | noPosition
  deriving DecidableEq, Repr

/-- The report on an address without a byte. -/
def AddressError.message : AddressError → String
  | .beforeFirst => "bytearray index out of range"
  | .noPosition => TooLarge.message .position

/-- The byte at an address: zero past the end, counted from the end below
zero, and absent before the first byte. -/
def byteAt (memory : Array UInt8) (address : Int) : Except AddressError UInt8 :=
  if (memory.size : Int) ≤ address then .ok 0
  else if 0 ≤ address then .ok (memory[address.toNat]?.getD 0)
  else if -(memory.size : Int) ≤ address then
    .ok (memory[(memory.size + address).toNat]?.getD 0)
  else if Bounds.isWord address then .error .beforeFirst
  else .error .noPosition

/-- The row at an address.  Its second byte is looked up on its own, so the row
at address -1 takes its second byte from address 0. -/
def rowAt (memory : Array UInt8) (address : Int) : Except AddressError Row := do
  let high ← byteAt memory address
  let low ← byteAt memory (address + 1)
  return ⟨address, Word.ofBytes high low⟩

/-- At most `count` rows from `start` on, or an error if a row begins before the
first byte. -/
def rows (memory : Array UInt8) (start : Int) : Nat → Except AddressError (List Row)
  | 0 => .ok []
  | count + 1 =>
    if (memory.size : Int) ≤ start then .ok []
    else do
      let row ← rowAt memory start
      let rest ← rows memory (start + 2) count
      return row :: rest

end ChipEight.Listing
