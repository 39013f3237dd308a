import ChipEight.Text.CodePoint
import ChipEight.Text.Hex

/-!
# UTF-8

The characters of a sequence of bytes.  A character takes one to four bytes; the
shortest form is required, and neither surrogates nor numbers beyond the last
code point are encoded.  A refusal names the bytes that spoil the text: the
offending first byte, the bytes of a character up to the one that does not
continue it, or an unfinished character at the end.

The other way round a file name is bytes, which need not be text: a byte that is
none is half of a surrogate pair in the name.  No other half is encoded.

The lines of a text end in a line feed, a carriage return or both; whoever reads a
text sees a line feed.
-/

namespace ChipEight.Text

namespace Utf8

/-- Why bytes are no text. -/
inductive Reason where
  /-- No character begins with this byte. -/
  | startByte
  /-- A byte does not continue the character before it. -/
  | continuation
  /-- The bytes end within a character. -/
  | unfinished
  deriving DecidableEq, Repr

/-- The words for a reason. -/
def Reason.text : Reason → String
  | .startByte => "invalid start byte"
  | .continuation => "invalid continuation byte"
  | .unfinished => "unexpected end of data"

/-- Bytes that are no text. -/
structure DecodeError where
  /-- The first byte that spoils the text. -/
  byte : UInt8
  /-- Its place. -/
  place : Nat
  /-- How many bytes spoil the text. -/
  count : Nat
  /-- Why they do. -/
  reason : Reason
  deriving DecidableEq, Repr

/-- The report on bytes that are no text. -/
def DecodeError.message (error : DecodeError) : String :=
  let spoiled :=
    if error.count = 1 then s!"byte {Hex.byte error.byte} in position {error.place}"
    else s!"bytes in position {error.place}-{error.place + error.count - 1}"
  s!"'utf-8' codec can't decode {spoiled}: " ++ error.reason.text

/-- Whether a byte continues a character. -/
def continues (byte : UInt8) : Bool :=
  0x80 ≤ byte && byte < 0xC0

/-- How many bytes a character takes that begins with a byte. -/
def lengthOf? (first : UInt8) : Option Nat :=
  if first < 0x80 then some 1
  else if first < 0xC2 then none
  else if first < 0xE0 then some 2
  else if first < 0xF0 then some 3
  else if first < 0xF5 then some 4
  else none

/-- Whether a byte may be the second of a character: it continues the character,
which is then in shortest form, no surrogate and within range. -/
def mayFollow (first second : UInt8) : Bool :=
  continues second &&
    (first != 0xE0 || 0xA0 ≤ second) && (first != 0xED || second < 0xA0) &&
    (first != 0xF0 || 0x90 ≤ second) && (first != 0xF4 || second < 0x90)

/-- The low six bits of a continuation byte. -/
def payload (byte : UInt8) : Nat :=
  byte.toNat % 64

/-- The character of a first byte and its continuation bytes. -/
def assemble (first : UInt8) (others : List UInt8) : Char :=
  let head := match others.length with
    | 0 => first.toNat
    | 1 => first.toNat % 32
    | 2 => first.toNat % 16
    | _ => first.toNat % 8
  Char.ofNat (others.foldl (fun code byte => code * 64 + payload byte) head)

/-- How many of the bytes behind a first one continue its character, out of
`count` that should. -/
def continued (first : UInt8) (count : Nat) (rest : List UInt8) : Nat :=
  match rest.take count with
  | [] => 0
  | second :: others =>
    if mayFollow first second then 1 + (others.takeWhile continues).length else 0

/-- The characters of bytes, from a place on.  The bytes of a character already
read are counted off by the first argument. -/
def decodeFrom (skip place : Nat) : List UInt8 → Except DecodeError (List Char)
  | [] => .ok []
  | first :: rest =>
    match skip with
    | skip + 1 => decodeFrom skip (place + 1) rest
    | 0 =>
      match lengthOf? first with
      | none => .error ⟨first, place, 1, .startByte⟩
      | some length =>
        let found := continued first (length - 1) rest
        if found = length - 1 then do
          return assemble first (rest.take found) :: (← decodeFrom found (place + 1) rest)
        else if found = rest.length then .error ⟨first, place, found + 1, .unfinished⟩
        else .error ⟨first, place, found + 1, .continuation⟩

/-- A text that bytes do not encode. -/
structure EncodeError where
  /-- The first half of a surrogate pair in the way. -/
  code : Nat
  /-- Its place. -/
  place : Nat
  /-- How many halves follow each other from there. -/
  count : Nat
  deriving DecidableEq, Repr

/-- The report on a text that bytes do not encode. -/
def EncodeError.message (error : EncodeError) : String :=
  let spoiled :=
    if error.count = 1 then
      "character '\\u" ++ Hex.bare 4 error.code ++ s!"' in position {error.place}"
    else s!"characters in position {error.place}-{error.place + error.count - 1}"
  "'utf-8' codec can't encode " ++ spoiled ++ ": surrogates not allowed"

/-- Whether half of a surrogate pair stands for a byte in a file name. -/
def isByte (code : Nat) : Bool :=
  0xDC80 ≤ code && code < 0xDD00

/-- What keeps the code points of a file name from a place on from being encoded: a
half of a surrogate pair that stands for no byte. -/
def encodeError? (place : Nat) : List Nat → Option EncodeError
  | [] => none
  | code :: rest =>
    if isHalf code && !isByte code then
      some ⟨code, place, 1 + (rest.takeWhile isHalf).length⟩
    else encodeError? (place + 1) rest

/-- The bytes of a code point in a file name. -/
def nameEncode (code : Nat) : List UInt8 :=
  if isHalf code then [UInt8.ofNat code] else String.utf8EncodeChar (Char.ofNat code)

end Utf8

/-- The bytes of a file name that can be encoded. -/
def nameBytes (name : String) : List UInt8 :=
  (codePoints name.toList).flatMap Utf8.nameEncode

/-- The text that bytes encode. -/
def decodeUtf8 (bytes : Array UInt8) : Except Utf8.DecodeError String := do
  return String.ofList (← Utf8.decodeFrom 0 0 bytes.toList)

/-- A text in which every line end is a line feed. -/
def unifyLineEnds : List Char → List Char
  | '\r' :: '\n' :: rest => '\n' :: unifyLineEnds rest
  | '\r' :: rest => '\n' :: unifyLineEnds rest
  | c :: rest => c :: unifyLineEnds rest
  | [] => []

end ChipEight.Text
