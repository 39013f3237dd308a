import ChipEight.Instruction.Basic

/-!
# The patterns of words

A word of an instruction consists of fixed digits and of its operands.  This module gives
the words by their value, one line for each instruction (`Word.Matches`); a word that has
none of these patterns is unknown.  Decoding finds the instruction that a word denotes
(`Instruction.decode_eq_iff`), so that no word denotes two.

Behind the first digit stand an address, a register and a byte, or three digits.  Only the
comparisons of two registers have a digit that does not matter.
-/

namespace ChipEight

/-- The last digit of the words of a two-register operation. -/
def Arithmetic.digit : Arithmetic → Fin 16
  | .copy => 0x0
  | .or => 0x1
  | .and => 0x2
  | .xor => 0x3
  | .add => 0x4
  | .sub => 0x5
  | .shiftRight => 0x6
  | .subReverse => 0x7
  | .shiftLeft => 0xE

theorem Arithmetic.ofNibble?_eq_some_iff {nibble : Fin 16} {operation : Arithmetic} :
    ofNibble? nibble = some operation ↔ nibble = operation.digit := by
  cases operation <;> revert nibble <;> decide

namespace Word

/-- Whether a word has the pattern of an instruction. -/
def Matches (word : Word) : Instruction → Prop
  | .clear => word.toNat = 0x00E0
  | .return => word.toNat = 0x00EE
  | .jump target => word.toNat = 0x1000 + target.val
  | .call target => word.toNat = 0x2000 + target.val
  | .skipIfByte x byte => word.toNat = 0x3000 + 0x100 * x.val + byte.toNat
  | .skipUnlessByte x byte => word.toNat = 0x4000 + 0x100 * x.val + byte.toNat
  | .skipIfEqual x y =>
    ∃ ignored : Fin 16, word.toNat = 0x5000 + 0x100 * x.val + 0x10 * y.val + ignored.val
  | .setByte x byte => word.toNat = 0x6000 + 0x100 * x.val + byte.toNat
  | .addByte x byte => word.toNat = 0x7000 + 0x100 * x.val + byte.toNat
  | .arithmetic operation x y =>
    word.toNat = 0x8000 + 0x100 * x.val + 0x10 * y.val + operation.digit.val
  | .skipUnlessEqual x y =>
    ∃ ignored : Fin 16, word.toNat = 0x9000 + 0x100 * x.val + 0x10 * y.val + ignored.val
  | .setIndex target => word.toNat = 0xA000 + target.val
  | .jumpOffset base => word.toNat = 0xB000 + base.val
  | .random x mask => word.toNat = 0xC000 + 0x100 * x.val + mask.toNat
  | .draw x y rows => word.toNat = 0xD000 + 0x100 * x.val + 0x10 * y.val + rows.val
  | .skipIfKey x => word.toNat = 0xE000 + 0x100 * x.val + 0x9E
  | .skipUnlessKey x => word.toNat = 0xE000 + 0x100 * x.val + 0xA1
  | .readDelay x => word.toNat = 0xF000 + 0x100 * x.val + 0x07
  | .waitKey x => word.toNat = 0xF000 + 0x100 * x.val + 0x0A
  | .setDelay x => word.toNat = 0xF000 + 0x100 * x.val + 0x15
  | .setSound x => word.toNat = 0xF000 + 0x100 * x.val + 0x18
  | .addIndex x => word.toNat = 0xF000 + 0x100 * x.val + 0x1E
  | .glyph x => word.toNat = 0xF000 + 0x100 * x.val + 0x29
  | .decimal x => word.toNat = 0xF000 + 0x100 * x.val + 0x33
  | .store x => word.toNat = 0xF000 + 0x100 * x.val + 0x55
  | .load x => word.toNat = 0xF000 + 0x100 * x.val + 0x65
  | .unknown _ => False

/-- Whether a word denotes an instruction: it has its pattern, or it has no pattern at all
and the instruction is the unknown word. -/
def Denotes (word : Word) (instruction : Instruction) : Prop :=
  word.Matches instruction ∨ instruction = .unknown word ∧ ∀ other, ¬ word.Matches other

theorem Denotes.eq_of_unknown {word other : Word} (denotes : word.Denotes (.unknown other)) :
    other = word := by
  rcases denotes with isOne | ⟨same, -⟩
  · exact isOne.elim
  · exact Instruction.unknown.inj same

/-! ## Fields -/

variable {word : Word} {x y : Register} (family : Fin 16)

theorem toNat_eq_address_iff (target : Address) :
    word.toNat = 0x1000 * family.val + target.val ↔
      word.family = family ∧ word.nnn = target := by
  have := word.toNat_lt
  simp only [Word.family, nnn, Fin.ext_iff, Fin.val_ofNat]
  omega

theorem toNat_eq_byte_iff (byte : UInt8) :
    word.toNat = 0x1000 * family.val + 0x100 * x.val + byte.toNat ↔
      word.family = family ∧ word.x = x ∧ word.nn = byte := by
  have := word.toNat_lt
  have := byte.toNat_lt
  simp only [Word.family, Word.x, nn, Fin.ext_iff, Fin.val_ofNat, ← UInt8.toNat_inj,
    UInt8.toNat_ofNat']
  omega

theorem fields_of_toNat_eq {low : Nat} (small : low < 256)
    (value : word.toNat = 0x1000 * family.val + 0x100 * x.val + low) :
    word.family = family ∧ word.x = x ∧ word.nn = UInt8.ofNat low := by
  have low_eq : (UInt8.ofNat low).toNat = low := UInt8.toNat_ofNat_of_lt small
  rw [← low_eq] at value
  exact (toNat_eq_byte_iff family _).mp value

theorem toNat_eq_digits_iff (digit : Fin 16) :
    word.toNat = 0x1000 * family.val + 0x100 * x.val + 0x10 * y.val + digit.val ↔
      word.family = family ∧ word.x = x ∧ word.y = y ∧ word.n = digit := by
  have := word.toNat_lt
  simp only [Word.family, Word.x, Word.y, n, Fin.ext_iff, Fin.val_ofNat]
  omega

end Word

namespace Instruction

open Word

variable {word : Word} {instruction : Instruction}

/-! ## Decoding -/

/-- A word with the pattern of an instruction is decoded to it. -/
theorem decode_of_matches (isOne : word.Matches instruction) : decode word = instruction := by
  cases instruction with
  | clear =>
    obtain rfl : word = 0x00E0 := UInt16.toNat_inj.mp isOne
    decide
  | «return» =>
    obtain rfl : word = 0x00EE := UInt16.toNat_inj.mp isOne
    decide
  | jump target =>
    obtain ⟨family_eq, nnn_eq⟩ := (toNat_eq_address_iff 1 target).mp isOne
    simp [decode, family_eq, nnn_eq]
  | call target =>
    obtain ⟨family_eq, nnn_eq⟩ := (toNat_eq_address_iff 2 target).mp isOne
    simp [decode, family_eq, nnn_eq]
  | skipIfByte x byte =>
    obtain ⟨family_eq, x_eq, nn_eq⟩ := (toNat_eq_byte_iff 3 byte).mp isOne
    simp [decode, family_eq, x_eq, nn_eq]
  | skipUnlessByte x byte =>
    obtain ⟨family_eq, x_eq, nn_eq⟩ := (toNat_eq_byte_iff 4 byte).mp isOne
    simp [decode, family_eq, x_eq, nn_eq]
  | skipIfEqual x y =>
    obtain ⟨ignored, isOne⟩ := isOne
    obtain ⟨family_eq, x_eq, y_eq, -⟩ := (toNat_eq_digits_iff 5 ignored).mp isOne
    simp [decode, family_eq, x_eq, y_eq]
  | setByte x byte =>
    obtain ⟨family_eq, x_eq, nn_eq⟩ := (toNat_eq_byte_iff 6 byte).mp isOne
    simp [decode, family_eq, x_eq, nn_eq]
  | addByte x byte =>
    obtain ⟨family_eq, x_eq, nn_eq⟩ := (toNat_eq_byte_iff 7 byte).mp isOne
    simp [decode, family_eq, x_eq, nn_eq]
  | arithmetic operation x y =>
    obtain ⟨family_eq, x_eq, y_eq, n_eq⟩ := (toNat_eq_digits_iff 8 operation.digit).mp isOne
    simp [decode, family_eq, x_eq, y_eq, Arithmetic.ofNibble?_eq_some_iff.mpr n_eq]
  | skipUnlessEqual x y =>
    obtain ⟨ignored, isOne⟩ := isOne
    obtain ⟨family_eq, x_eq, y_eq, -⟩ := (toNat_eq_digits_iff 9 ignored).mp isOne
    simp [decode, family_eq, x_eq, y_eq]
  | setIndex target =>
    obtain ⟨family_eq, nnn_eq⟩ := (toNat_eq_address_iff 10 target).mp isOne
    simp [decode, family_eq, nnn_eq]
  | jumpOffset base =>
    obtain ⟨family_eq, nnn_eq⟩ := (toNat_eq_address_iff 11 base).mp isOne
    simp [decode, family_eq, nnn_eq]
  | random x mask =>
    obtain ⟨family_eq, x_eq, nn_eq⟩ := (toNat_eq_byte_iff 12 mask).mp isOne
    simp [decode, family_eq, x_eq, nn_eq]
  | draw x y rows =>
    obtain ⟨family_eq, x_eq, y_eq, n_eq⟩ := (toNat_eq_digits_iff 13 rows).mp isOne
    simp [decode, family_eq, x_eq, y_eq, n_eq]
  | skipIfKey x | skipUnlessKey x =>
    obtain ⟨family_eq, x_eq, nn_eq⟩ := fields_of_toNat_eq 14 (by decide) isOne
    simp [decode, decodeKey, family_eq, x_eq, nn_eq]
  | readDelay x | waitKey x | setDelay x | setSound x | addIndex x | glyph x | decimal x
  | store x | load x =>
    obtain ⟨family_eq, x_eq, nn_eq⟩ := fields_of_toNat_eq 15 (by decide) isOne
    simp [decode, decodeMisc, family_eq, x_eq, nn_eq]
  | unknown other => exact isOne.elim

/-! ## What a decoded word looks like -/

theorem matches_or_unknown_ite {condition : Prop} [Decidable condition] {one other : Instruction}
    (isOne : condition → word.Matches one) (isOther : word.Matches other ∨ other = .unknown word) :
    word.Matches (if condition then one else other) ∨
      (if condition then one else other) = .unknown word := by
  by_cases holds : condition
  · rw [if_pos holds]
    exact .inl (isOne holds)
  · rw [if_neg holds]
    exact isOther

theorem matches_decodeSystem (word : Word) :
    word.Matches (decodeSystem word) ∨ decodeSystem word = .unknown word :=
  matches_or_unknown_ite (congrArg UInt16.toNat)
    (matches_or_unknown_ite (congrArg UInt16.toNat) (.inr rfl))

theorem matches_decodeKey (family_eq : word.family = 14) :
    word.Matches (decodeKey word) ∨ decodeKey word = .unknown word := by
  have pattern {byte : UInt8} (nn_eq : word.nn = byte) :=
    (toNat_eq_byte_iff _ byte).mpr ⟨family_eq, rfl, nn_eq⟩
  exact matches_or_unknown_ite pattern (matches_or_unknown_ite pattern (.inr rfl))

theorem matches_decodeMisc (family_eq : word.family = 15) :
    word.Matches (decodeMisc word) ∨ decodeMisc word = .unknown word := by
  have pattern {byte : UInt8} (nn_eq : word.nn = byte) :=
    (toNat_eq_byte_iff _ byte).mpr ⟨family_eq, rfl, nn_eq⟩
  rw [decodeMisc]
  iterate 9 refine matches_or_unknown_ite pattern ?_
  exact .inr rfl

/-- A decoded word has the pattern of what it is decoded to, or it is left as it is. -/
theorem matches_decode (word : Word) :
    word.Matches (decode word) ∨ decode word = .unknown word := by
  rw [decode]
  split
  case h_1 => exact matches_decodeSystem word
  case h_2 | h_3 | h_11 | h_12 =>
    rename_i family_eq
    exact .inl ((toNat_eq_address_iff _ _).mpr ⟨family_eq, rfl⟩)
  case h_4 | h_5 | h_7 | h_8 | h_13 =>
    rename_i family_eq
    exact .inl ((toNat_eq_byte_iff _ _).mpr ⟨family_eq, rfl, rfl⟩)
  case h_6 | h_10 =>
    rename_i family_eq
    exact .inl ⟨word.n, (toNat_eq_digits_iff _ _).mpr ⟨family_eq, rfl, rfl, rfl⟩⟩
  case h_9 family_eq =>
    split
    · rename_i operation nibble_eq
      have n_eq := Arithmetic.ofNibble?_eq_some_iff.mp nibble_eq
      exact .inl ((toNat_eq_digits_iff _ _).mpr ⟨family_eq, rfl, rfl, n_eq⟩)
    · exact .inr rfl
  case h_14 family_eq => exact .inl ((toNat_eq_digits_iff _ _).mpr ⟨family_eq, rfl, rfl, rfl⟩)
  case h_15 family_eq => exact matches_decodeKey family_eq
  case h_16 =>
    exact matches_decodeMisc (by grind)

/-- A word is decoded to the instruction that it denotes. -/
theorem decode_eq_iff : decode word = instruction ↔ word.Denotes instruction := by
  constructor
  · rintro rfl
    rcases matches_decode word with isOne | isUnknown
    · exact .inl isOne
    · refine .inr ⟨isUnknown, fun other isOther => ?_⟩
      rw [decode_of_matches isOther] at isUnknown
      rw [isUnknown] at isOther
      exact isOther
  · rintro (isOne | ⟨rfl, unmatched⟩)
    · exact decode_of_matches isOne
    · exact (matches_decode word).resolve_left (unmatched _)

end Instruction

end ChipEight
