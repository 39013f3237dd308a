import ChipEight.Proofs.Text.Integer

/-!
# Two characters in base sixteen

A text of two characters is read in base sixteen not only where both are digits: one of
them may be a digit and the other one a blank, or a sign in front
(`Text.toOption_readInteger_pair`).  So its number is one from -15 to 255.
-/

namespace ChipEight.Text

namespace Integer

theorem dropMarker_pair (first second : Char) :
    dropMarker 16 [first, second] =
      if first = '0' ∧ marks 16 second then [] else [first, second] := by
  by_cases zero : first = '0'
  · by_cases marked : marks 16 second <;> simp [dropMarker, zero, marked]
  · simp [dropMarker, zero]

/-- Behind a digit stands another one, or a blank. -/
theorem magnitude?_pair {first second : Char} {high : Nat} (digit : hexDigit? first = some high) :
    magnitude? .sixteen [first, second] = match hexDigit? second with
      | some low => .ok (16 * high + low)
      | none => if isSpace second then .ok high else .error none := by
  have isDigitFirst : isDigit 16 first := by rw [isDigit_eq, digit]; rfl
  have plain := ne_of_hexDigit? digit (by decide : hexDigit? '_' = none)
  have high_eq := getD_of_hexDigit? digit
  cases digitSecond : hexDigit? second with
  | some low =>
    have isDigitSecond : isDigit 16 second := by rw [isDigit_eq, digitSecond]; rfl
    have plainSecond := ne_of_hexDigit? digitSecond (by decide : hexDigit? '_' = none)
    have low_eq := getD_of_hexDigit? digitSecond
    have noMark : ¬ marks 16 second := by
      have small := ne_of_hexDigit? digitSecond (by decide : hexDigit? 'x' = none)
      have capital := ne_of_hexDigit? digitSecond (by decide : hexDigit? 'X' = none)
      simp [marks, small, capital]
    simp [magnitude?, radixOf, dropMarker_pair, noMark, isDigitFirst, isDigitSecond, plain,
      plainSecond, wellSpaced, noDoubleUnderscore, digitsValue, high_eq, low_eq, Nat.mul_comm]
  | none =>
    have other : ¬ isDigit 16 second := by rw [isDigit_eq, digitSecond]; exact Bool.false_ne_true
    by_cases marked : first = '0' ∧ marks 16 second
    · have noSpace : ¬ isSpace second := by
        have mark : second = 'x' ∨ second = 'X' := by simpa [marks] using marked.2
        rcases mark with rfl | rfl <;> decide
      simp [magnitude?, radixOf, dropMarker_pair, marked, wellSpaced, noDoubleUnderscore, noSpace]
    · by_cases underscore : second = '_'
      · subst underscore
        simp [magnitude?, radixOf, dropMarker_pair, marked, wellSpaced, isDigitFirst, isSpace]
      · -- The digit is all that is read; what follows it has to be a blank.
        by_cases space : isSpace second <;>
          simp [magnitude?, radixOf, dropMarker_pair, marked, wellSpaced, noDoubleUnderscore,
            isDigitFirst, other, underscore, plain, digitsValue, high_eq, space]

/-- The number of a text without blanks in front of it. -/
def signedValue? (base : Base) (text : List Char) : Option Int :=
  let (negative, body) := sign text
  (magnitude? base body).toOption.map fun (value : Nat) =>
    if negative then -(value : Int) else value

/-- What two characters, seen as the reader sees them, write in base sixteen: two digits, or
one digit with a sign before it or a blank on either side. -/
def pairValue? (first second : Char) : Option Int :=
  match hexDigit? first, hexDigit? second with
  | some high, some low => some (16 * high + low)
  | some high, none => if isSpace second then some high else none
  | none, some low =>
    if first = '-' then some (-low)
    else if first = '+' ∨ isSpace first then some low
    else none
  | none, none => none

theorem toNat_of_hexDigit? {c : Char} {value : Nat} (digit : hexDigit? c = some value) :
    48 ≤ c.toNat ∧ c.toNat ≤ 122 := by
  obtain ⟨value_eq, -⟩ := hexDigit?_eq_some_iff.mp digit
  have range {low high : Char} (between : low ≤ c ∧ c ≤ high) :
      low.toNat ≤ c.toNat ∧ c.toNat ≤ high.toNat := by
    rwa [Char.le_def, Char.le_def, UInt32.le_iff_toNat_le, UInt32.le_iff_toNat_le] at between
  rw [digitValue?] at value_eq
  split at value_eq
  · rename_i between
    have : 48 ≤ c.toNat ∧ c.toNat ≤ 57 := range between
    omega
  · split at value_eq
    · rename_i between
      have : 97 ≤ c.toNat ∧ c.toNat ≤ 122 := range between
      omega
    · split at value_eq
      · rename_i between
        have : 65 ≤ c.toNat ∧ c.toNat ≤ 90 := range between
        omega
      · contradiction

/-- Blanks stand before all digits and letters. -/
theorem toNat_of_isSpace {c : Char} (blank : isSpace c) : c.toNat ≤ 32 := by
  simp only [isSpace, Bool.or_eq_true, beq_iff_eq, Bool.and_eq_true, decide_eq_true_eq] at blank
  rcases blank with rfl | ⟨-, high⟩
  · decide
  · omega

theorem hexDigit?_of_isSpace {c : Char} (blank : isSpace c) : hexDigit? c = none := by
  cases digit : hexDigit? c with
  | none => rfl
  | some value =>
    have := toNat_of_isSpace blank
    have := toNat_of_hexDigit? digit
    omega

theorem signedValue?_of_sign {base : Base} {text body : List Char} {negative : Bool}
    (signed : sign text = (negative, body)) :
    signedValue? base text = (magnitude? base body).toOption.map fun (value : Nat) =>
      if negative then -(value : Int) else value := by
  rw [signedValue?, signed]

theorem signedValue?_singleton (c : Char) :
    signedValue? .sixteen [c] = (hexDigit? c).map Nat.cast := by
  by_cases minus : c = '-'
  · subst minus
    rfl
  by_cases plus : c = '+'
  · subst plus
    rfl
  rw [signedValue?_of_sign (sign_of_ne [] minus plus), magnitude?_singleton]
  cases hexDigit? c <;> rfl

theorem signedValue?_pair {first : Char} (second : Char) (ink : ¬ isSpace first) :
    signedValue? .sixteen [first, second] = pairValue? first second := by
  by_cases minus : first = '-'
  · subst minus
    have noDigit : hexDigit? '-' = none := by decide
    have signed : sign ['-', second] = (true, [second]) := rfl
    rw [signedValue?_of_sign signed, magnitude?_singleton, pairValue?, noDigit]
    cases hexDigit? second <;> rfl
  by_cases plus : first = '+'
  · subst plus
    have noDigit : hexDigit? '+' = none := by decide
    have signed : sign ['+', second] = (false, [second]) := rfl
    rw [signedValue?_of_sign signed, magnitude?_singleton, pairValue?, noDigit]
    cases hexDigit? second <;> rfl
  rw [signedValue?_of_sign (sign_of_ne _ minus plus), pairValue?]
  cases digit : hexDigit? first with
  | none =>
    have other : ¬ isDigit 16 first := by rw [isDigit_eq, digit]; exact Bool.false_ne_true
    rw [magnitude?_of_not_isDigit _ other]
    cases hexDigit? second with
    | none => rfl
    | some low => simp [minus, plus, ink, Except.toOption]
  | some high =>
    rw [magnitude?_pair digit]
    cases hexDigit? second with
    | none => by_cases blank : isSpace second <;> simp [blank, Except.toOption]
    | some low => simp [Except.toOption]

theorem signedValue?_dropWhile (first second : Char) :
    signedValue? .sixteen ([first, second].dropWhile isSpace) = pairValue? first second := by
  by_cases blank : isSpace first
  · have noSign : first ≠ '-' := by
      rintro rfl
      exact absurd blank (by decide)
    rw [List.dropWhile_cons_of_pos blank, pairValue?, hexDigit?_of_isSpace blank]
    by_cases blankSecond : isSpace second
    · rw [List.dropWhile_cons_of_pos blankSecond, hexDigit?_of_isSpace blankSecond]
      rfl
    · rw [dropWhile_isSpace_cons _ blankSecond, signedValue?_singleton]
      cases hexDigit? second <;> simp [noSign, blank]
  · rw [dropWhile_isSpace_cons _ blank, signedValue?_pair second blank]

/-! ## Two digits -/

/-- What two digits of ASCII write in base sixteen. -/
def hexPair? (first second : Char) : Option Int := do
  let high ← hexDigit? first
  let low ← hexDigit? second
  return 16 * high + low

theorem pairValue?_range {first second : Char} {value : Int}
    (read : pairValue? first second = some value) : -15 ≤ value ∧ value ≤ 255 := by
  rw [pairValue?] at read
  cases digit : hexDigit? first with
  | none =>
    cases digitSecond : hexDigit? second with
    | none => simp [digit, digitSecond] at read
    | some low =>
      have small := (hexDigit?_eq_some_iff.mp digitSecond).2
      simp only [digit, digitSecond] at read
      split at read
      · cases read
        omega
      · split at read
        · cases read
          omega
        · contradiction
  | some high =>
    have small := (hexDigit?_eq_some_iff.mp digit).2
    cases digitSecond : hexDigit? second with
    | none =>
      simp only [digit, digitSecond] at read
      split at read
      · cases read
        omega
      · contradiction
    | some low =>
      have smallSecond := (hexDigit?_eq_some_iff.mp digitSecond).2
      simp only [digit, digitSecond] at read
      cases read
      omega

/-- A digit of ASCII is read as it is. -/
theorem plain_of_hexDigit? {c : Char} {value : Nat} (digit : hexDigit? c = some value) :
    plain c = c := by
  have range := toNat_of_hexDigit? digit
  rw [plain, if_pos (by omega)]

/-- Two digits are read as digits. -/
theorem pairValue?_of_hexPair? {first second : Char} {value : Int}
    (digits : hexPair? first second = some value) :
    pairValue? (plain first) (plain second) = some value := by
  simp only [hexPair?, Option.bind_eq_bind, Option.bind_eq_some_iff, Option.pure_def] at digits
  obtain ⟨high, digit, low, digitSecond, value_eq⟩ := digits
  rw [plain_of_hexDigit? digit, plain_of_hexDigit? digitSecond, pairValue?, digit, digitSecond]
  exact value_eq

theorem toNat_of_isAlphanum {c : Char} (ink : c.isAlphanum) : 48 ≤ c.toNat ∧ c.toNat ≤ 122 := by
  have ranges : (decide (c.val ≥ 'A'.val ∧ c.val ≤ 'Z'.val) ||
      (decide (c.val ≥ 'a'.val) && decide (c.val ≤ 'z'.val)) ||
      (decide (c.val ≥ '0'.val) && decide (c.val ≤ '9'.val))) = true := ink
  simp only [Bool.or_eq_true, Bool.and_eq_true, decide_eq_true_eq, ge_iff_le,
    UInt32.le_iff_toNat_le] at ranges
  change ((65 ≤ c.toNat ∧ c.toNat ≤ 90) ∨ 97 ≤ c.toNat ∧ c.toNat ≤ 122) ∨
    48 ≤ c.toNat ∧ c.toNat ≤ 57 at ranges
  omega

theorem plain_of_isAlphanum {c : Char} (ink : c.isAlphanum) : plain c = c := by
  have range := toNat_of_isAlphanum ink
  rw [plain, if_pos (by omega)]

theorem not_isSpace_of_isAlphanum {c : Char} (ink : c.isAlphanum) : ¬ isSpace c := by
  intro blank
  have := toNat_of_isAlphanum ink
  have := toNat_of_isSpace blank
  omega

/-- Letters and digits of ASCII are read only where both are digits. -/
theorem hexPair?_of_pairValue? {first second : Char} {value : Int} (ink : first.isAlphanum)
    (inkSecond : second.isAlphanum) (read : pairValue? (plain first) (plain second) = some value) :
    hexPair? first second = some value := by
  have noMinus : first ≠ '-' := by
    rintro rfl
    exact absurd ink (by decide)
  have noPlus : first ≠ '+' := by
    rintro rfl
    exact absurd ink (by decide)
  have noBlank := not_isSpace_of_isAlphanum ink
  have noBlankSecond := not_isSpace_of_isAlphanum inkSecond
  rw [plain_of_isAlphanum ink, plain_of_isAlphanum inkSecond, pairValue?] at read
  rw [hexPair?]
  cases digit : hexDigit? first with
  | none =>
    cases digitSecond : hexDigit? second <;>
      simp [digit, digitSecond, noMinus, noPlus, noBlank] at read
  | some high =>
    cases digitSecond : hexDigit? second with
    | none => simp [digit, digitSecond, noBlankSecond] at read
    | some low => simpa [digit, digitSecond] using read

end Integer

theorem toOption_readInteger (base : Base) (text : String) :
    (readInteger base text).toOption =
      Integer.signedValue? base ((text.toList.map Integer.plain).dropWhile Integer.isSpace) := by
  rw [readInteger, Integer.signedValue?]
  generalize Integer.sign _ = parts
  obtain ⟨negative, body⟩ := parts
  simp only
  cases Integer.magnitude? base body with
  | ok value => rfl
  | error cause => cases cause <;> rfl

/-- What is read from two characters. -/
theorem toOption_readInteger_pair (first second : Char) :
    (readInteger .sixteen (String.ofList [first, second])).toOption =
      Integer.pairValue? (Integer.plain first) (Integer.plain second) := by
  rw [toOption_readInteger, String.toList_ofList]
  exact Integer.signedValue?_dropWhile _ _

end ChipEight.Text
