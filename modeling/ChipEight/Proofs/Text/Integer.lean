import ChipEight.Text.CodePoint
import ChipEight.Text.Integer
import Mathlib.Data.List.TakeWhile

/-!
# Reading written integers back

Digits of any base up to sixteen have the value that they were made from
(`Text.Integer.digitsValue_toDigits`), and an integer that is written reads back
(`Text.readInteger_writeInteger`).  A single code point that is read as hexadecimal is
one of the sixteen digits (`Text.readInteger_codePoint`).
-/

namespace ChipEight.Text

namespace Integer

theorem digitValue?_digitChar {digit : Nat} (small : digit < 16) :
    digitValue? (Nat.digitChar digit) = some digit := by
  have each : ∀ digit : Fin 16, digitValue? (Nat.digitChar digit) = some digit.val := by
    decide
  exact each ⟨digit, small⟩

theorem digitsValue_concat (radix : Nat) (front : List Char) (last : Char) :
    digitsValue radix (front ++ [last]) =
      digitsValue radix front * radix + (digitValue? last).getD 0 :=
  List.foldl_append

/-- Digits have the value that they were made from. -/
theorem digitsValue_toDigits {radix : Nat} (binary : 1 < radix) (small : radix ≤ 16) (value : Nat) :
    digitsValue radix (Nat.toDigits radix value) = value := by
  induction value using Nat.strongRecOn with
  | ind value ih =>
    rw [Nat.toDigits_eq_if binary]
    split
    · rename_i single
      have read := digitsValue_concat radix [] (Nat.digitChar value)
      rw [digitValue?_digitChar (Nat.lt_of_lt_of_le single small)] at read
      simpa [digitsValue] using read
    · rename_i several
      have last : value % radix < 16 := Nat.lt_of_lt_of_le (Nat.mod_lt _ (by omega)) small
      rw [digitsValue_concat, ih (value / radix) (Nat.div_lt_self (by omega) binary),
        digitValue?_digitChar last]
      exact Nat.div_add_mod' value radix

theorem length_toDigits_le {radix value limit : Nat} (binary : 1 < radix) (positive : 0 < limit)
    (small : value < Nat.pow radix limit) : (Nat.toDigits radix value).length ≤ limit :=
  (Nat.length_toDigits_le_iff binary positive).mpr small

/-! ## Decimal numbers -/

theorem toNat_of_isDigit {c : Char} (digit : c.isDigit) : 48 ≤ c.toNat ∧ c.toNat ≤ 57 := by
  simpa [Char.isDigit, UInt32.le_iff_toNat_le] using digit

theorem ne_of_isDigit {c other : Char} (digit : c.isDigit) (none : ¬ other.isDigit) : c ≠ other :=
  fun same => none (same ▸ digit)

theorem plain_of_isDigit {c : Char} (digit : c.isDigit) : plain c = c := by
  have range := toNat_of_isDigit digit
  rw [plain, if_pos (by omega)]

theorem isDigit_of_isDigit {c : Char} (digit : c.isDigit) : isDigit 10 c := by
  have range := toNat_of_isDigit digit
  have between : '0' ≤ c ∧ c ≤ '9' := by
    simpa [Char.isDigit, Char.le_def] using digit
  rw [isDigit, digitValue?, if_pos between]
  simp
  omega

theorem wellSpaced_of_not_mem {digits : List Char} (plain : '_' ∉ digits) : wellSpaced digits := by
  have single : noDoubleUnderscore digits := by
    induction digits using noDoubleUnderscore.induct with
    | case1 => simp at plain
    | case2 first rest _ ih =>
      rw [noDoubleUnderscore]
      · exact ih (List.not_mem_of_not_mem_cons plain)
      · assumption
    | case3 => rfl
  have first : digits.head? ≠ some '_' := fun is => plain (List.mem_of_mem_head? is)
  have last : digits.getLast? ≠ some '_' := fun is => plain (List.mem_of_getLast? is)
  simp [wellSpaced, single, first, last]

/-- Decimal numbers have no marker. -/
theorem dropMarker_ten (text : List Char) : dropMarker 10 text = text := by
  rw [dropMarker.eq_def]
  split <;> rfl

/-- A number without a sign, in no more digits than are read, reads back. -/
theorem magnitude?_toDigits {value : Nat} (small : value < Nat.pow 10 digitLimit) :
    magnitude? .ten (Nat.toDigits 10 value) = .ok value := by
  have digits {c : Char} (member : c ∈ Nat.toDigits 10 value) : c.isDigit :=
    Nat.isDigit_of_mem_toDigits (by decide) (by decide) member
  have inNumber : ∀ c ∈ Nat.toDigits 10 value, (isDigit 10 c || c == '_') = true :=
    fun c member => by rw [isDigit_of_isDigit (digits member), Bool.true_or]
  have noUnderscore : ∀ c ∈ Nat.toDigits 10 value, (c != '_') = true :=
    fun c member => bne_iff_ne.mpr (ne_of_isDigit (digits member) (by decide))
  have spaced : wellSpaced (Nat.toDigits 10 value) :=
    wellSpaced_of_not_mem Nat.underscore_not_in_toDigits
  have short : (Nat.toDigits 10 value).length ≤ digitLimit := by
    revert small
    exact length_toDigits_le (by decide) (by decide)
  simp only [magnitude?, radixOf, dropMarker_ten, List.takeWhile_eq_self_iff.mpr inNumber,
    List.dropWhile_eq_nil_iff.mpr inNumber, List.filter_eq_self.mpr noUnderscore, spaced,
    Nat.not_lt.mpr short]
  simp [digitsValue_toDigits]

/-- Blanks in front of a number are passed over; there are none in front of digits. -/
theorem dropWhile_isSpace_cons {first : Char} (rest : List Char) (ink : ¬ isSpace first) :
    (first :: rest).dropWhile isSpace = first :: rest :=
  List.dropWhile_cons_of_neg ink

theorem not_isSpace_of_isDigit {c : Char} (digit : c.isDigit) : ¬ isSpace c := by
  have range := toNat_of_isDigit digit
  have noBlank : c ≠ ' ' := ne_of_isDigit digit (by decide)
  simp [isSpace, noBlank]
  omega

theorem sign_of_ne {first : Char} (rest : List Char) (minus : first ≠ '-') (plus : first ≠ '+') :
    sign (first :: rest) = (false, first :: rest) := by
  rw [sign.eq_3]
  · rintro _ same
    exact minus (List.cons.inj same).1
  · rintro _ same
    exact plus (List.cons.inj same).1

/-- Digits have no sign. -/
theorem sign_of_isDigit {first : Char} (rest : List Char) (digit : first.isDigit) :
    sign (first :: rest) = (false, first :: rest) :=
  sign_of_ne rest (ne_of_isDigit digit (by decide)) (ne_of_isDigit digit (by decide))

end Integer

/-- The characters of a written integer. -/
theorem toList_toString (number : Int) :
    (toString number).toList =
      if number < 0 then '-' :: Nat.toDigits 10 number.natAbs
      else Nat.toDigits 10 number.natAbs := by
  rw [Int.toString_eq_repr, Int.repr_eq_if]
  by_cases negative : number < 0
  · have abs_eq : (-number).toNat = number.natAbs := by omega
    rw [if_neg (by omega), if_pos negative, String.toList_append, Nat.toList_repr, abs_eq]
    rfl
  · have abs_eq : number.toNat = number.natAbs := by omega
    rw [if_pos (by omega), if_neg negative, Nat.toList_repr, abs_eq]

/-- The sign of a written integer, and what follows it. -/
theorem sign_toString (number : Int) :
    Integer.sign (((toString number).toList.map Integer.plain).dropWhile Integer.isSpace) =
      (decide (number < 0), Nat.toDigits 10 number.natAbs) := by
  obtain ⟨first, rest, digits_eq⟩ :=
    List.exists_cons_of_ne_nil (@Nat.toDigits_ne_nil number.natAbs 10)
  have digits : ∀ c ∈ first :: rest, c.isDigit := fun c member =>
    Nat.isDigit_of_mem_toDigits (by decide) (by decide) (digits_eq ▸ member)
  have plain : (first :: rest).map Integer.plain = first :: rest :=
    (List.map_congr_left fun c member => Integer.plain_of_isDigit (digits c member)).trans
      (List.map_id _)
  have digit : first.isDigit := digits first (.head rest)
  rw [toList_toString, digits_eq]
  by_cases negative : number < 0
  · rw [if_pos negative, List.map_cons, plain, Integer.dropWhile_isSpace_cons _ (by decide),
      decide_eq_true negative]
    rfl
  · rw [if_neg negative, plain,
      Integer.dropWhile_isSpace_cons _ (Integer.not_isSpace_of_isDigit digit),
      Integer.sign_of_isDigit rest digit, decide_eq_false negative]

/-- An integer that is written reads back. -/
theorem readInteger_writeInteger {number : Int} {text : String}
    (written : writeInteger number = .ok text) : readInteger .ten text = .ok number := by
  rw [writeInteger] at written
  split at written
  case isFalse => contradiction
  case isTrue small =>
    cases written
    have read : Integer.magnitude? .ten (Nat.toDigits 10 number.natAbs) = .ok number.natAbs :=
      Integer.magnitude?_toDigits small
    unfold readInteger
    rw [sign_toString]
    simp only [read]
    by_cases negative : number < 0
    · have number_eq : -(number.natAbs : Int) = number := by omega
      rw [decide_eq_true negative, if_pos rfl, number_eq]
    · have number_eq : (number.natAbs : Int) = number := by omega
      rw [decide_eq_false negative, if_neg Bool.false_ne_true, number_eq]

/-! ## Single digits -/

namespace Integer

/-- Nothing is read from a text that does not begin with a digit. -/
theorem magnitude?_of_not_isDigit {first : Char} (rest : List Char) (other : ¬ isDigit 16 first) :
    magnitude? .sixteen (first :: rest) = .error none := by
  have unmarked : dropMarker 16 (first :: rest) = first :: rest := by
    rw [dropMarker.eq_def]
    split
    · rename_i zero
      cases zero
      exact absurd (by decide) other
    · rfl
  simp only [magnitude?, radixOf, unmarked]
  by_cases underscore : first = '_'
  · simp [underscore, wellSpaced]
  · simp [other, underscore, wellSpaced, noDoubleUnderscore]

/-- The value of a digit of base sixteen. -/
def hexDigit? (c : Char) : Option Nat :=
  (digitValue? c).filter (· < 16)

theorem isDigit_eq (c : Char) : isDigit 16 c = (hexDigit? c).isSome := by
  rw [isDigit, hexDigit?]
  cases digitValue? c with
  | none => rfl
  | some value => by_cases small : value < 16 <;> simp [small, Option.filter]

theorem hexDigit?_eq_some_iff {c : Char} {value : Nat} :
    hexDigit? c = some value ↔ digitValue? c = some value ∧ value < 16 := by
  simp [hexDigit?, Option.filter_eq_some_iff]

theorem getD_of_hexDigit? {c : Char} {value : Nat} (digit : hexDigit? c = some value) :
    (digitValue? c).getD 0 = value := by
  rw [(hexDigit?_eq_some_iff.mp digit).1]
  rfl

theorem ne_of_hexDigit? {c other : Char} {value : Nat} (digit : hexDigit? c = some value)
    (none : hexDigit? other = none) : c ≠ other := by
  rintro rfl
  rw [none] at digit
  contradiction

theorem magnitude?_singleton (c : Char) :
    magnitude? .sixteen [c] = match hexDigit? c with
      | some value => .ok value
      | none => .error none := by
  cases digit : hexDigit? c with
  | none => exact magnitude?_of_not_isDigit [] (by rw [isDigit_eq, digit]; exact Bool.false_ne_true)
  | some value =>
    have isDigit : isDigit 16 c := by rw [isDigit_eq, digit]; rfl
    have plain := ne_of_hexDigit? digit (by decide : hexDigit? '_' = none)
    have unmarked : dropMarker 16 [c] = [c] := by simp [dropMarker]
    have value_eq := getD_of_hexDigit? digit
    simp [magnitude?, radixOf, unmarked, isDigit, plain, wellSpaced, noDoubleUnderscore,
      digitsValue, value_eq]

theorem lt_of_magnitude?_singleton {c : Char} {value : Nat}
    (read : magnitude? .sixteen [c] = .ok value) : value < 16 := by
  rw [magnitude?_singleton] at read
  cases digit : hexDigit? c with
  | none =>
    rw [digit] at read
    contradiction
  | some found =>
    rw [digit] at read
    cases read
    exact (hexDigit?_eq_some_iff.mp digit).2

/-- A single character that is read is neither a blank nor a sign. -/
theorem magnitude?_sign_singleton {c : Char} {negative : Bool} {body : List Char} {value : Nat}
    (signed : sign ([c].dropWhile isSpace) = (negative, body))
    (read : magnitude? .sixteen body = .ok value) : negative = false ∧ value < 16 := by
  by_cases blank : isSpace c
  · rw [List.dropWhile_cons_of_pos blank] at signed
    cases signed
    contradiction
  · rw [dropWhile_isSpace_cons [] blank] at signed
    by_cases minus : c = '-'
    · subst minus
      cases signed
      contradiction
    · by_cases plus : c = '+'
      · subst plus
        cases signed
        contradiction
      · rw [sign_of_ne [] minus plus] at signed
        cases signed
        exact ⟨rfl, lt_of_magnitude?_singleton read⟩

theorem plain_mark : plain mark = '?' := by
  decide +kernel

end Integer

theorem codePoints_eq_nil_iff {text : List Char} : codePoints text = [] ↔ text = [] := by
  rcases text with _ | ⟨first, _ | ⟨second, rest⟩⟩
  · simp [codePoints]
  · simp [codePoints]
  · rw [codePoints]
    split <;> simp

/-- A text of one code point is one character, or the mark and what it marks. -/
theorem eq_of_length_codePoints_eq_one {text : List Char}
    (single : (codePoints text).length = 1) : (∃ c, text = [c]) ∨ ∃ c, text = [mark, c] := by
  rcases text with _ | ⟨first, _ | ⟨second, rest⟩⟩
  · contradiction
  · exact .inl ⟨first, rfl⟩
  · rw [codePoints] at single
    split at single
    · rename_i marked
      rw [List.length_cons, Nat.add_eq_right, List.length_eq_zero_iff,
        codePoints_eq_nil_iff] at single
      exact .inr ⟨second, by rw [beq_iff_eq.mp marked, single]⟩
    · rw [List.length_cons, Nat.add_eq_right, List.length_eq_zero_iff,
        codePoints_eq_nil_iff] at single
      contradiction

/-- A code point that is read in base sixteen is one of its digits. -/
theorem readInteger_codePoint {text : String} {value : Int}
    (single : (codePoints text.toList).length = 1) (read : readInteger .sixteen text = .ok value) :
    0 ≤ value ∧ value < 16 := by
  rw [readInteger] at read
  generalize signed : Integer.sign _ = parts at read
  obtain ⟨negative, body⟩ := parts
  simp only at read
  rcases eq_of_length_codePoints_eq_one single with ⟨c, text_eq⟩ | ⟨c, text_eq⟩
  · rw [text_eq, List.map_singleton] at signed
    split at read
    · rename_i magnitude found
      obtain ⟨rfl, small⟩ := Integer.magnitude?_sign_singleton signed found
      cases read
      exact ⟨Int.natCast_nonneg magnitude, Int.ofNat_lt.mpr small⟩
    · contradiction
    · contradiction
  · -- What is marked is no character, and the mark itself is no digit.
    rw [text_eq, List.map_cons, Integer.plain_mark,
      Integer.dropWhile_isSpace_cons _ (by decide),
      Integer.sign_of_ne _ (by decide) (by decide)] at signed
    cases signed
    rw [Integer.magnitude?_of_not_isDigit _ (by decide)] at read
    contradiction

end ChipEight.Text
