import ChipEight.Proofs.Text.Integer
import ChipEight.Text.Hex

/-!
# Hexadecimal numbers read back

The digits of a number have its value, whatever the width they are filled up to
(`Text.Hex.digitsValue_bare`).  So a number reads back from its digits
(`Text.Hex.number?_bare`), and from behind a marker and a sign (`Text.Hex.read?_marked`),
and no two numbers are written alike (`Text.Hex.marked_injective`).
-/

namespace ChipEight.Text.Hex

theorem digitsValue_leftpad (radix width : Nat) (text : List Char) :
    Integer.digitsValue radix (text.leftpad width '0') = Integer.digitsValue radix text := by
  have zeros (count : Nat) : Integer.digitsValue radix (List.replicate count '0') = 0 := by
    induction count with
    | zero => rfl
    | succ count ih =>
      rw [List.replicate_succ', Integer.digitsValue_concat, ih, Nat.zero_mul]
      rfl
  rw [List.leftpad, Integer.digitsValue, List.foldl_append]
  exact congrArg (List.foldl _ · text) (zeros _)

theorem digitsValue_bare (width value : Nat) :
    Integer.digitsValue 16 (bare width value).toList = value := by
  rw [bare, String.toList_ofList, digitsValue_leftpad]
  exact Integer.digitsValue_toDigits (by decide) (by decide) value

theorem length_bare {width value : Nat} (some_digit : 0 < width) (fits : value < Nat.pow 16 width) :
    (bare width value).toList.length = width := by
  have short : (digits value).length ≤ width :=
    Integer.length_toDigits_le (by decide) some_digit fits
  rw [bare, String.toList_ofList, List.length_leftpad]
  exact Nat.max_eq_left short

theorem isDigit_of_mem_digits {value : Nat} {c : Char} (member : c ∈ digits value) :
    Integer.isDigit 16 c := by
  have isDigit_digitChar {digit : Nat} (small : digit < 16) :
      Integer.isDigit 16 (Nat.digitChar digit) := by
    rw [Integer.isDigit, Integer.digitValue?_digitChar small]
    exact decide_eq_true small
  induction value using Nat.strongRecOn with
  | ind value ih =>
    rw [digits, Nat.toDigits_eq_if (by decide)] at member
    split at member
    · rename_i small
      rw [List.mem_singleton.mp member]
      exact isDigit_digitChar small
    · rename_i large
      rcases List.mem_append.mp member with front | last
      · exact ih (value / 16) (by omega) front
      · rw [List.mem_singleton.mp last]
        exact isDigit_digitChar (Nat.mod_lt _ (by decide))

theorem isDigit_of_mem_bare {width value : Nat} {c : Char}
    (member : c ∈ (bare width value).toList) : Integer.isDigit 16 c := by
  rw [bare, String.toList_ofList, List.leftpad] at member
  rcases List.mem_append.mp member with zero | digit
  · rw [(List.mem_replicate.mp zero).2]
    decide
  · exact isDigit_of_mem_digits digit

theorem isSome_of_mem_bare {width value : Nat} {c : Char}
    (member : c ∈ (bare width value).toList) : (Integer.digitValue? c).isSome := by
  have digit := isDigit_of_mem_bare member
  rw [Integer.isDigit] at digit
  cases valued : Integer.digitValue? c with
  | none => simp [valued] at digit
  | some value => rfl

theorem bare_ne_nil (width value : Nat) : (bare width value).toList ≠ [] := by
  have some_digit : digits value ≠ [] := by
    rw [digits, Nat.toDigits_eq_if (by decide)]
    split <;> simp
  rw [bare, String.toList_ofList, List.leftpad]
  simp [some_digit]

/-- Negative numbers begin with a minus, all others with their marker. -/
theorem toList_marked_eq (width : Nat) (value : Int) :
    (marked width value).toList =
      if value < 0 then '-' :: '0' :: 'x' :: (bare (width - 3) value.natAbs).toList
      else '0' :: 'x' :: (bare (width - 2) value.natAbs).toList := by
  rw [marked]
  split
  · rw [String.toList_append]
    rfl
  · rw [String.toList_append]
    rfl

theorem toList_marked (width value : Nat) :
    (marked (width + 2) value).toList = '0' :: 'x' :: (bare width value).toList := by
  rw [toList_marked_eq, if_neg (by omega)]
  rfl

/-- Besides digits there is nothing in a marked number but its marker and its sign. -/
theorem not_mem_marked {width : Nat} {value : Int} {c : Char} (other : ¬ Integer.isDigit 16 c)
    (not_minus : c ≠ '-') (not_marker : c ≠ 'x') : c ∉ (marked width value).toList := by
  have not_zero : c ≠ '0' := by
    rintro rfl
    exact other (by decide)
  have not_digit (width value : Nat) : c ∉ (bare width value).toList :=
    fun member => other (isDigit_of_mem_bare member)
  rw [toList_marked_eq]
  split <;> simp [not_zero, not_minus, not_marker, not_digit]

/-! ## Readers -/

/-- The number that digits write. -/
def number? (text : List Char) : Option Nat :=
  if text ≠ [] ∧ text.all (Integer.isDigit 16) = true then
    some (Integer.digitsValue 16 text)
  else none

/-- The number that is written behind a marker, and behind a minus if it is negative. -/
def read? : List Char → Option Int
  | '-' :: '0' :: 'x' :: digits => (number? digits).map fun value : Nat => -(value : Int)
  | '0' :: 'x' :: digits => (number? digits).map fun value : Nat => (value : Int)
  | _ => none

theorem number?_bare (width value : Nat) : number? (bare width value).toList = some value := by
  have digits : (bare width value).toList.all (Integer.isDigit 16) = true :=
    List.all_eq_true.mpr fun _ member => isDigit_of_mem_bare member
  rw [number?, if_pos ⟨bare_ne_nil width value, digits⟩, digitsValue_bare]

/-- A marked number reads back. -/
theorem read?_marked (width : Nat) (value : Int) :
    read? (marked width value).toList = some value := by
  rw [toList_marked_eq]
  split
  · rw [read?, number?_bare, Option.map_some]
    exact congrArg some (by omega)
  · rw [read?, number?_bare, Option.map_some]
    exact congrArg some (by omega)

/-- No two numbers are written alike. -/
theorem marked_injective {width : Nat} {one other : Int}
    (same : marked width one = marked width other) : one = other := by
  have read := read?_marked width one
  rw [same, read?_marked] at read
  exact (Option.some.inj read).symm

end ChipEight.Text.Hex
