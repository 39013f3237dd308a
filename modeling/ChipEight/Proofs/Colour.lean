import ChipEight.Colour
import ChipEight.Proofs.Text.Pair

/-!
# What is read as a colour

Six characters are read as a colour, two for each component, and six digits of base sixteen
as the colour that they write.  But what two characters write is not only what two digits
do (`Colour.parse_reads`), so a component may also be negative.
-/

namespace ChipEight.Colour

open ChipEight.Text

/-- The colour of six characters, of which two write a component each. -/
def ofPairs? (pair? : Char → Char → Option Int) : List Char → Option Colour
  | [a, b, c, d, e, f] => do return ⟨← pair? a b, ← pair? c d, ← pair? e f⟩
  | _ => none

theorem ofPairs?_eq_some_iff {pair? : Char → Char → Option Int} {chars : List Char}
    {colour : Colour} :
    ofPairs? pair? chars = some colour ↔ ∃ a b c d e f, chars = [a, b, c, d, e, f] ∧
      pair? a b = some colour.red ∧ pair? c d = some colour.green ∧
      pair? e f = some colour.blue := by
  constructor
  · intro read
    rw [ofPairs?.eq_def] at read
    split at read
    · rename_i a b c d e f
      simp only [Option.bind_eq_bind, Option.bind_eq_some_iff, Option.pure_def,
        Option.some.injEq] at read
      obtain ⟨red, red_eq, green, green_eq, blue, blue_eq, rfl⟩ := read
      exact ⟨a, b, c, d, e, f, rfl, red_eq, green_eq, blue_eq⟩
    · contradiction
  · rintro ⟨a, b, c, d, e, f, rfl, red_eq, green_eq, blue_eq⟩
    simp [ofPairs?, red_eq, green_eq, blue_eq]

/-- The number of two characters as they stand in a text. -/
def pair? (first second : Char) : Option Int :=
  Integer.pairValue? (Integer.plain first) (Integer.plain second)

theorem component?_eq : component? = pair? :=
  funext fun first => funext fun second => toOption_readInteger_pair first second

theorem parse_eq (text : String) :
    parse text = match ofPairs? pair? (digits text) with
      | some colour => .ok colour
      | none => .error ⟨text⟩ := by
  rw [← component?_eq]
  rfl

theorem parse_eq_ok_iff {text : String} {colour : Colour} :
    parse text = .ok colour ↔ ofPairs? pair? (digits text) = some colour := by
  rw [parse_eq]
  cases ofPairs? pair? (digits text) <;> simp

/-- A text is read as a colour exactly if it has six characters, without the blanks around it
and the number signs in front, of which each two write a component; otherwise it is refused.
Six hexadecimal digits are always read, as the components that they write, and nothing else
is where all six are letters and digits.  A component is a number from -15 to 255. -/
theorem parse_reads (text : String) :
    (∀ colour, parse text = .ok colour ↔ ofPairs? pair? (digits text) = some colour) ∧
      (∀ invalid, parse text = .error invalid → invalid = ⟨text⟩) ∧
      (∀ colour, ofPairs? Integer.hexPair? (digits text) = some colour →
        parse text = .ok colour) ∧
      (∀ colour, parse text = .ok colour → (∀ c ∈ digits text, c.isAlphanum) →
        ofPairs? Integer.hexPair? (digits text) = some colour) ∧
      ∀ colour, parse text = .ok colour →
        ∀ component ∈ colour.components, -15 ≤ component ∧ component ≤ 255 := by
  refine ⟨fun colour => parse_eq_ok_iff, ?_, ?_, ?_, ?_⟩
  · intro invalid refused
    rw [parse_eq] at refused
    split at refused
    · contradiction
    · cases refused
      rfl
  · intro colour written
    obtain ⟨a, b, c, d, e, f, digits_eq, red, green, blue⟩ := ofPairs?_eq_some_iff.mp written
    exact parse_eq_ok_iff.mpr (ofPairs?_eq_some_iff.mpr ⟨a, b, c, d, e, f, digits_eq,
      Integer.pairValue?_of_hexPair? red, Integer.pairValue?_of_hexPair? green,
      Integer.pairValue?_of_hexPair? blue⟩)
  · intro colour read ink
    obtain ⟨a, b, c, d, e, f, digits_eq, red, green, blue⟩ :=
      ofPairs?_eq_some_iff.mp (parse_eq_ok_iff.mp read)
    rw [digits_eq] at ink
    refine ofPairs?_eq_some_iff.mpr ⟨a, b, c, d, e, f, digits_eq, ?_, ?_, ?_⟩
    · exact Integer.hexPair?_of_pairValue? (ink a (by simp)) (ink b (by simp)) red
    · exact Integer.hexPair?_of_pairValue? (ink c (by simp)) (ink d (by simp)) green
    · exact Integer.hexPair?_of_pairValue? (ink e (by simp)) (ink f (by simp)) blue
  · intro colour read component member
    obtain ⟨a, b, c, d, e, f, -, red, green, blue⟩ :=
      ofPairs?_eq_some_iff.mp (parse_eq_ok_iff.mp read)
    simp only [components, List.mem_cons, List.not_mem_nil, or_false] at member
    rcases member with rfl | rfl | rfl
    · exact Integer.pairValue?_range red
    · exact Integer.pairValue?_range green
    · exact Integer.pairValue?_range blue

/-- Signs are read as well as digits, and give a colour that there is not. -/
theorem signs_read :
    parse "#-1-1-1" = .ok ⟨-1, -1, -1⟩ ∧
      ofPairs? Integer.hexPair? (digits "#-1-1-1") = none := by
  decide +kernel

end ChipEight.Colour
