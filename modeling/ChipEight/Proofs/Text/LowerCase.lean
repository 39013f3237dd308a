import ChipEight.Text.CodePoint
import ChipEight.Text.LowerCase

/-!
# Lower case is settled

A text in lower case is its own lower-case form (`Text.lowerCase_lowerCase`): the letters that
a run of capitals moves to are in no run (`Text.LowerCase.runs_miss`), and neither of the two
characters with a rule of their own is among them.
-/

namespace ChipEight.Text

namespace LowerCase

variable {run other : Run} {code letter : Nat} {c : Char}

/-- The first letter that a run of capitals moves to. -/
def Run.low (run : Run) : Nat :=
  (run.first + run.shift).toNat

/-- The last letter that a run of capitals moves to. -/
def Run.high (run : Run) : Nat :=
  (run.last + run.shift).toNat

/-- Whether the letters that a run of capitals moves to lie apart from another run, or between
its capitals. -/
def Run.misses (run other : Run) : Bool :=
  Nat.blt run.high other.first || Nat.blt other.last run.low ||
    ((run.stride == 2 || run.first == run.last) && other.stride == 2 &&
      run.low % 2 != other.first % 2)

/-- Whether a run of capitals moves to characters. -/
def Run.lands (run : Run) : Bool :=
  0 ≤ run.first + run.shift && (run.high < 0xD800 || 0xE000 ≤ run.low && run.high < 0x110000)

theorem Run.contains_iff :
    run.contains code ↔
      run.first ≤ code ∧ code ≤ run.last ∧ (code - run.first) % run.stride = 0 := by
  simp [contains, and_assoc]

theorem Run.lands_iff :
    run.lands ↔ 0 ≤ run.first + run.shift ∧
      (run.last + run.shift < 0xD800 ∨
        0xE000 ≤ run.first + run.shift ∧ run.last + run.shift < 0x110000) := by
  simp only [Run.lands, Bool.or_eq_true, Bool.and_eq_true, decide_eq_true_eq]
  simp only [low, high]
  omega

/-- A run that misses another one moves none of its capitals to a capital of the other. -/
theorem Run.not_contains_of_misses (lands : run.lands) (misses : run.misses other)
    (member : run.contains code) (moved : (letter : Int) = code + run.shift) :
    other.contains letter = false := by
  rw [← Bool.not_eq_true, contains_iff]
  rintro ⟨notBelow, notAbove, onStride⟩
  rcases contains_iff.mp member with ⟨first, last, stride⟩
  simp only [Run.misses, low, high, Bool.or_eq_true, Bool.and_eq_true, Nat.blt_eq, beq_iff_eq,
    bne_iff_ne] at misses
  have nonneg := (lands_iff.mp lands).1
  rcases misses with (below | above) | ⟨⟨even | single, otherEven⟩, between⟩
  · omega
  · omega
  · rw [even] at stride
    rw [otherEven] at onStride
    omega
  · rw [otherEven] at onStride
    omega

/-- A capital of a run that lands moves to a character. -/
theorem Run.toNat_moved (lands : run.lands) (member : run.contains code) :
    ((Char.ofNat (code + run.shift).toNat).toNat : Int) = code + run.shift := by
  rcases contains_iff.mp member with ⟨first, last, -⟩
  rcases lands_iff.mp lands with ⟨nonneg, inRange⟩
  rw [toNat_ofNat]
  · omega
  · simp only [isHalf, isFirstHalf, isSecondHalf, Bool.or_eq_false_iff, Bool.and_eq_false_iff,
      decide_eq_false_iff_not]
    omega
  · omega

/-! ## The table -/

theorem runs_miss : runs.all fun run => runs.all run.misses := by
  decide +kernel

/-- The capital I with a dot as a run of its own. -/
def dottedRun : Run :=
  ⟨304, 304, 1, 0⟩

theorem contains_dotted : dottedRun.contains 'İ'.toNat = true := by
  decide

theorem runs_miss_dotted : runs.all fun run => run.misses dottedRun := by
  decide +kernel

theorem runs_land : runs.all Run.lands := by
  decide +kernel

/-! ## Settled texts -/

/-- Whether a character is its own lower-case form. -/
structure Settled (c : Char) : Prop where
  /-- It is not the capital I with a dot. -/
  notDotted : c ≠ 'İ'
  /-- It is not the capital sigma. -/
  notSigma : c ≠ 'Σ'
  /-- It is in no run of capitals. -/
  simple_eq : simple c = c

theorem simple_sigma : simple 'Σ' ≠ 'Σ' := by
  decide +kernel

/-- What a character is moved to stays where it is. -/
theorem settled_simple (notDotted : c ≠ 'İ') (notSigma : c ≠ 'Σ') : Settled (simple c) := by
  cases found : runs.find? fun run => run.contains c.toNat with
  | none =>
    have kept : simple c = c := by
      rw [simple, found]
    rw [kept]
    exact ⟨notDotted, notSigma, kept⟩
  | some run =>
    have moved : simple c = Char.ofNat (c.toNat + run.shift).toNat := by
      rw [simple, found]
    have member : run.contains c.toNat :=
      List.find?_some (p := fun run : Run => run.contains c.toNat) found
    have listed : run ∈ runs := List.mem_of_find?_eq_some found
    have lands := List.all_eq_true.mp runs_land run listed
    have letter := Run.toNat_moved lands member
    rw [← moved] at letter
    have kept : simple (simple c) = simple c := by
      have nowhere : (runs.find? fun other => other.contains (simple c).toNat) = none := by
        rw [List.find?_eq_none]
        intro other otherListed
        have misses := List.all_eq_true.mp
          (List.all_eq_true.mp runs_miss run listed) other otherListed
        rw [Run.not_contains_of_misses lands misses member letter]
        exact Bool.false_ne_true
      rw [simple, nowhere]
    constructor
    · intro dotted
      have misses := List.all_eq_true.mp runs_miss_dotted run listed
      have apart := Run.not_contains_of_misses lands misses member letter
      rw [dotted, contains_dotted] at apart
      contradiction
    · intro sigma
      rw [sigma] at kept
      exact simple_sigma kept
    · exact kept

theorem settled_of_mem_lower {before text : List Char} (member : c ∈ lower before text) :
    Settled c := by
  induction text generalizing before with
  | nil => contradiction
  | cons first rest ih =>
    rw [lower] at member
    rcases List.mem_append.mp member with here | later
    · split at here
      · -- the dot stays as a mark of its own
        have either : c = 'i' ∨ c = '\u0307' := by simpa using here
        rcases either with rfl | rfl <;> constructor <;> decide +kernel
      · rename_i notDotted
        split at here
        · have either : c = 'ς' ∨ c = 'σ' := by
            rw [List.mem_singleton.mp here]
            split
            · exact .inl rfl
            · exact .inr rfl
          rcases either with rfl | rfl <;> constructor <;> decide +kernel
        · rename_i notSigma
          rw [List.mem_singleton.mp here]
          exact settled_simple (by simpa using notDotted) (by simpa using notSigma)
    · exact ih later

theorem lower_of_settled {text : List Char} (settled : ∀ c ∈ text, Settled c)
    (before : List Char) : lower before text = text := by
  induction text generalizing before with
  | nil => rfl
  | cons c rest ih =>
    rcases List.forall_mem_cons.mp settled with ⟨here, later⟩
    rw [lower, ih later]
    simp [here.notDotted, here.notSigma, here.simple_eq]

end LowerCase

/-- A text in lower case is its own lower-case form. -/
theorem lowerCase_lowerCase (text : String) : lowerCase (lowerCase text) = lowerCase text := by
  have settled : ∀ c ∈ LowerCase.lower [] text.toList, LowerCase.Settled c :=
    fun _ member => LowerCase.settled_of_mem_lower member
  rw [lowerCase, lowerCase, String.toList_ofList, LowerCase.lower_of_settled settled]

end ChipEight.Text
