/-!
# Results that may be errors

What two results in sequence come to, what becomes of a result whose error is reworded, and
what a list of results comes to if all of them are there.
-/

namespace ChipEight

variable {ε η α β : Type}

theorem bind_eq_ok_iff {first : Except ε α} {rest : α → Except ε β} {result : β} :
    (first >>= rest) = .ok result ↔ ∃ value, first = .ok value ∧ rest value = .ok result := by
  cases first with
  | error cause =>
    constructor
    · intro ended
      contradiction
    · rintro ⟨value, ended, -⟩
      contradiction
  | ok value =>
    constructor
    · exact fun ended => ⟨value, rfl, ended⟩
    · rintro ⟨_, value_eq, ended⟩
      cases value_eq
      exact ended

theorem bind_eq_error_iff {first : Except ε α} {rest : α → Except ε β} {cause : ε} :
    (first >>= rest) = .error cause ↔
      first = .error cause ∨ ∃ value, first = .ok value ∧ rest value = .error cause := by
  cases first with
  | error other =>
    change Except.error other = Except.error cause ↔ _
    simp
  | ok value =>
    change rest value = Except.error cause ↔ _
    simp

theorem mapError_eq_ok_iff {result : Except ε α} {change : ε → η} {value : α} :
    result.mapError change = .ok value ↔ result = .ok value := by
  cases result with
  | error cause =>
    change Except.error (change cause) = Except.ok value ↔ _
    simp
  | ok found =>
    change Except.ok found = Except.ok value ↔ _
    simp

theorem mapError_eq_error_iff {result : Except ε α} {change : ε → η} {cause : η} :
    result.mapError change = .error cause ↔
      ∃ before, result = .error before ∧ change before = cause := by
  cases result with
  | error before =>
    change Except.error (change before) = Except.error cause ↔ _
    simp
  | ok found =>
    change Except.ok found = Except.error cause ↔ _
    simp

/-- If every result is there, so is the list of them. -/
theorem mapM_eq_pure_map {m : Type → Type} [Monad m] [LawfulMonad m] {action : α → m β}
    {value : α → β} {entries : List α}
    (there : ∀ entry ∈ entries, action entry = pure (value entry)) :
    entries.mapM action = pure (entries.map value) := by
  induction entries with
  | nil => rfl
  | cons first rest ih =>
    obtain ⟨firstThere, restThere⟩ := List.forall_mem_cons.mp there
    rw [List.mapM_cons, firstThere, ih restThere]
    simp

/-- If the list of results is there, so is every one of them. -/
theorem exists_of_mapM_eq_ok {action : α → Except ε β} {entries : List α} {values : List β}
    (there : entries.mapM action = .ok values) :
    ∀ entry ∈ entries, ∃ value, action entry = .ok value := by
  induction entries generalizing values with
  | nil => simp
  | cons first rest ih =>
    rw [List.mapM_cons] at there
    obtain ⟨value, firstThere, others⟩ := bind_eq_ok_iff.mp there
    obtain ⟨values, restThere, -⟩ := bind_eq_ok_iff.mp others
    exact List.forall_mem_cons.mpr ⟨⟨value, firstThere⟩, ih restThere⟩

end ChipEight
