import ChipEight.Proofs.Keymap.Bindings

/-!
# Merging

A keymap laid over another one takes the other's bindings away in two ways: by name, since a
name is bound once, and by key, since a key that is bound anew loses the names it had
(`Keymap.key?_merge_eq_some_iff`).  The two can meet, and then a key may be left with no name:
it is reached exactly if the upper keymap reaches it or leaves one of its names alone
(`Keymap.reaches_merge_iff`).
-/

namespace ChipEight.Keymap

variable {keymap overrides base : Keymap} {name : String} {key : Int}

/-- Whether a key has a name. -/
def Reaches (keymap : Keymap) (key : Int) : Prop :=
  ∃ name, keymap.key? name = some key

theorem any_iff_reaches (distinct : keymap.Distinct) :
    (keymap.bindings.any fun entry => entry.2 == key) ↔ keymap.Reaches key := by
  simp only [List.any_eq_true, beq_iff_eq, Reaches, key?_eq_some_iff distinct]
  constructor
  · rintro ⟨⟨name, key⟩, member, rfl⟩
    exact ⟨name, member⟩
  · rintro ⟨name, member⟩
    exact ⟨(name, key), member, rfl⟩

/-! ## What is kept -/

/-- The bindings of a keymap whose keys another one does not reach. -/
def spared (overrides base : Keymap) : Keymap :=
  ⟨base.bindings.filter fun entry =>
    !overrides.bindings.any fun override => override.2 == entry.2⟩

theorem Distinct.spared (distinct : base.Distinct) (overrides : Keymap) :
    (overrides.spared base).Distinct :=
  distinct.sublist (List.filter_sublist.map _)

theorem key?_spared_eq_some_iff (overridesDistinct : overrides.Distinct)
    (baseDistinct : base.Distinct) :
    (overrides.spared base).key? name = some key ↔
      base.key? name = some key ∧ ¬ overrides.Reaches key := by
  rw [key?_eq_some_iff (baseDistinct.spared overrides), key?_eq_some_iff baseDistinct,
    ← any_iff_reaches overridesDistinct, spared, List.mem_filter, Bool.not_eq_true']
  simp only [Bool.not_eq_true]

theorem key?_merge (overridesDistinct : overrides.Distinct) (base : Keymap) (name : String) :
    (overrides.merge base).key? name =
      (overrides.key? name).or ((overrides.spared base).key? name) := by
  rw [merge, key?_bindAll, lookup_reverse overridesDistinct]
  rfl

theorem Distinct.merge (distinct : base.Distinct) (overrides : Keymap) :
    (overrides.merge base).Distinct :=
  (distinct.spared overrides).bindAll overrides.bindings

/-! ## What is bound -/

/-- What the upper keymap binds stays, and what the lower one binds does where the upper one
binds neither the name nor the key. -/
theorem key?_merge_eq_some_iff (overridesDistinct : overrides.Distinct)
    (baseDistinct : base.Distinct) :
    (overrides.merge base).key? name = some key ↔
      overrides.key? name = some key ∨
        overrides.key? name = none ∧ base.key? name = some key ∧ ¬ overrides.Reaches key := by
  rw [key?_merge overridesDistinct, Option.or_eq_some_iff,
    key?_spared_eq_some_iff overridesDistinct baseDistinct]

theorem reaches_merge_iff (overridesDistinct : overrides.Distinct)
    (baseDistinct : base.Distinct) :
    (overrides.merge base).Reaches key ↔
      overrides.Reaches key ∨
        ∃ name, base.key? name = some key ∧ overrides.key? name = none := by
  simp only [Reaches, key?_merge_eq_some_iff overridesDistinct baseDistinct]
  constructor
  · rintro ⟨name, upper | ⟨free, lower, -⟩⟩
    · exact .inl ⟨name, upper⟩
    · exact .inr ⟨name, lower, free⟩
  · rintro (⟨name, upper⟩ | ⟨name, lower, free⟩)
    · exact ⟨name, .inl upper⟩
    · by_cases reached : overrides.Reaches key
      · rcases reached with ⟨other, upper⟩
        exact ⟨other, .inl upper⟩
      · exact ⟨name, .inr ⟨free, lower, reached⟩⟩

/-- What is laid over twice is laid over once. -/
theorem key?_merge_merge (overridesDistinct : overrides.Distinct)
    (baseDistinct : base.Distinct) (name : String) :
    (overrides.merge (overrides.merge base)).key? name = (overrides.merge base).key? name := by
  apply Option.ext
  intro key
  rw [key?_merge_eq_some_iff overridesDistinct (baseDistinct.merge overrides),
    key?_merge_eq_some_iff overridesDistinct baseDistinct]
  constructor
  · rintro (upper | ⟨-, lower, -⟩)
    · exact .inl upper
    · exact lower
  · rintro (upper | ⟨free, lower, unreached⟩)
    · exact .inl upper
    · exact .inr ⟨free, .inr ⟨free, lower, unreached⟩, unreached⟩

/-- A keymap laid over another one. -/
theorem OnPad.merge {overrides base : Keymap} (overridesOnPad : overrides.OnPad)
    (baseOnPad : base.OnPad) : (overrides.merge base).OnPad := by
  apply OnPad.bindAll _ overridesOnPad
  intro entry member
  exact baseOnPad entry (List.mem_of_mem_filter member)

/-! ## Main statement -/

/-- A keymap laid over another one binds a name to a key exactly if it did so before, or the
other one did and neither the name nor the key is bound above.  So it reaches a key exactly if
the upper keymap does or leaves a name of that key alone.  No name is bound twice; laid over
once more, the upper keymap changes nothing but the order of the bindings; and over the default
layout, names are bound to keys of the keypad if the upper keymap does so. -/
theorem merge_binds (overridesDistinct : overrides.Distinct) (baseDistinct : base.Distinct) :
    (∀ name key, (overrides.merge base).key? name = some key ↔
      overrides.key? name = some key ∨
        overrides.key? name = none ∧ base.key? name = some key ∧
          ∀ other, overrides.key? other ≠ some key) ∧
      (∀ key, (overrides.merge base).Reaches key ↔
        overrides.Reaches key ∨
          ∃ name, base.key? name = some key ∧ overrides.key? name = none) ∧
      (overrides.merge base).Distinct ∧
      (∀ name, (overrides.merge (overrides.merge base)).key? name =
        (overrides.merge base).key? name) ∧
      (overrides.merge (overrides.merge base)).bindings.Perm (overrides.merge base).bindings ∧
      (overrides.OnPad → (overrides.merge layout).OnPad) := by
  have merged := baseDistinct.merge overrides
  have twice := key?_merge_merge overridesDistinct baseDistinct
  refine ⟨?_, ?_, merged, twice, ?_, ?_⟩
  · intro name key
    rw [key?_merge_eq_some_iff overridesDistinct baseDistinct, Reaches, not_exists]
  · intro key
    exact reaches_merge_iff overridesDistinct baseDistinct
  · exact perm_of_key?_eq (merged.merge overrides) merged twice
  · intro onPad
    exact onPad.merge onPad_layout

/-- The name of a key that is bound to another key, whose own name is lost.  Then neither the
first key has a name nor the second another one. -/
theorem renamed_unreached :
    (⟨[("w", 7)]⟩ : Keymap).Distinct ∧ layout.Distinct ∧
      layout.key? "w" = some 5 ∧ layout.key? "a" = some 7 ∧
      ((⟨[("w", 7)]⟩ : Keymap).merge layout).key? "w" = some 7 ∧
      ¬ ((⟨[("w", 7)]⟩ : Keymap).merge layout).Reaches 5 := by
  have distinct : (⟨[("w", 7)]⟩ : Keymap).Distinct := List.nodup_singleton "w"
  rcases merge_binds distinct distinct_layout with ⟨binds, reaches, -⟩
  refine ⟨distinct, distinct_layout, by decide, by decide, ?_, ?_⟩
  · rw [binds]
    exact .inl rfl
  · rw [reaches]
    rintro (⟨name, upper⟩ | ⟨name, lower, free⟩)
    · have member := (key?_eq_some_iff distinct).mp upper
      simp at member
    · have member := (key?_eq_some_iff distinct_layout).mp lower
      have same : name = "w" := by simpa [layout] using member
      rw [same] at free
      contradiction

end ChipEight.Keymap
