import ChipEight.Keymap
import Mathlib.Data.List.Nodup

/-!
# Bindings

A keymap binds no name twice (`Keymap.Distinct`), and nothing that is done to one changes that.
So it is a finite map from names to keys: what it binds can be told from the list of its
bindings (`Keymap.key?_eq_some_iff`), and of bindings made one after the other the last one of
each name counts (`Keymap.key?_bindAll`).
-/

namespace ChipEight.Keymap

variable {keymap : Keymap} {bindings : List (String × Int)} {name : String} {key : Int}

/-! ## Finite maps -/

/-- The names that are bound. -/
def names (keymap : Keymap) : List String :=
  keymap.bindings.map (·.1)

/-- Whether no name is bound twice. -/
def Distinct (keymap : Keymap) : Prop :=
  keymap.names.Nodup

theorem lookup_cons (first : String × Int) (rest : List (String × Int)) (name : String) :
    (first :: rest).lookup name = if name = first.1 then some first.2 else rest.lookup name := by
  rw [List.lookup_cons]
  by_cases same : name = first.1
  · simp [same]
  · rw [beq_eq_false_iff_ne.mpr same, if_neg same]

theorem lookup_isSome_iff : (bindings.lookup name).isSome ↔ name ∈ bindings.map (·.1) := by
  induction bindings with
  | nil => simp
  | cons first rest ih =>
    rw [lookup_cons, List.map_cons, List.mem_cons, ← ih]
    by_cases same : name = first.1 <;> simp [same]

theorem key?_isSome_iff : (keymap.key? name).isSome ↔ name ∈ keymap.names :=
  lookup_isSome_iff

/-- Where no name is bound twice, the bindings are what is found. -/
theorem lookup_eq_some_iff_mem (distinct : (bindings.map (·.1)).Nodup) :
    bindings.lookup name = some key ↔ (name, key) ∈ bindings := by
  induction bindings with
  | nil => simp
  | cons first rest ih =>
    rcases first with ⟨firstName, firstKey⟩
    rcases List.nodup_cons.mp distinct with ⟨fresh, others⟩
    rw [lookup_cons, List.mem_cons, Prod.mk.injEq]
    by_cases same : name = firstName
    · subst same
      have absent : (name, key) ∉ rest := fun member =>
        fresh (List.mem_map.mpr ⟨_, member, rfl⟩)
      simp [absent, eq_comm]
    · simpa [same] using ih others

theorem key?_eq_some_iff (distinct : keymap.Distinct) :
    keymap.key? name = some key ↔ (name, key) ∈ keymap.bindings :=
  lookup_eq_some_iff_mem distinct

/-- The order of bindings does not matter where no name is bound twice. -/
theorem lookup_reverse (distinct : (bindings.map (·.1)).Nodup) :
    bindings.reverse.lookup name = bindings.lookup name := by
  have reversed : (bindings.reverse.map (·.1)).Nodup := by
    rw [List.map_reverse]
    exact List.nodup_reverse.mpr distinct
  apply Option.ext
  intro key
  rw [lookup_eq_some_iff_mem reversed, lookup_eq_some_iff_mem distinct, List.mem_reverse]

/-- Keymaps that find the same are the same but for the order of their bindings. -/
theorem perm_of_key?_eq {first second : Keymap} (firstDistinct : first.Distinct)
    (secondDistinct : second.Distinct) (same : ∀ name, first.key? name = second.key? name) :
    first.bindings.Perm second.bindings := by
  rw [List.perm_ext_iff_of_nodup (List.Nodup.of_map _ firstDistinct)
    (List.Nodup.of_map _ secondDistinct)]
  rintro ⟨name, key⟩
  rw [← key?_eq_some_iff firstDistinct, ← key?_eq_some_iff secondDistinct, same]

/-! ## Binding names -/

/-- Replacing the key of a name changes what is found for that name, if anything was. -/
theorem lookup_replace (bindings : List (String × Int)) (name : String) (key : Int)
    (other : String) :
    (bindings.map fun entry => if entry.1 == name then (name, key) else entry).lookup other =
      if other = name then (bindings.lookup name).map fun _ => key
      else bindings.lookup other := by
  induction bindings with
  | nil => simp
  | cons first rest ih =>
    rw [List.map_cons, lookup_cons, lookup_cons, lookup_cons, ih]
    by_cases replaced : first.1 = name
    · subst replaced
      by_cases same : other = first.1 <;> simp [same]
    · by_cases same : other = name
      · subst same
        simp [replaced, Ne.symm replaced]
      · simp [same, replaced]

theorem key?_bind (keymap : Keymap) (name : String) (key : Int) (other : String) :
    (keymap.bind name key).key? other = if other = name then some key else keymap.key? other := by
  rw [key?, bind]
  split
  · rename_i bound
    rcases Option.isSome_iff_exists.mp bound with ⟨before, found⟩
    rw [lookup_replace, ← key?, ← key?, found]
    rfl
  · rename_i unbound
    rw [Bool.not_eq_true, Option.isSome_eq_false_iff, Option.isNone_iff_eq_none] at unbound
    rw [List.lookup_append, ← key?, lookup_cons, List.lookup_nil]
    by_cases same : other = name
    · simp [same, unbound]
    · simp [same]

theorem names_bind (keymap : Keymap) (name : String) (key : Int) :
    (keymap.bind name key).names =
      if name ∈ keymap.names then keymap.names else keymap.names ++ [name] := by
  rw [bind, names]
  simp only [key?_isSome_iff]
  split
  · rw [names, List.map_map]
    apply List.map_congr_left
    intro entry _
    by_cases same : entry.1 = name <;> simp [same]
  · rw [List.map_append]
    rfl

theorem Distinct.bind (distinct : keymap.Distinct) (name : String) (key : Int) :
    (keymap.bind name key).Distinct := by
  rw [Distinct, names_bind]
  split
  · exact distinct
  · rename_i fresh
    rw [← List.concat_eq_append]
    exact List.Nodup.concat fresh distinct

/-- Of bindings made one after the other, the last one of each name counts. -/
theorem key?_bindAll (keymap : Keymap) (bindings : List (String × Int)) (name : String) :
    (bindings.foldl (fun keymap entry => keymap.bind entry.1 entry.2) keymap).key? name =
      (bindings.reverse.lookup name).or (keymap.key? name) := by
  induction bindings generalizing keymap with
  | nil => rfl
  | cons first rest ih =>
    rw [List.foldl_cons, ih, key?_bind, List.reverse_cons, List.lookup_append, Option.or_assoc,
      lookup_cons, List.lookup_nil]
    by_cases same : name = first.1 <;> simp [same]

theorem Distinct.bindAll (distinct : keymap.Distinct) (bindings : List (String × Int)) :
    (bindings.foldl (fun keymap entry => keymap.bind entry.1 entry.2) keymap).Distinct := by
  induction bindings generalizing keymap with
  | nil => exact distinct
  | cons first rest ih => exact ih (distinct.bind first.1 first.2)

theorem distinct_empty : empty.Distinct :=
  List.nodup_nil

theorem distinct_layout : layout.Distinct := by
  unfold Distinct
  decide

theorem distinct_ofList (bindings : List (String × Int)) : (ofList bindings).Distinct :=
  distinct_empty.bindAll bindings

theorem key?_ofList (bindings : List (String × Int)) (name : String) :
    (ofList bindings).key? name = bindings.reverse.lookup name :=
  (key?_bindAll empty bindings name).trans (Option.or_none)

/-! ## Keys of the keypad -/

/-- Whether every name is bound to a key of the keypad. -/
def OnPad (keymap : Keymap) : Prop :=
  ∀ entry ∈ keymap.bindings, 0 ≤ entry.2 ∧ entry.2 < 16

theorem OnPad.bind (onPad : keymap.OnPad) (isKey : 0 ≤ key ∧ key < 16) :
    (keymap.bind name key).OnPad := by
  intro entry member
  simp only [Keymap.bind] at member
  split at member
  · obtain ⟨before, inBefore, rfl⟩ := List.mem_map.mp member
    split
    · exact isKey
    · exact onPad before inBefore
  · rcases List.mem_append.mp member with inBefore | isNew
    · exact onPad entry inBefore
    · rw [List.mem_singleton.mp isNew]
      exact isKey

theorem OnPad.bindAll (onPad : keymap.OnPad)
    (areKeys : ∀ entry ∈ bindings, 0 ≤ entry.2 ∧ entry.2 < 16) :
    (bindings.foldl (fun keymap entry => keymap.bind entry.1 entry.2) keymap).OnPad := by
  induction bindings generalizing keymap with
  | nil => exact onPad
  | cons first rest ih =>
    obtain ⟨firstKey, restKeys⟩ := List.forall_mem_cons.mp areKeys
    exact ih (onPad.bind firstKey) restKeys

theorem onPad_layout : layout.OnPad := by
  unfold OnPad
  decide

end ChipEight.Keymap
