import ChipEight.Proofs.Except
import ChipEight.Proofs.Keymap.Bindings
import ChipEight.Proofs.Text.LowerCase
import Mathlib.Data.List.Forall2

/-!
# Reading a keymap

A JSON value describes a keymap exactly if it is a list of objects that each name a key of the
keypad (`Keymap.IsEntry`); of any other list the first element that does not is reported, by its
index.  Names are bound in lower case, and where elements have one lower-case name the last of
them counts (`Keymap.ofJson_accepts`).
-/

namespace ChipEight.Keymap

variable {value : Json.Value} {items : List Json.Value} {bindings : List (String × Int)}
  {index : Nat} {name written : String} {key : Int} {error : Malformed}

/-! ## Entries -/

/-- Whether a JSON value is an object with a name, as it is written, and a key of the keypad. -/
structure Describes (value : Json.Value) (written : String) (key : Int) : Prop where
  /-- It is an object. -/
  isObject : ∃ members, value = .object members
  /-- Its name is a text. -/
  name_eq : value.member? "name" = some (.string written)
  /-- The text is not empty. -/
  nonempty : written ≠ ""
  /-- Its key is a whole number. -/
  key_eq : value.member? "key" = some (.int key)
  /-- The number is a key of the keypad. -/
  isKey : 0 ≤ key ∧ key < 16

/-- Whether a JSON value is an entry of a keymap. -/
def IsEntry (value : Json.Value) : Prop :=
  ∃ written key, Describes value written key

/-- Whether a JSON value is an entry that binds a name, which is in lower case. -/
def Binds (value : Json.Value) (name : String) (key : Int) : Prop :=
  ∃ written, Describes value written key ∧ Text.lowerCase written = name

theorem isEntry_iff_binds : IsEntry value ↔ ∃ name key, Binds value name key := by
  constructor
  · rintro ⟨written, key, describes⟩
    exact ⟨_, key, written, describes, rfl⟩
  · rintro ⟨_, key, written, describes, -⟩
    exact ⟨written, key, describes⟩

/-- An entry binds one name to one key. -/
theorem Binds.unique {other : String} {otherKey : Int} (binds : Binds value name key)
    (others : Binds value other otherKey) : name = other ∧ key = otherKey := by
  rcases binds with ⟨written, describes, rfl⟩
  rcases others with ⟨otherWritten, otherDescribes, rfl⟩
  have names := describes.name_eq.symm.trans otherDescribes.name_eq
  have keys := describes.key_eq.symm.trans otherDescribes.key_eq
  cases names
  cases keys
  exact ⟨rfl, rfl⟩

/-! ## Reports -/

/-- The index of the element that is wrong, if one is. -/
def Malformed.index? : Malformed → Option Nat
  | .notObject index _ | .badName index | .badKey index => some index
  | .notList | .notJson .. | .unknownName _ => none

/-- A report on an element begins with its index. -/
theorem Malformed.message_of_index? (named : error.index? = some index) :
    ∃ complaint, error.message = s!"Entry {index}: " ++ complaint := by
  have label (complaint : String) :
      "Entry " ++ toString index ++ (": " ++ complaint) = s!"Entry {index}: " ++ complaint :=
    String.append_assoc.symm
  cases error with
  | notObject other kind =>
    cases named
    exact ⟨"expected an object, got " ++ kind,
      (congrArg (· ++ kind) (label "expected an object, got ")).trans String.append_assoc⟩
  | badName other =>
    cases named
    exact ⟨_, label "'name' must be a non-empty string"⟩
  | badKey other =>
    cases named
    exact ⟨_, label "'key' must be an integer 0-15"⟩
  | notList | notJson | unknownName => contradiction

/-! ## Reading an entry -/

theorem entry_of_describes (describes : Describes value written key) :
    entry index value = .ok (Text.lowerCase written, key) := by
  rcases describes with ⟨⟨members, rfl⟩, name_eq, nonempty, key_eq, isKey⟩
  simp [entry, name_eq, nonempty, key_eq, isKey]

/-- What is no entry is reported, by its index. -/
theorem isEntry_or_refused (index : Nat) (value : Json.Value) :
    IsEntry value ∨ ∃ error, entry index value = .error error ∧ error.index? = some index := by
  rw [entry.eq_def]
  split
  · rename_i members
    split
    · rename_i written name_eq
      split
      · exact .inr ⟨_, rfl, rfl⟩
      · rename_i nonempty
        split
        · rename_i key key_eq
          split
          · rename_i isKey
            have named : written ≠ "" := by simpa using nonempty
            exact .inl ⟨written, key, ⟨members, rfl⟩, name_eq, named, key_eq, isKey⟩
          · exact .inr ⟨_, rfl, rfl⟩
        · exact .inr ⟨_, rfl, rfl⟩
    · exact .inr ⟨_, rfl, rfl⟩
  · exact .inr ⟨_, rfl, rfl⟩

theorem entry_eq_ok_iff : entry index value = .ok (name, key) ↔ Binds value name key := by
  constructor
  · intro made
    rcases isEntry_or_refused index value with ⟨written, found, describes⟩ | ⟨error, refused, -⟩
    · rw [entry_of_describes describes] at made
      cases made
      exact ⟨written, describes, rfl⟩
    · rw [refused] at made
      contradiction
  · rintro ⟨written, describes, rfl⟩
    exact entry_of_describes describes

/-- An element that is refused is no entry, and is named. -/
theorem refused_of_entry (failed : entry index value = .error error) :
    ¬ IsEntry value ∧ error.index? = some index := by
  constructor
  · rintro ⟨written, key, describes⟩
    rw [entry_of_describes describes] at failed
    contradiction
  · rcases isEntry_or_refused index value with ⟨written, key, describes⟩ | ⟨other, refused, named⟩
    · rw [entry_of_describes describes] at failed
      contradiction
    · rw [refused] at failed
      cases failed
      exact named

/-! ## Lists of entries -/

/-- The elements of a list are read one by one. -/
theorem entries_eq_ok_iff : entries index items = .ok bindings ↔
    List.Forall₂ (fun item binding => Binds item binding.1 binding.2) items bindings := by
  induction items generalizing index bindings with
  | nil =>
    rw [List.forall₂_nil_left_iff, entries]
    constructor
    · intro made
      cases made
      rfl
    · rintro rfl
      rfl
  | cons item rest ih =>
    rw [entries, List.forall₂_cons_left_iff]
    simp only [bind_eq_ok_iff, ih]
    constructor
    · rintro ⟨⟨name, key⟩, first, others, later, made⟩
      cases made
      exact ⟨_, _, entry_eq_ok_iff.mp first, later, rfl⟩
    · rintro ⟨⟨name, key⟩, others, first, later, rfl⟩
      exact ⟨_, entry_eq_ok_iff.mpr first, others, later, rfl⟩

/-- The first element that is no entry is reported. -/
theorem refused_of_entries (failed : entries index items = .error error) :
    ∃ before item after, items = before ++ item :: after ∧
      (∀ earlier ∈ before, IsEntry earlier) ∧ ¬ IsEntry item ∧
      error.index? = some (index + before.length) := by
  induction items generalizing index with
  | nil => contradiction
  | cons item rest ih =>
    rw [entries] at failed
    rcases bind_eq_error_iff.mp failed with here | ⟨⟨name, key⟩, made, failed⟩
    · rcases refused_of_entry here with ⟨refused, named⟩
      exact ⟨[], item, rest, rfl, by simp, refused, named⟩
    · rcases bind_eq_error_iff.mp failed with later | ⟨others, -, failed⟩
      · rcases ih later with ⟨before, other, after, rest_eq, entriesBefore, refused, named⟩
        refine ⟨item :: before, other, after, by rw [rest_eq]; rfl, ?_, refused, ?_⟩
        · rw [List.forall_mem_cons]
          exact ⟨isEntry_iff_binds.mpr ⟨name, key, entry_eq_ok_iff.mp made⟩, entriesBefore⟩
        · rw [named, List.length_cons]
          congr 1
          omega
      · contradiction

/-- Whether the last of some elements that bind a name binds it to a key. -/
def LastBinds (items : List Json.Value) (name : String) (key : Int) : Prop :=
  ∃ before item after, items = before ++ item :: after ∧ Binds item name key ∧
    ∀ later ∈ after, ∀ other, ¬ Binds later name other

theorem lastBinds_cons_iff {item : Json.Value} {rest : List Json.Value} :
    LastBinds (item :: rest) name key ↔
      LastBinds rest name key ∨
        (∀ later ∈ rest, ∀ other, ¬ Binds later name other) ∧ Binds item name key := by
  constructor
  · rintro ⟨before, last, after, items_eq, binds, none⟩
    cases before with
    | nil =>
      cases items_eq
      exact .inr ⟨none, binds⟩
    | cons first before =>
      cases items_eq
      exact .inl ⟨before, last, after, rfl, binds, none⟩
  · rintro (⟨before, last, after, rfl, binds, none⟩ | ⟨none, binds⟩)
    · exact ⟨item :: before, last, after, rfl, binds, none⟩
    · exact ⟨[], item, rest, rfl, binds, none⟩

variable (read : List.Forall₂ (fun item binding => Binds item binding.1 binding.2) items bindings)
include read

/-- The names that are bound are those of the elements. -/
theorem mem_names_iff_exists_binds :
    name ∈ bindings.map (·.1) ↔ ∃ item ∈ items, ∃ key, Binds item name key := by
  induction read with
  | nil => simp
  | @cons item binding items bindings binds later ih =>
    simp only [List.map_cons, List.mem_cons, ih, exists_eq_or_imp]
    constructor
    · rintro (rfl | others)
      · exact .inl ⟨_, binds⟩
      · exact .inr others
    · rintro (⟨key, same⟩ | others)
      · exact .inl (same.unique binds).1
      · exact .inr others

/-- The binding that counts is that of the last element. -/
theorem lookup_reverse_iff_lastBinds :
    bindings.reverse.lookup name = some key ↔ LastBinds items name key := by
  induction read with
  | nil => simp [LastBinds]
  | @cons item binding items bindings binds later ih =>
    have absent : bindings.reverse.lookup name = none ↔
        ∀ item ∈ items, ∀ other, ¬ Binds item name other := by
      rw [← Option.not_isSome_iff_eq_none, lookup_isSome_iff, List.map_reverse,
        List.mem_reverse, mem_names_iff_exists_binds later]
      simp only [not_exists, not_and]
    have here : [binding].lookup name = some key ↔ Binds item name key := by
      rw [lookup_cons, List.lookup_nil, Option.ite_none_right_eq_some, Option.some.injEq]
      constructor
      · rintro ⟨rfl, rfl⟩
        exact binds
      · intro same
        rcases binds.unique same with ⟨names, keys⟩
        exact ⟨names.symm, keys⟩
    rw [List.reverse_cons, List.lookup_append, Option.or_eq_some_iff, ih, absent, here,
      lastBinds_cons_iff]

theorem isEntry_of_read : ∀ item ∈ items, IsEntry item := by
  induction read with
  | nil => simp
  | @cons item binding items bindings binds later ih =>
    exact List.forall_mem_cons.mpr ⟨isEntry_iff_binds.mpr ⟨_, _, binds⟩, ih⟩

theorem areKeys_of_read : ∀ binding ∈ bindings, 0 ≤ binding.2 ∧ binding.2 < 16 := by
  induction read with
  | nil => simp
  | @cons item binding items bindings binds later ih =>
    rcases binds with ⟨written, describes, -⟩
    exact List.forall_mem_cons.mpr ⟨describes.isKey, ih⟩

omit read

/-! ## Values -/

theorem ofJson_eq_ok_iff {keymap : Keymap} :
    ofJson value = .ok keymap ↔ ∃ items bindings, value = .array items ∧
      List.Forall₂ (fun item binding => Binds item binding.1 binding.2) items bindings ∧
      keymap = ofList bindings := by
  rw [ofJson.eq_def]
  constructor
  · intro made
    split at made
    · rename_i items
      rcases bind_eq_ok_iff.mp made with ⟨bindings, read, made⟩
      cases made
      exact ⟨items, bindings, rfl, entries_eq_ok_iff.mp read, rfl⟩
    · contradiction
  · rintro ⟨items, bindings, rfl, read, rfl⟩
    exact bind_eq_ok_iff.mpr ⟨bindings, entries_eq_ok_iff.mpr read, rfl⟩

theorem onPad_ofJson {keymap : Keymap} (made : ofJson value = .ok keymap) : keymap.OnPad := by
  rcases ofJson_eq_ok_iff.mp made with ⟨items, bindings, -, read, rfl⟩
  apply OnPad.bindAll _ (areKeys_of_read read)
  simp [OnPad, empty]

/-- A value that is refused is no list, or has a first element that is no entry and is named. -/
theorem refused_of_ofJson (refused : ofJson value = .error error) :
    (error = .notList ∧ ∀ items, value ≠ .array items) ∨
      ∃ before item after, value = .array (before ++ item :: after) ∧
        (∀ earlier ∈ before, IsEntry earlier) ∧ ¬ IsEntry item ∧
        error.index? = some before.length := by
  rw [ofJson.eq_def] at refused
  split at refused
  · rename_i items
    rcases bind_eq_error_iff.mp refused with failed | ⟨bindings, -, failed⟩
    · rcases refused_of_entries failed with
        ⟨before, item, after, rfl, entriesBefore, noEntry, named⟩
      rw [Nat.zero_add] at named
      exact .inr ⟨before, item, after, rfl, entriesBefore, noEntry, named⟩
    · contradiction
  · rename_i noList
    cases refused
    exact .inl ⟨rfl, noList⟩

theorem exists_ofJson_iff :
    (∃ keymap, ofJson value = .ok keymap) ↔
      ∃ items, value = .array items ∧ ∀ item ∈ items, IsEntry item := by
  constructor
  · rintro ⟨keymap, made⟩
    rcases ofJson_eq_ok_iff.mp made with ⟨items, bindings, rfl, read, -⟩
    exact ⟨items, rfl, isEntry_of_read read⟩
  · rintro ⟨items, rfl, areEntries⟩
    cases made : ofJson (.array items) with
    | ok keymap => exact ⟨keymap, rfl⟩
    | error error =>
      exfalso
      rcases refused_of_ofJson made with
        ⟨-, noList⟩ | ⟨before, item, after, items_eq, -, noEntry, -⟩
      · exact noList items rfl
      · cases items_eq
        exact noEntry (areEntries item (by simp))

/-- The names that are bound are in lower case. -/
theorem lowerCase_of_binds (binds : Binds value name key) : Text.lowerCase name = name := by
  rcases binds with ⟨written, -, rfl⟩
  exact Text.lowerCase_lowerCase written

/-- A JSON value describes a keymap exactly if it is a list of entries: objects with a text
that is not empty for a name and a whole number from 0 to 15 for a key.  Otherwise it is
reported that it is no list, or which is the first of its elements that is no entry.  A keymap
that is described binds the lower-case names of the entries, each to the key of the last entry
that has it, and no name twice, however it is written. -/
theorem ofJson_accepts (value : Json.Value) :
    ((∃ keymap, ofJson value = .ok keymap) ↔
        ∃ items, value = .array items ∧ ∀ item ∈ items, IsEntry item) ∧
      (∀ error, ofJson value = .error error →
        (error = .notList ∧ ∀ items, value ≠ .array items) ∨
          ∃ before item after, value = .array (before ++ item :: after) ∧
            (∀ earlier ∈ before, IsEntry earlier) ∧ ¬ IsEntry item ∧
            error.index? = some before.length ∧
            ∃ complaint, error.message = s!"Entry {before.length}: " ++ complaint) ∧
      ∀ items keymap, value = .array items → ofJson value = .ok keymap →
        keymap.Distinct ∧
          (∀ name, name ∈ keymap.names ↔ ∃ item ∈ items, ∃ key, Binds item name key) ∧
          (∀ name key, keymap.key? name = some key ↔ LastBinds items name key) ∧
          ∀ first ∈ keymap.names, ∀ second ∈ keymap.names,
            Text.lowerCase first = Text.lowerCase second → first = second := by
  refine ⟨exists_ofJson_iff, ?_, ?_⟩
  · intro error refused
    rcases refused_of_ofJson refused with
      noList | ⟨before, item, after, value_eq, entriesBefore, noEntry, named⟩
    · exact .inl noList
    · exact .inr ⟨before, item, after, value_eq, entriesBefore, noEntry, named,
        Malformed.message_of_index? named⟩
  · rintro items keymap rfl made
    rcases ofJson_eq_ok_iff.mp made with ⟨others, bindings, same, read, rfl⟩
    cases same
    have finds (name : String) (key : Int) :
        (ofList bindings).key? name = some key ↔ LastBinds items name key := by
      rw [key?_ofList, lookup_reverse_iff_lastBinds read]
    have bound (name : String) :
        name ∈ (ofList bindings).names ↔ ∃ item ∈ items, ∃ key, Binds item name key := by
      rw [← key?_isSome_iff, key?_ofList, lookup_isSome_iff, List.map_reverse,
        List.mem_reverse, mem_names_iff_exists_binds read]
    have settled : ∀ name ∈ (ofList bindings).names, Text.lowerCase name = name := by
      intro name member
      rcases (bound name).mp member with ⟨item, -, key, binds⟩
      exact lowerCase_of_binds binds
    refine ⟨distinct_ofList bindings, bound, finds, ?_⟩
    intro first firstBound second secondBound alike
    rwa [settled first firstBound, settled second secondBound] at alike

/-- An object with a name and a key. -/
def keyObject (name : String) (key : Json.Value) : Json.Value :=
  .object [("name", .string name), ("key", key)]

/-- Two spellings of a name bind it once, to the last key; of a list whose second element has a
flag for a key, this element is reported. -/
theorem spellings_bind_once :
    ofJson (.array [keyObject "Up" (.int 5), keyObject "UP" (.int 7)]) = .ok ⟨[("up", 7)]⟩ ∧
      LastBinds [keyObject "Up" (.int 5), keyObject "UP" (.int 7)] "up" 7 ∧
      ofJson (.array [keyObject "a" (.int 1), keyObject "b" (.bool true)]) = .error (.badKey 1) ∧
      ¬ IsEntry (keyObject "b" (.bool true)) := by
  have made : ofJson (.array [keyObject "Up" (.int 5), keyObject "UP" (.int 7)]) =
      .ok ⟨[("up", 7)]⟩ := by
    decide +kernel
  have refused : ofJson (.array [keyObject "a" (.int 1), keyObject "b" (.bool true)]) =
      .error (.badKey 1) := by
    decide +kernel
  rcases ofJson_accepts (.array [keyObject "Up" (.int 5), keyObject "UP" (.int 7)]) with
    ⟨-, -, described⟩
  rcases described _ _ rfl made with ⟨-, -, finds, -⟩
  rcases ofJson_accepts (.array [keyObject "a" (.int 1), keyObject "b" (.bool true)]) with
    ⟨-, reported, -⟩
  refine ⟨made, (finds "up" 7).mp rfl, refused, ?_⟩
  rcases reported _ refused with ⟨noList, -⟩ | ⟨before, item, after, items_eq, -, noEntry, named, -⟩
  · contradiction
  · have second : before.length = 1 := (Option.some.inj named).symm
    rcases List.length_eq_one_iff.mp second with ⟨first, rfl⟩
    cases items_eq
    exact noEntry

end ChipEight.Keymap
