import ChipEight.Json.Reader
import ChipEight.Proofs.Except
import ChipEight.Text.Utf8
import Mathlib.Data.List.Infix

/-!
# What a reader leaves, and where it gives up

A reader takes something off the front of a text and leaves the rest.  Where the text stops
following the grammar it gives up, and names the rest that is not read.  It gives up in two
ways on texts that follow the grammar so far: on a whole number with too many digits, and
on brackets nested too deeply.  All of this can be seen in the text (`Reader.Faithful`): it
ends in the rest that is named, there is a run of that many digits in it, or there are more
opening brackets than levels.  The property goes along with every part of the reader, since
each part reads what another one left; so it holds of the whole (`Json.shown_of_read_error`).
The place that a report gives is therefore the one where the rest begins
(`Violation.drop_place`).

Line ends that are unified on the way make no difference to the digits and brackets of a text
(`Json.HasDigits.of_unifyLineEnds`, `Json.countP_opensLevel_unifyLineEnds`).

A reader is also granted a number of parts, so that it comes to an end.  It never runs out
of them: with more parts it reads the same (`Json.read_eq_of_enough`).
-/

namespace ChipEight.Json

/-- Whether a character opens a list or an object. -/
def opensLevel (c : Char) : Bool :=
  c == '[' || c == '\x7b'

/-- Whether there is a run of so many digits in a text. -/
def HasDigits (count : Nat) (text : List Char) : Prop :=
  ∃ rest, rest <:+ text ∧ (rest.takeWhile Char.isDigit).length = count

theorem HasDigits.of_suffix {count : Nat} {rest text : List Char} (digits : HasDigits count rest)
    (suffix : rest <:+ text) : HasDigits count text := by
  obtain ⟨run, inRest, length_eq⟩ := digits
  exact ⟨run, inRest.trans suffix, length_eq⟩

/-- Whether a text shows why it was not read within a number of levels. -/
def ReadError.Shown (levels : Nat) (text : List Char) : ReadError → Prop
  | .malformed _ rest => rest <:+ text
  | .tooManyDigits count => digitLimit < count ∧ HasDigits count text
  | .tooDeep _ => levels < text.countP opensLevel

namespace Reader

variable {α β : Type} {levels : Nat} {source rest : List Char}

/-- Whether a reader leaves a rest of its source, or its source shows why it does not. -/
def Faithful (levels : Nat) (source : List Char) : Except ReadError (α × List Char) → Prop
  | .ok (_, rest) => rest <:+ source
  | .error error => error.Shown levels source

/-- What is true of a rest is true of the whole. -/
theorem Faithful.of_suffix {result : Except ReadError (α × List Char)}
    (faithful : Faithful levels rest result) (suffix : rest <:+ source) :
    Faithful levels source result := by
  cases result with
  | ok found => exact List.IsSuffix.trans faithful suffix
  | error error =>
    cases error with
    | malformed violation left => exact List.IsSuffix.trans faithful suffix
    | tooManyDigits count => exact ⟨faithful.1, faithful.2.of_suffix suffix⟩
    | tooDeep object =>
      exact Nat.lt_of_lt_of_le faithful (suffix.sublist.countP_le)

/-- A bracket opens one more level. -/
theorem Faithful.of_bracket {bracket : Char} (opens : opensLevel bracket)
    {result : Except ReadError (α × List Char)} (faithful : Faithful levels rest result) :
    Faithful (levels + 1) (bracket :: rest) result := by
  have whole := faithful.of_suffix (List.suffix_cons bracket rest)
  cases result with
  | ok found => exact whole
  | error error =>
    cases error with
    | malformed | tooManyDigits => exact whole
    | tooDeep object =>
      have deeper : levels < rest.countP opensLevel := faithful
      change levels + 1 < (bracket :: rest).countP opensLevel
      rw [List.countP_cons_of_pos opens]
      exact Nat.succ_lt_succ deeper

/-- One reader after another. -/
theorem Faithful.bind {first : Except ReadError (α × List Char)}
    {next : α × List Char → Except ReadError (β × List Char)}
    (faithful : Faithful levels source first)
    (goesOn : ∀ value rest, Faithful levels rest (next (value, rest))) :
    Faithful levels source (first >>= next) := by
  cases first with
  | error error => exact faithful
  | ok found => exact (goesOn found.1 found.2).of_suffix faithful

/-- What a reader finds can be made into something else. -/
theorem Faithful.map {result : Except ReadError (α × List Char)}
    (faithful : Faithful levels source result) (make : α → β) :
    Faithful levels source (result >>= fun found => .ok (make found.1, found.2)) :=
  faithful.bind fun _ left => List.suffix_refl left

/-- What comes after a reader need only agree on the rests that the reader can leave. -/
theorem Faithful.bind_congr {first : Except ReadError (α × List Char)}
    {next other : α × List Char → Except ReadError (β × List Char)}
    (faithful : Faithful levels source first)
    (agree : ∀ value rest, rest <:+ source → next (value, rest) = other (value, rest)) :
    (first >>= next) = (first >>= other) := by
  cases first with
  | error error => rfl
  | ok found => exact agree found.1 found.2 faithful

/-! ## Parts of values -/

theorem skipBlanks_suffix (source : List Char) : skipBlanks source <:+ source :=
  List.dropWhile_suffix isBlank

/-- What follows a character behind blanks. -/
theorem suffix_of_skipBlanks_eq {c : Char} (skipped : skipBlanks source = c :: rest) :
    rest <:+ source :=
  (List.suffix_cons c rest).trans (skipped ▸ skipBlanks_suffix source)

/-- A text without an end is reported where it begins, so its opening quote comes along. -/
theorem codeUnits_faithful {opening : List Char} (opened : source <:+ opening) :
    Faithful levels opening (codeUnits opening source) := by
  fun_induction codeUnits opening source with
  | case1 | case2 => exact List.suffix_refl opening
  | case3 after => exact (List.suffix_cons '"' after).trans opened
  | case4 a b c d e after unit _ ih =>
    have inside : e :: after <:+ opening :=
      List.IsSuffix.trans ⟨['\\', 'u', a, b, c, d], rfl⟩ opened
    exact (ih inside).map (unit :: ·)
  | case5 | case6 => exact (List.suffix_cons '\\' _).trans opened
  | case7 c after _ _ escaped _ ih =>
    have inside : after <:+ opening := List.IsSuffix.trans ⟨['\\', c], rfl⟩ opened
    exact (ih inside).map (escaped.toNat :: ·)
  | case8 | case9 => exact opened
  | case10 c after _ _ _ _ _ _ ih =>
    exact (ih ((List.suffix_cons c after).trans opened)).map (c.toNat :: ·)

theorem text_faithful {opening : List Char} (opened : source <:+ opening) :
    Faithful levels opening (text opening source) :=
  (codeUnits_faithful opened).map fun units => String.ofList (Text.hold (Text.joinHalves units))

/-- The digits before a point and what follows are the whole source. -/
theorem wholeDigits_append (source : List Char) :
    (wholeDigits source).1 ++ (wholeDigits source).2 = source := by
  rw [wholeDigits.eq_def]
  split
  · rfl
  · exact List.takeWhile_append_dropWhile

theorem fraction_suffix (source : List Char) : (fraction source).2 <:+ source := by
  rw [fraction.eq_def]
  split
  · simp only
    split
    · exact List.suffix_refl _
    · exact (List.dropWhile_suffix _).trans (List.suffix_cons _ _)
  · exact List.suffix_refl _

theorem exponent?_suffix {power : Int} (read : exponent? source = some (power, rest)) :
    rest <:+ source := by
  -- Behind the letter and the sign come digits, if the exponent is read at all.
  have behind {found : Int} {after : List Char}
      (signed : (if (after.takeWhile Char.isDigit).isEmpty then none
        else some (found, after.dropWhile Char.isDigit)) = some (power, rest)) :
      rest <:+ after := by
    split at signed
    · contradiction
    · cases signed
      exact List.dropWhile_suffix _
  rw [exponent?.eq_def] at read
  simp only at read
  split at read
  · exact (behind read).trans ⟨['e', '-'], rfl⟩
  · exact (behind read).trans ⟨['E', '-'], rfl⟩
  · exact (behind read).trans ⟨['e', '+'], rfl⟩
  · exact (behind read).trans ⟨['E', '+'], rfl⟩
  · exact (behind read).trans ⟨['e'], rfl⟩
  · exact (behind read).trans ⟨['E'], rfl⟩
  · contradiction

/-- The digits before a point are a run of digits. -/
theorem hasDigits_of_wholeDigits (many : 1 < (wholeDigits source).1.length) :
    HasDigits (wholeDigits source).1.length source := by
  rw [wholeDigits.eq_def] at many ⊢
  split at many
  · exact absurd many (by simp)
  · exact ⟨source, List.suffix_refl source, rfl⟩

theorem number_faithful {start : List Char} (negative : Bool) (begun : source <:+ start) :
    Faithful levels start (number start negative source) := by
  have whole_suffix : (wholeDigits source).2 <:+ source :=
    ⟨(wholeDigits source).1, wholeDigits_append source⟩
  have part_suffix := ((fraction_suffix (wholeDigits source).2).trans whole_suffix).trans begun
  simp only [number]
  split
  · exact List.suffix_refl start
  · split
    · split
      · rename_i tooMany
        have many : 1 < (wholeDigits source).1.length := Nat.lt_trans (by decide) tooMany
        exact ⟨tooMany, (hasDigits_of_wholeDigits many).of_suffix begun⟩
      · exact part_suffix
    · cases found : exponent? (fraction (wholeDigits source).2).2 with
      | none => exact part_suffix
      | some power => exact (exponent?_suffix found).trans part_suffix

theorem scalar_faithful (source : List Char) : Faithful levels source (scalar source) := by
  rw [scalar.eq_def]
  split
  · rename_i after
    have opened : after <:+ '"' :: after := List.suffix_cons '"' after
    exact (text_faithful opened).map Value.string
  · exact ⟨['n', 'u', 'l', 'l'], rfl⟩
  · exact ⟨['t', 'r', 'u', 'e'], rfl⟩
  · exact ⟨['f', 'a', 'l', 's', 'e'], rfl⟩
  · exact ⟨['N', 'a', 'N'], rfl⟩
  · exact ⟨"Infinity".toList, rfl⟩
  · exact ⟨"-Infinity".toList, rfl⟩
  · exact number_faithful true (List.suffix_cons '-' _)
  · exact number_faithful false (List.suffix_refl source)

theorem memberName_faithful (source : List Char) :
    Faithful levels source (memberName source) := by
  rw [memberName.eq_def]
  split
  · rename_i after
    have opened : after <:+ '"' :: after := List.suffix_cons '"' after
    refine (text_faithful opened).bind fun name left => ?_
    simp only
    split
    · rename_i behind skipped
      exact (skipBlanks_suffix behind).trans (suffix_of_skipBlanks_eq skipped)
    · exact skipBlanks_suffix left
  · exact List.suffix_refl source

/-! ## Values -/

theorem length_lt_of_skipBlanks_eq {c : Char} (skipped : skipBlanks source = c :: rest) :
    rest.length < source.length := by
  have left := (skipBlanks_suffix source).length_le
  rwa [skipped, List.length_cons] at left

variable {bound : Nat}

theorem items_faithful
    (value_ih : ∀ levels source, Faithful levels source (value bound levels source))
    (items_ih : ∀ levels source, Faithful levels source (items bound levels source))
    (levels : Nat) (source : List Char) :
    Faithful levels source (items (bound + 1) levels source) := by
  rw [items]
  refine (value_ih levels source).bind fun first rest => ?_
  simp only
  split
  · rename_i behind skipped
    exact suffix_of_skipBlanks_eq skipped
  · rename_i behind skipped
    have others : Faithful levels (skipBlanks behind) (items bound levels (skipBlanks behind) >>=
        fun found => .ok (first :: found.1, found.2)) :=
      (items_ih levels (skipBlanks behind)).map (first :: ·)
    exact others.of_suffix ((skipBlanks_suffix behind).trans (suffix_of_skipBlanks_eq skipped))
  · exact skipBlanks_suffix rest

theorem members_faithful
    (value_ih : ∀ levels source, Faithful levels source (value bound levels source))
    (members_ih : ∀ levels source, Faithful levels source (members bound levels source))
    (levels : Nat) (source : List Char) :
    Faithful levels source (members (bound + 1) levels source) := by
  rw [members]
  refine (memberName_faithful source).bind fun name named => ?_
  refine (value_ih levels named).bind fun first rest => ?_
  simp only
  split
  · rename_i behind skipped
    exact suffix_of_skipBlanks_eq skipped
  · rename_i behind skipped
    have others : Faithful levels (skipBlanks behind) (members bound levels (skipBlanks behind) >>=
        fun found => .ok ((name, first) :: found.1, found.2)) :=
      (members_ih levels (skipBlanks behind)).map ((name, first) :: ·)
    exact others.of_suffix ((skipBlanks_suffix behind).trans (suffix_of_skipBlanks_eq skipped))
  · exact skipBlanks_suffix rest

/-- A bracket takes up a level, and what is in it is read within the others. -/
theorem bracket_faithful {bracket : Char} (opens : opensLevel bracket) {after : List Char}
    {result : Except ReadError (α × List Char)} (make : α → β)
    (faithful : Faithful levels (skipBlanks after) result) :
    Faithful (levels + 1) (bracket :: after)
      (result >>= fun found => .ok (make found.1, found.2)) :=
  ((faithful.map make).of_suffix (skipBlanks_suffix after)).of_bracket opens

/-- Without a level left a bracket is one too many. -/
theorem bracket_tooDeep {bracket : Char} (opens : opensLevel bracket) (after : List Char)
    (object : Bool) : (ReadError.tooDeep object).Shown 0 (bracket :: after) :=
  List.countP_pos_iff.mpr ⟨bracket, List.mem_cons_self, opens⟩

theorem value_faithful
    (items_ih : ∀ levels source, Faithful levels source (items bound levels source))
    (members_ih : ∀ levels source, Faithful levels source (members bound levels source))
    (levels : Nat) (source : List Char) :
    Faithful levels source (value (bound + 1) levels source) := by
  rw [value.eq_def]
  simp only
  split
  · rename_i after
    cases levels with
    | zero => exact bracket_tooDeep rfl after false
    | succ fewer =>
      rw [if_neg (Nat.succ_ne_zero fewer), Nat.add_sub_cancel]
      split
      · rename_i behind skipped
        exact (suffix_of_skipBlanks_eq skipped).trans (List.suffix_cons '[' after)
      · exact bracket_faithful rfl Value.array (items_ih fewer (skipBlanks after))
  · rename_i after
    cases levels with
    | zero => exact bracket_tooDeep rfl after true
    | succ fewer =>
      rw [if_neg (Nat.succ_ne_zero fewer), Nat.add_sub_cancel]
      split
      · rename_i behind skipped
        exact (suffix_of_skipBlanks_eq skipped).trans (List.suffix_cons '\x7b' after)
      · exact bracket_faithful rfl Value.object (members_ih fewer (skipBlanks after))
  · exact scalar_faithful source

/-- Every part of a value is read faithfully, by induction on how many parts may still be
read. -/
theorem parts_faithful (bound : Nat) :
    (∀ levels source, Faithful levels source (value bound levels source)) ∧
    (∀ levels source, Faithful levels source (items bound levels source)) ∧
    ∀ levels source, Faithful levels source (members bound levels source) := by
  induction bound with
  | zero =>
    exact ⟨fun _ => List.suffix_refl, fun _ => List.suffix_refl, fun _ => List.suffix_refl⟩
  | succ bound ih =>
    obtain ⟨value_ih, items_ih, members_ih⟩ := ih
    exact ⟨value_faithful items_ih members_ih, items_faithful value_ih items_ih,
      members_faithful value_ih members_ih⟩

/-! ## The bound on the parts -/

/-- Whether a part reads short sources within a bound: with a larger bound it reads the same.
Each character calls for two parts at most, one for an item and one for its value; a list
calls for one more than its first item. -/
def Settled {α : Type} (part : Nat → Nat → List Char → Except ReadError (α × List Char))
    (bound spare : Nat) : Prop :=
  ∀ levels source, 2 * source.length + spare ≤ bound →
    part (bound + 1) levels source = part bound levels source

theorem items_settled (value_ih : Settled value bound 1) (items_ih : Settled items bound 2) :
    Settled items (bound + 1) 2 := by
  intro levels source enough
  rw [items, items, value_ih levels source (by omega)]
  refine ((parts_faithful bound).1 levels source).bind_congr fun first rest suffix => ?_
  simp only
  split
  · rfl
  · rename_i behind skipped
    have left := suffix.length_le
    have cut := length_lt_of_skipBlanks_eq skipped
    have blanks := (skipBlanks_suffix behind).length_le
    rw [items_ih levels (skipBlanks behind) (by omega)]
  · rfl

theorem members_settled (value_ih : Settled value bound 1)
    (members_ih : Settled members bound 2) : Settled members (bound + 1) 2 := by
  intro levels source enough
  rw [members, members]
  have opens : Faithful levels source (memberName source) := memberName_faithful source
  refine opens.bind_congr fun name named namedSuffix => ?_
  have remains := namedSuffix.length_le
  simp only
  rw [value_ih levels named (by omega)]
  refine ((parts_faithful bound).1 levels named).bind_congr fun first rest suffix => ?_
  simp only
  split
  · rfl
  · rename_i behind skipped
    have left := suffix.length_le
    have cut := length_lt_of_skipBlanks_eq skipped
    have blanks := (skipBlanks_suffix behind).length_le
    rw [members_ih levels (skipBlanks behind) (by omega)]
  · rfl

theorem value_settled (items_ih : Settled items bound 2) (members_ih : Settled members bound 2) :
    Settled value (bound + 1) 1 := by
  intro levels source enough
  rw [value.eq_def, value.eq_def (bound + 1)]
  simp only
  split
  · rename_i after
    have blanks := (skipBlanks_suffix after).length_le
    rw [List.length_cons] at enough
    have items_eq := items_ih (levels - 1) (skipBlanks after) (by omega)
    generalize skipBlanks after = inner at items_eq
    split
    · rfl
    · split
      · rfl
      · rw [items_eq]
  · rename_i after
    have blanks := (skipBlanks_suffix after).length_le
    rw [List.length_cons] at enough
    have members_eq := members_ih (levels - 1) (skipBlanks after) (by omega)
    generalize skipBlanks after = inner at members_eq
    split
    · rfl
    · split
      · rfl
      · rw [members_eq]
  · rfl

theorem parts_settled (bound : Nat) :
    Settled value bound 1 ∧ Settled items bound 2 ∧ Settled members bound 2 := by
  induction bound with
  | zero =>
    refine ⟨?_, ?_, ?_⟩ <;>
      exact fun _ _ enough => absurd enough (Nat.not_succ_le_zero _)
  | succ bound ih =>
    obtain ⟨value_ih, items_ih, members_ih⟩ := ih
    exact ⟨value_settled items_ih members_ih, items_settled value_ih items_ih,
      members_settled value_ih members_ih⟩

theorem value_eq_of_enough {other : Nat} (enough : 2 * source.length < bound)
    (enoughOther : 2 * source.length < other) :
    value bound levels source = value other levels source := by
  have least {more : Nat} (le : 2 * source.length + 1 ≤ more) :
      value more levels source = value (2 * source.length + 1) levels source := by
    induction le with
    | refl => rfl
    | @step more le ih => exact ((parts_settled more).1 levels source le).trans ih
  rw [least enough, least enoughOther]

theorem document_eq_of_enough {other : Nat} (enough : 2 * source.length < bound)
    (enoughOther : 2 * source.length < other) :
    document bound levels source = document other levels source := by
  have blanks := (skipBlanks_suffix source).length_le
  have value_eq : value bound levels (skipBlanks source) = value other levels (skipBlanks source) :=
    value_eq_of_enough (by omega) (by omega)
  rw [document, document, value_eq]

end Reader

/-- A text is read the same with any bound that is large enough. -/
theorem read_eq_of_enough {levels bound : Nat} {text : String}
    (enough : 2 * text.toList.length < bound) :
    read levels text = Reader.document bound levels text.toList :=
  Reader.document_eq_of_enough (by omega) enough

/-- A text that is not read shows why. -/
theorem shown_of_read_error {levels : Nat} {text : String} {error : ReadError}
    (failed : read levels text = .error error) : error.Shown levels text.toList := by
  have faithful := ((Reader.parts_faithful (2 * text.toList.length + 2)).1 levels _).of_suffix
    (Reader.skipBlanks_suffix text.toList)
  simp only [read, Reader.document] at failed
  split at failed
  · cases failed
    exact List.suffix_refl text.toList
  · rcases bind_eq_error_iff.mp failed with unread | ⟨⟨value, rest⟩, found, unended⟩
    · rw [unread] at faithful
      exact faithful
    · rw [found] at faithful
      simp only at unended
      split at unended
      · contradiction
      · cases unended
        exact (Reader.skipBlanks_suffix rest).trans faithful

/-- The place that is reported is the one where the rest begins. -/
theorem Violation.drop_place {text rest : List Char} (violation : Violation)
    (suffix : rest <:+ text) : text.drop (violation.within text rest).place = rest := by
  have place_eq : (violation.within text rest).place = text.length - rest.length := by
    simp [within]
  rw [place_eq]
  exact (List.suffix_iff_eq_drop.mp suffix).symm

example : (Violation.noValue.within "[1,\n x]".toList ['x', ']']).message =
    "Expecting value: line 2 column 2 (char 5)" := by decide +kernel

/-! ## Line ends -/

open Text (unifyLineEnds)

variable {text rest : List Char}

/-- A rest of a text with unified line ends is that of a rest of the text, if this is so behind
the first character. -/
theorem exists_of_suffix_cons {c : Char} {after : List Char} (cut : after <:+ text)
    (unified : unifyLineEnds text = c :: unifyLineEnds after)
    (ih : rest <:+ unifyLineEnds after → ∃ left, left <:+ after ∧ unifyLineEnds left = rest)
    (suffix : rest <:+ c :: unifyLineEnds after) :
    ∃ left, left <:+ text ∧ unifyLineEnds left = rest := by
  rcases List.suffix_cons_iff.mp suffix with rfl | inside
  · exact ⟨text, List.suffix_refl text, unified⟩
  · obtain ⟨left, inAfter, left_eq⟩ := ih inside
    exact ⟨left, inAfter.trans cut, left_eq⟩

theorem exists_of_suffix_unifyLineEnds (suffix : rest <:+ unifyLineEnds text) :
    ∃ left, left <:+ text ∧ unifyLineEnds left = rest := by
  fun_induction unifyLineEnds text with
  | case1 after ih =>
    exact exists_of_suffix_cons ⟨['\r', '\n'], rfl⟩ (by rw [unifyLineEnds]) ih suffix
  | case2 after alone ih =>
    have unified : unifyLineEnds ('\r' :: after) = '\n' :: unifyLineEnds after := by
      rw [unifyLineEnds]
      exact alone
    exact exists_of_suffix_cons (List.suffix_cons '\r' after) unified ih suffix
  | case3 c after notBoth notReturn ih =>
    have unified : unifyLineEnds (c :: after) = c :: unifyLineEnds after := by
      rw [unifyLineEnds]
      · exact notBoth
      · exact notReturn
    exact exists_of_suffix_cons (List.suffix_cons c after) unified ih suffix
  | case4 => exact ⟨[], List.suffix_refl [], (List.suffix_nil.mp suffix).symm⟩

theorem takeWhile_isDigit_unifyLineEnds (text : List Char) :
    (unifyLineEnds text).takeWhile Char.isDigit = text.takeWhile Char.isDigit := by
  fun_induction unifyLineEnds text with
  | case1 | case2 | case4 => rfl
  | case3 c after _ _ ih => rw [List.takeWhile_cons, List.takeWhile_cons, ih]

theorem countP_opensLevel_unifyLineEnds (text : List Char) :
    (unifyLineEnds text).countP opensLevel = text.countP opensLevel := by
  fun_induction unifyLineEnds text with
  | case1 after ih | case2 after _ ih => simpa [List.countP_cons, opensLevel] using ih
  | case3 c after _ _ ih => rw [List.countP_cons, List.countP_cons, ih]
  | case4 => rfl

/-- A run of digits is in a text as it was written. -/
theorem HasDigits.of_unifyLineEnds {count : Nat} (digits : HasDigits count (unifyLineEnds text)) :
    HasDigits count text := by
  obtain ⟨run, inText, length_eq⟩ := digits
  obtain ⟨left, suffix, rfl⟩ := exists_of_suffix_unifyLineEnds inText
  rw [takeWhile_isDigit_unifyLineEnds] at length_eq
  exact ⟨left, suffix, length_eq⟩

end ChipEight.Json
