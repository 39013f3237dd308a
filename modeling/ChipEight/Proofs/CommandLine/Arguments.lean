import ChipEight.CommandLine.Arguments
import ChipEight.Proofs.Monitor.Operations
import ChipEight.Proofs.Text.Integer

/-!
# Command lines without a window

A program can be run without a window at any speed that can be written, for any number of
frames that can be written, with any preset of the compatibility switches: the command
line that says so is read as such a request (`CommandLine.ofArguments_headless`).
-/

namespace ChipEight.CommandLine

open ChipEight.Text

namespace Argument

/-- What does not begin with a dash is a word. -/
theorem classify_of_bare {text : String} (bare : text.toList.head? ≠ some '-') :
    classify text = .ok (.word text) := by
  rw [classify]
  split
  · rename_i text_eq
    rw [text_eq] at bare
    exact absurd rfl bare
  · rfl

/-- No option is named by a dash and a digit. -/
theorem ofName?_of_isDigit {first : Char} (digit : first.isDigit) (rest : List Char) :
    Setting.ofName? ('-' :: first :: rest) = none := by
  have lettered : Setting.names.all fun entry => !entry.1.toList[1]?.any Char.isDigit := by decide
  refine List.lookup_eq_none_iff.mpr fun entry member => bne_iff_ne.mpr fun same => ?_
  have second := List.all_eq_true.mp lettered entry member
  rw [← same, String.toList_ofList] at second
  simp [digit] at second

theorem isDigit_of_isDigit {c : Char} (digit : c.isDigit) : isDigit c := by
  have range := Integer.toNat_of_isDigit digit
  have found : digitZeros.find? (fun first => first ≤ c.toNat && c.toNat < first + 10) = some 48 :=
    List.find?_cons_of_pos (by simp; omega)
  rw [isDigit, decimalDigit?, found]
  rfl

/-- A dash and digits are a negative number. -/
theorem isNegativeNumber_of_digits {digits : List Char} (nonempty : digits ≠ [])
    (allDigits : ∀ c ∈ digits, c.isDigit) : isNegativeNumber ('-' :: digits) := by
  have noNewline : digits.getLast? ≠ some '\n' := fun last =>
    Integer.ne_of_isDigit (allDigits _ (List.mem_of_getLast? last)) (by decide) rfl
  have none_left : digits.dropWhile isDigit = [] :=
    List.dropWhile_eq_nil_iff.mpr fun c member => isDigit_of_isDigit (allDigits c member)
  simp [isNegativeNumber, noNewline, none_left, nonempty]

/-- A negative number is a word. -/
theorem classify_of_negative {text : String} {first : Char} {rest : List Char}
    (text_eq : text.toList = '-' :: first :: rest) (allDigits : ∀ c ∈ first :: rest, c.isDigit) :
    classify text = .ok (.word text) := by
  have digit : first.isDigit := allDigits first (.head rest)
  have noEquals : ('-' :: first :: rest).dropWhile (· != '=') = [] := by
    refine List.dropWhile_eq_nil_iff.mpr fun c member => bne_iff_ne.mpr ?_
    rcases List.mem_cons.mp member with rfl | member
    · decide
    · exact Integer.ne_of_isDigit (allDigits c member) (by decide)
  have unnamed : inFull? ('-' :: first :: rest) = none := by
    simp [inFull?, ofName?_of_isDigit digit, splitAtEquals?, noEquals]
  have unlike : candidates ('-' :: first :: rest) = [] := by
    rw [candidates.eq_2]
    · simp [ofName?_of_isDigit digit]
    · rintro rfl
      contradiction
  have negative : isNegativeNumber ('-' :: first :: rest) :=
    isNegativeNumber_of_digits (List.cons_ne_nil _ _) allDigits
  rw [classify, text_eq]
  simp only [unnamed, unlike, negative, Bool.true_or, if_true]

/-- Written integers are words, negative ones too. -/
theorem classify_toString (number : Int) :
    classify (toString number) = .ok (.word (toString number)) := by
  obtain ⟨first, rest, digits_eq⟩ :=
    List.exists_cons_of_ne_nil (@Nat.toDigits_ne_nil number.natAbs 10)
  have allDigits : ∀ c ∈ first :: rest, c.isDigit := fun c member =>
    Nat.isDigit_of_mem_toDigits (by decide) (by decide) (digits_eq ▸ member)
  have text_eq := toList_toString number
  rw [digits_eq] at text_eq
  by_cases negative : number < 0
  · rw [if_pos negative] at text_eq
    exact classify_of_negative text_eq allDigits
  · rw [if_neg negative] at text_eq
    refine classify_of_bare ?_
    rw [text_eq, List.head?_cons]
    exact fun same =>
      Integer.ne_of_isDigit (allDigits first (.head rest)) (by decide) (Option.some.inj same)

/-- Two dashes are not classified on their own. -/
theorem ne_separator_of_classify {text : String} {argument : Argument}
    (classified : classify text = .ok argument) : text ≠ "--" := by
  rintro rfl
  have several : classify "--" = .error (.ambiguous "--" (Setting.names.filterMap fun entry =>
    if entry.1.toList.take 2 = ['-', '-'] then some entry.1 else none)) := by decide +kernel
  rw [several] at classified
  contradiction

theorem classifyAll_cons {text : String} {argument : Argument} {rest : List String}
    {arguments : List Argument} (classified : classify text = .ok argument)
    (later : classifyAll rest = .ok arguments) :
    classifyAll (text :: rest) = .ok (argument :: arguments) := by
  rw [classifyAll, beq_false_of_ne (ne_separator_of_classify classified), classified, later]
  rfl

end Argument

/-- What a parameter reads of a written integer. -/
theorem integer_of_written {number : Int} {text : String} (parameter : Parameter)
    (written : writeInteger number = .ok text) : Options.integer parameter text = .ok number := by
  unfold Options.integer
  rw [readInteger_writeInteger written]

theorem classify_of_written {number : Int} {text : String}
    (written : writeInteger number = .ok text) : Argument.classify text = .ok (.word text) := by
  rw [writeInteger] at written
  split at written
  · cases written
    exact Argument.classify_toString number
  · contradiction

theorem ne_separator_of_written {number : Int} {text : String}
    (written : writeInteger number = .ok text) : text ≠ "--" :=
  Argument.ne_separator_of_classify (classify_of_written written)

/-- The names of presets do not begin with a dash. -/
theorem bare_of_preset {preset : String} {compatibility : Compatibility}
    (named : Compatibility.preset? preset = some compatibility) :
    preset.toList.head? ≠ some '-' := by
  have bare : ∀ entry ∈ Compatibility.presets, entry.1.toList.head? ≠ some '-' := by decide
  obtain ⟨before, after, presets_eq, -⟩ := List.lookup_eq_some_iff.mp named
  exact bare (preset, compatibility) (by rw [presets_eq]; simp)

/-- The arguments of a run without a window. -/
def headlessArguments (program speed frames preset : String) : List String :=
  [program, "--headless", "--speed", speed, "--frames", frames, "--quirks", preset]

/-- What they are classified as. -/
def headlessClassified (program speed frames preset : String) : List Argument :=
  [.word program, .setting (.flag .headless) false none,
    .setting (.parameter .speed) false none, .word speed,
    .setting (.parameter .frames) false none, .word frames,
    .setting (.parameter .compatibility) false none, .word preset]

/-- The options they give. -/
def headlessOptions (speed frames : Int) (compatibility : Compatibility) : Options where
  headless := true
  speed := .given speed
  frames := .given (some frames)
  compatibility := .given compatibility

variable {program preset : String} {speed frames : Int} {speedText framesText : String}
  {compatibility : Compatibility}

theorem classifyAll_headlessArguments
    (programWord : Argument.classify program = .ok (.word program))
    (speedWord : Argument.classify speedText = .ok (.word speedText))
    (framesWord : Argument.classify framesText = .ok (.word framesText))
    (presetWord : Argument.classify preset = .ok (.word preset)) :
    Argument.classifyAll (headlessArguments program speedText framesText preset) =
      .ok (headlessClassified program speedText framesText preset) := by
  have flag : Argument.classify "--headless" = .ok (.setting (.flag .headless) false none) := by
    decide +kernel
  have speedName : Argument.classify "--speed" = .ok (.setting (.parameter .speed) false none) := by
    decide +kernel
  have framesName : Argument.classify "--frames" =
      .ok (.setting (.parameter .frames) false none) := by
    decide +kernel
  have presetName : Argument.classify "--quirks" =
      .ok (.setting (.parameter .compatibility) false none) := by
    decide +kernel
  exact Argument.classifyAll_cons programWord <| Argument.classifyAll_cons flag <|
    Argument.classifyAll_cons speedName <| Argument.classifyAll_cons speedWord <|
    Argument.classifyAll_cons framesName <| Argument.classifyAll_cons framesWord <|
    Argument.classifyAll_cons presetName <| Argument.classifyAll_cons presetWord rfl

theorem readAll_headlessClassified (speedWritten : writeInteger speed = .ok speedText)
    (framesWritten : writeInteger frames = .ok framesText)
    (named : Compatibility.preset? preset = some compatibility) :
    Reading.readAll {} (headlessClassified program speedText framesText preset) =
      .ok { program := some program, options := headlessOptions speed frames compatibility } := by
  have speedRead := integer_of_written .speed speedWritten
  have framesRead := integer_of_written .frames framesWritten
  have speedKept := beq_false_of_ne (ne_separator_of_written speedWritten)
  have framesKept := beq_false_of_ne (ne_separator_of_written framesWritten)
  have presetKept := beq_false_of_ne
    (Argument.ne_separator_of_classify (Argument.classify_of_bare (bare_of_preset named)))
  simp only [headlessClassified, Reading.readAll, Group.ofSetting, Group.single, Reading.give,
    Reading.raiseAll, Options.raise, Options.assign, Options.fill, speedRead, framesRead, speedKept,
    framesKept, presetKept, named]
  rfl

/-- Options with the colours of every day and a positive speed make sense. -/
theorem check_eq_ok {options : Options} (lit : options.lit = .given Host.defaultLit)
    (dark : options.dark = .given Host.defaultDark) (given : options.speed = .given speed)
    (positive : 1 ≤ speed) : options.check = .ok () := by
  have colours : Options.checkColour (.given Host.defaultLit) = .ok () ∧
      Options.checkColour (.given Host.defaultDark) = .ok () := by decide +kernel
  refine bind_eq_ok_iff.mpr ⟨(), lit ▸ colours.1, ?_⟩
  refine bind_eq_ok_iff.mpr ⟨(), dark ▸ colours.2, ?_⟩
  refine bind_eq_ok_iff.mpr ⟨speed, by rw [given]; rfl, ?_⟩
  exact if_neg (by omega)

/-- The command line of a run without a window is read as such a request. -/
theorem ofArguments_headless (bare : program.toList.head? ≠ some '-')
    (speedWritten : writeInteger speed = .ok speedText) (positive : 1 ≤ speed)
    (framesWritten : writeInteger frames = .ok framesText)
    (named : Compatibility.preset? preset = some compatibility) :
    Request.ofArguments (headlessArguments program speedText framesText preset) =
      .ok { program, options := headlessOptions speed frames compatibility } := by
  have classified : Argument.classifyAll (headlessArguments program speedText framesText preset) =
      .ok (headlessClassified program speedText framesText preset) :=
    classifyAll_headlessArguments (Argument.classify_of_bare bare)
      (classify_of_written speedWritten) (classify_of_written framesWritten)
      (Argument.classify_of_bare (bare_of_preset named))
  refine bind_eq_ok_iff.mpr ⟨_, congrArg _ classified, ?_⟩
  refine bind_eq_ok_iff.mpr ⟨_, readAll_headlessClassified speedWritten framesWritten named, ?_⟩
  exact bind_eq_ok_iff.mpr ⟨(), check_eq_ok rfl rfl rfl positive, rfl⟩

end ChipEight.CommandLine
