import ChipEight.Proofs.CommandLine.Loading
import ChipEight.Proofs.Json.Reading
import ChipEight.Proofs.Keymap.Merging
import ChipEight.Proofs.Keymap.Reading

/-!
# Loading a keymap

A keymap that is loaded binds its names to keys of the keypad (`Keymap.onPad_load`).  One
that is not loaded is in most cases refused with a report: the file system refuses the
path, the file is not JSON, or it is JSON and no keymap.  The run then shows the report and
ends with exit code 1.

Four things are not refused but fail, and the run fails with them: a path that cannot be
passed on, bytes that are no text, a number with too many digits, and brackets nested too
deeply.  Each can be seen in the name or in the file (`Keymap.LoadError.Seen`).
-/

namespace ChipEight

namespace Keymap

variable {keymap : Keymap}

/-- A keymap file that is loaded binds its names to keys of the keypad. -/
theorem onPad_load {files : Files} {name : String} {levels : Nat}
    (loaded : load files name levels = .ok keymap) : keymap.OnPad := by
  obtain ⟨content, -, loaded⟩ := bind_eq_ok_iff.mp loaded
  obtain ⟨value, -, loaded⟩ := bind_eq_ok_iff.mp loaded
  obtain ⟨overrides, made, loaded⟩ := bind_eq_ok_iff.mp loaded
  cases loaded
  exact (onPad_ofJson (mapError_eq_ok_iff.mp made)).merge onPad_layout

end Keymap

/-! ## Failures -/

/-- A file that is not read is refused, or its name cannot be passed on. -/
theorem Files.read_error_cases {files : Files} {path : Path} {error : FileError}
    (failed : files.read path = .error error) :
    (∃ refusal, error = .refused refusal path) ∨ checkName path = .error error := by
  rcases bind_eq_error_iff.mp failed with spoiled | ⟨_, -, refused⟩
  · exact .inr spoiled
  · split at refused
    · cases refused
    all_goals
      cases refused
      exact .inl ⟨_, rfl⟩

namespace Keymap

/-- The report on a keymap that is refused.  Other failures have none. -/
def LoadError.report? : LoadError → Option String
  | .file (.refused refusal path) => some (FileError.refused refusal path).message
  | .malformed error => some error.message
  | _ => none

/-- Whether a file holds a text. -/
def TextIn (files : Files) (name text : String) : Prop :=
  ∃ content, files.read (Path.ofString name) = .ok content ∧
    Text.decodeUtf8 content = .ok text

/-- Whether the name of a file, or what is in it, shows a failure that is not refused. -/
def LoadError.Seen (files : Files) (name : String) (levels : Nat) : LoadError → Prop
  | .file (.refused ..) | .malformed _ => False
  | .file error => Files.checkName (Path.ofString name) = .error error
  | .encoding error => ∃ content, files.read (Path.ofString name) = .ok content ∧
      Text.decodeUtf8 content = .error error
  | .tooManyDigits count => ∃ text, TextIn files name text ∧
      Json.digitLimit < count ∧ Json.HasDigits count text.toList
  | .tooDeep _ => ∃ text, TextIn files name text ∧ levels < text.toList.countP Json.opensLevel

variable {files : Files} {name : String} {levels : Nat} {error : LoadError}

/-- A value that is not read from a file is refused, or its bytes show why it fails. -/
theorem seen_of_fileValue {content : Array UInt8}
    (opened : files.read (Path.ofString name) = .ok content)
    (failed : fileValue levels (Path.ofString name) content = .error error) :
    error.report?.isSome ∨ error.Seen files name levels := by
  rw [fileValue] at failed
  cases decoded : Text.decodeUtf8 content with
  | error spoiled =>
    rw [decoded] at failed
    cases failed
    exact .inr ⟨content, opened, decoded⟩
  | ok text =>
    have holds : TextIn files name text := ⟨content, opened, decoded⟩
    rw [decoded] at failed
    simp only at failed
    cases value_eq : Json.read levels (String.ofList (Text.unifyLineEnds text.toList)) with
    | ok value =>
      rw [value_eq] at failed
      cases failed
    | error cause =>
      have shown := Json.shown_of_read_error value_eq
      rw [String.toList_ofList] at shown
      rw [value_eq] at failed
      cases cause with
      | malformed violation rest =>
        cases failed
        exact .inl rfl
      | tooManyDigits count =>
        cases failed
        exact .inr ⟨text, holds, shown.1, shown.2.of_unifyLineEnds⟩
      | tooDeep object =>
        cases failed
        exact .inr ⟨text, holds, Json.countP_opensLevel_unifyLineEnds text.toList ▸ shown⟩

/-- A keymap file that is not loaded is refused with a report, or fails in one of four ways
that can be seen. -/
theorem seen_of_load (failed : load files name levels = .error error) :
    error.report?.isSome ∨ error.Seen files name levels := by
  rcases bind_eq_error_iff.mp failed with unopened | ⟨content, opened, failed⟩
  · obtain ⟨cause, unread, rfl⟩ := mapError_eq_error_iff.mp unopened
    rcases Files.read_error_cases unread with ⟨refusal, rfl⟩ | spoiled
    · exact .inl rfl
    · cases cause with
      | refused refusal path => exact .inl rfl
      | encoding | nullCharacter => exact .inr spoiled
  · rcases bind_eq_error_iff.mp failed with unread | ⟨value, -, failed⟩
    · exact seen_of_fileValue (mapError_eq_ok_iff.mp opened) unread
    · rcases bind_eq_error_iff.mp failed with unmade | ⟨overrides, -, failed⟩
      · obtain ⟨cause, -, rfl⟩ := mapError_eq_error_iff.mp unmade
        exact .inl rfl
      · cases failed

/-- Bytes that are no text are never refused. -/
theorem load_of_not_text {content : Array UInt8} {spoiled : Text.Utf8.DecodeError}
    (opened : files.read (Path.ofString name) = .ok content)
    (noText : Text.decodeUtf8 content = .error spoiled) :
    load files name levels = .error (.encoding spoiled) := by
  rw [load, opened]
  change (fileValue levels (Path.ofString name) content >>= _) = _
  rw [fileValue, noText]
  rfl

end Keymap

namespace CommandLine

/-! ## Runs -/

variable {files : Files} {options : Options}

/-- Whether a run failed because its keymap was neither loaded nor refused. -/
def Ending.ofKeymap : Ending → Bool
  | .failed (.keymap _) => true
  | _ => false

theorem ofKeymap_consoleOutcome (name : String) (error : ConsoleError) :
    (consoleOutcome name error).ending.ofKeymap = false := by
  rw [consoleOutcome.eq_def]
  split <;> rfl

theorem ofKeymap_list (console : Console) : (list console).ending.ofKeymap = false := by
  simp only [list]
  split <;> rfl

theorem ofKeymap_runHeadless (options : Options) (console : Console) :
    (runHeadless options console).ending.ofKeymap = false := by
  rw [runHeadless]
  split <;> rfl

theorem ofKeymap_ofTranscript (transcript : Monitor.Transcript) :
    (ofTranscript transcript).ending.ofKeymap = false := by
  simp only [ofTranscript]
  split <;> rfl

theorem ofKeymap_runShown (options : Options) (console : Console) :
    (runShown options console).ending.ofKeymap = false := by
  have finished (session : Console.Session) : (finish session).ending.ofKeymap = false := by
    simp only [finish, Outcome.after]
    split <;> rfl
  rw [runShown]
  split
  · exact finished _
  · exact finished _
  · rfl

theorem ofKeymap_runWindow (options : Options) (keymap : Keymap) (console : Console)
    (toolkit : Host.Toolkit) :
    (runWindow options keymap console toolkit).ending.ofKeymap = false := by
  have sounding (console : Console) :
      (runSounding options console).ending.ofKeymap = false := by
    simp only [runSounding]
    split
    · exact ofKeymap_runShown options _
    · rfl
    · exact ofKeymap_runShown options _
  rw [runWindow]
  split
  · rfl
  · rfl
  · split
    · rfl
    · exact sounding _

/-- The outcome of a run whose keymap is not loaded: its report and exit code 1, if it is
refused. -/
theorem keymapOutcome_eq (error : Keymap.LoadError) :
    keymapOutcome error =
      match error.report? with
      | some text => { errors := unlines [keymapReport text], ending := .exit 1 }
      | none => { ending := .failed (.keymap error) } := by
  cases error with
  | file cause => cases cause <;> rfl
  | malformed | encoding | tooManyDigits | tooDeep => rfl

theorem onPad_loadKeymap {keymap : Keymap} (loaded : loadKeymap options files = .ok keymap) :
    keymap.OnPad := by
  have unbound : Keymap.empty.OnPad := by simp [Keymap.OnPad, Keymap.empty]
  rw [loadKeymap] at loaded
  split at loaded
  · cases loaded
    exact unbound
  · split at loaded
    · cases loaded
      exact unbound
    · exact Keymap.onPad_load loaded

/-- A run whose keymap is loaded goes on, and does not fail for it later. -/
theorem ofKeymap_run_of_loaded {arguments : List String} {request : Request}
    (parsed : Request.ofArguments arguments = .ok request) {keymap : Keymap}
    (loaded : loadKeymap request.options files = .ok keymap) (input : String)
    (generator : RandomBytes.Generator) (toolkit : Host.Toolkit) :
    (run arguments files input generator toolkit).ending.ofKeymap = false := by
  simp only [run, plan, parsed, Request.plan, loaded]
  cases loadConsole request files generator with
  | error error => exact ofKeymap_consoleOutcome request.program error
  | ok console =>
    cases lists : request.options.disassemble with
    | true => exact ofKeymap_list console
    | false =>
      cases monitors : request.options.monitor with
      | true => exact ofKeymap_ofTranscript _
      | false =>
        cases headless : request.options.headless with
        | true => exact ofKeymap_runHeadless request.options console
        | false => exact ofKeymap_runWindow request.options keymap console toolkit

/-- A keymap that is loaded binds names to keys of the keypad.  One that is not loaded is
refused with a report, unless its name cannot be passed on, its bytes are no text, it holds
a number of more than 4300 digits, or it has more opening brackets than there are levels;
bytes that are no text are never refused.  A run whose keymap is refused shows the report
and ends with exit code 1, one whose keymap fails otherwise fails with it, and every other
run goes on and does not fail for its keymap. -/
theorem keymap_reported (files : Files) :
    (∀ (name : String) (levels : Nat) (keymap : Keymap),
      Keymap.load files name levels = .ok keymap → keymap.OnPad) ∧
    (∀ (name : String) (levels : Nat) (error : Keymap.LoadError),
      Keymap.load files name levels = .error error →
        error.report?.isSome ∨ error.Seen files name levels) ∧
    (∀ (name : String) (levels : Nat) (content : Array UInt8) (spoiled : Text.Utf8.DecodeError),
      files.read (Path.ofString name) = .ok content →
        Text.decodeUtf8 content = .error spoiled →
          Keymap.load files name levels = .error (.encoding spoiled)) ∧
    ∀ (arguments : List String) (request : Request) (input : String)
      (generator : RandomBytes.Generator) (toolkit : Host.Toolkit),
      Request.ofArguments arguments = .ok request →
        let outcome := run arguments files input generator toolkit
        match loadKeymap request.options files with
        | .ok keymap => keymap.OnPad ∧ outcome.ending.ofKeymap = false
        | .error error =>
          outcome = match error.report? with
            | some text => { errors := unlines [keymapReport text], ending := .exit 1 }
            | none => { ending := .failed (.keymap error) } := by
  refine ⟨fun _ _ _ => Keymap.onPad_load, fun _ _ _ => Keymap.seen_of_load,
    fun _ _ _ _ => Keymap.load_of_not_text, ?_⟩
  intro arguments request input generator toolkit parsed outcome
  cases mapped : loadKeymap request.options files with
  | ok keymap =>
    exact ⟨onPad_loadKeymap mapped, ofKeymap_run_of_loaded parsed mapped input generator toolkit⟩
  | error error =>
    simp only [outcome, run, plan, parsed, Request.plan, mapped]
    exact keymapOutcome_eq error

/-- A keymap with one binding, a JSON value that is no keymap, and a byte that is no text. -/
def keymapFiles : Files :=
  .ofList [("one.json", .file "[\x7b\"name\":\"P\",\"key\":5\x7d]".toUTF8.data),
    ("five.json", .file "5".toUTF8.data), ("raw.json", .file #[0xFF])]

theorem read_one :
    keymapFiles.read (Path.ofString "one.json") =
      .ok "[\x7b\"name\":\"P\",\"key\":5\x7d]".toUTF8.data :=
  Files.read_eq_ok (by decide +kernel) (by decide +kernel) (by decide +kernel)

theorem read_five : keymapFiles.read (Path.ofString "five.json") = .ok "5".toUTF8.data :=
  Files.read_eq_ok (by decide +kernel) (by decide +kernel) (by decide +kernel)

theorem read_raw : keymapFiles.read (Path.ofString "raw.json") = .ok #[0xFF] :=
  Files.read_eq_ok (by decide +kernel) (by decide +kernel) (by decide +kernel)

theorem load_five :
    Keymap.load keymapFiles "five.json" keymapLevels = .error (.malformed .notList) := by
  rw [Keymap.load, read_five]
  decide +kernel

theorem decode_raw : Text.decodeUtf8 #[0xFF] = .error ⟨0xFF, 0, 1, .startByte⟩ := by
  decide +kernel

/-- The first is loaded, the second refused with a report, and the third neither. -/
theorem keymapFiles_reported :
    (Keymap.merge ⟨[("p", 5)]⟩ .layout).OnPad ∧
      ((Keymap.LoadError.malformed .notList).report?.isSome ∨
        (Keymap.LoadError.malformed .notList).Seen keymapFiles "five.json" keymapLevels) ∧
      Keymap.load keymapFiles "raw.json" keymapLevels =
        .error (.encoding ⟨0xFF, 0, 1, .startByte⟩) ∧
      run ["g.ch8", "--keymap", "five.json"] keymapFiles "" (fun _ => .cycle #[]) {} =
        { errors := "Keymap error: Keymap must be a JSON list of entries\n"
          ending := .exit 1 } := by
  have loaded : Keymap.load keymapFiles "one.json" keymapLevels =
      .ok (Keymap.merge ⟨[("p", 5)]⟩ .layout) := by
    rw [Keymap.load, read_one]
    decide +kernel
  have parsed : Request.ofArguments ["g.ch8", "--keymap", "five.json"] =
      .ok { program := "g.ch8", options := { keymap := some "five.json" } } := rfl
  have mapped : loadKeymap { keymap := some "five.json" } keymapFiles =
      .error (.malformed .notList) := load_five
  obtain ⟨onPad, seen, notText, runs⟩ := keymap_reported keymapFiles
  have ran := runs _ _ "" (fun _ => .cycle #[]) {} parsed
  simp only [mapped] at ran
  exact ⟨onPad _ _ _ loaded, seen _ _ _ load_five, notText _ _ _ _ read_raw decode_raw,
    ran.trans rfl⟩

/-- A run whose keymap is a byte that is no text reports nothing and fails. -/
theorem rawKeymap_unreported :
    Keymap.load keymapFiles "raw.json" keymapLevels =
        .error (.encoding ⟨0xFF, 0, 1, .startByte⟩) ∧
      run ["g.ch8", "--keymap", "raw.json"] keymapFiles "" (fun _ => .cycle #[]) {} =
        { ending := .failed (.keymap (.encoding ⟨0xFF, 0, 1, .startByte⟩)) } := by
  have failed : Keymap.load keymapFiles "raw.json" keymapLevels =
      .error (.encoding ⟨0xFF, 0, 1, .startByte⟩) :=
    Keymap.load_of_not_text read_raw decode_raw
  have parsed : Request.ofArguments ["g.ch8", "--keymap", "raw.json"] =
      .ok { program := "g.ch8", options := { keymap := some "raw.json" } } := rfl
  have mapped : loadKeymap { keymap := some "raw.json" } keymapFiles =
      .error (.encoding ⟨0xFF, 0, 1, .startByte⟩) := failed
  refine ⟨failed, ?_⟩
  simp only [run, plan, parsed, Request.plan, mapped]
  rfl

end CommandLine

end ChipEight
