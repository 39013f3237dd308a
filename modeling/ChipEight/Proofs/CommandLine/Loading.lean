import ChipEight.CommandLine.Run
import ChipEight.Proofs.Console.Calls
import ChipEight.Proofs.Except
import ChipEight.Proofs.Monitor.Operations

/-!
# Loading from the command line

Every run but one that fails early begins with a fresh console, into which it loads the
program of its command line (`CommandLine.loadConsole_eq`).
-/

namespace ChipEight

/-- A file is found under a name that can be passed on. -/
theorem Files.read_eq_ok {files : Files} {path : Path} {content : Array UInt8}
    (encoded : Text.Utf8.encodeError? 0 (Text.codePoints path.text.toList) = none)
    (noNull : '\x00' ∉ path.text.toList) (found : files.find path = .ok (.file content)) :
    files.read path = .ok content := by
  have passed : path.text.contains '\x00' = false := by simpa using noNull
  rw [read, checkName, encoded, passed, found]
  rfl

namespace CommandLine

variable {files : Files} {program : Array UInt8} {speed : Int} {compatibility : Compatibility}

theorem createConsole_eq {options : Options} (paced : options.speed = .given speed)
    (switches : options.compatibility = .given compatibility) (seeded : options.seed ≠ .blank)
    (generator : RandomBytes.Generator) :
    ∃ source, createConsole options generator =
      .ok (Console.create speed compatibility source options.debug) := by
  rw [createConsole, randomBytes, paced, switches]
  cases given : options.seed with
  | blank => exact absurd given seeded
  | given seed => cases seed <;> exact ⟨_, rfl⟩

/-- A console that has loaded a program from a file. -/
def withProgram (console : Console) (name : String) (program : Array UInt8) : Console :=
  { console with
    machine := console.machine.act (.load program)
    programName := some (Path.ofString name).name }.note
      (.loaded (Path.ofString name) program.size)

theorem withProgram_machine (console : Console) (name : String) (program : Array UInt8) :
    (withProgram console name program).machine = console.machine.act (.load program) := rfl

/-- A console loads a file with a program that there is room for. -/
theorem loadFile_eq (console : Console) {name : String}
    (read : files.read (Path.ofString name) = .ok program) (small : program.size ≤ programRoom) :
    console.loadFile files name = .ok program.size (withProgram console name program) := by
  rw [console.loadFile_of_read read, console.loadProgram_of_room small]
  rfl

/-- A run loads its program into a fresh console. -/
theorem loadConsole_eq {request : Request} (paced : request.options.speed = .given speed)
    (switches : request.options.compatibility = .given compatibility)
    (seeded : request.options.seed ≠ .blank)
    (read : files.read (Path.ofString request.program) = .ok program)
    (small : program.size ≤ programRoom) (generator : RandomBytes.Generator) :
    ∃ source, loadConsole request files generator =
      .ok (withProgram (Console.create speed compatibility source request.options.debug)
        request.program program) := by
  obtain ⟨source, created⟩ := createConsole_eq paced switches seeded generator
  refine ⟨source, ?_⟩
  refine bind_eq_ok_iff.mpr ⟨_, congrArg _ created, ?_⟩
  rw [loadFile_eq _ read small]
  rfl

end CommandLine

end ChipEight
