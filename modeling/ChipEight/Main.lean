import ChipEight.CommandLine.Run

/-!
# The program

The outermost layer: it looks up the files that the command line names, draws a
seed, carries out the run and shows what it leaves.  Lines to the monitor are
answered as they come.  There is no toolkit, so a window cannot be opened.
-/

namespace ChipEight.Main

/-- The number by which the system says that a name denotes a directory. -/
def directoryCode : UInt32 := 21

/-- What lies under a name, if anything does. -/
def lookUp (name : String) : IO (List (String × FileNode)) := do
  try
    let content ← IO.FS.readBinFile (Text.showString name)
    return [(name, .file content.data)]
  catch
    | .permissionDenied .. => return [(name, .locked)]
    | .inappropriateType _ code _ =>
      if code == directoryCode then return [(name, .directory)] else return []
    | _ => return []

/-- What lies under the names of a command line. -/
def lookUpAll (arguments : List String) : IO Files := do
  match CommandLine.Request.ofArguments arguments with
  | .error _ => return .empty
  | .ok request =>
    let names := request.program :: request.options.keymap.toList
    return .ofList (← names.mapM lookUp).flatten

/-- A seed that is different each time. -/
def drawSeed : IO Int := do
  let bytes ← IO.getRandomBytes 8
  return bytes.data.foldl (fun seed byte => seed * 256 + byte.toNat) 0

/-- How many random bytes there are before they repeat. -/
def randomPeriod : Nat := 65536

/-- The random bytes for a seed, from the generator of the standard library. -/
def randomBytes (seed : Int) : RandomBytes :=
  let drawn := (List.range randomPeriod).foldl
    (fun (bytes, state) _ =>
      let (byte, state) := randNat state 0 255
      (bytes.push (UInt8.ofNat byte), state))
    ((#[] : Array UInt8), mkStdGen seed.natAbs)
  .cycle drawn.1

/-- Show what a run leaves. -/
def present (outcome : CommandLine.Outcome) : IO UInt32 := do
  IO.print (Text.showString outcome.output)
  IO.eprint (Text.showString outcome.errors)
  match outcome.ending with
  | .exit code => return UInt32.ofNat code
  | .failed _ =>
    IO.eprintln "The run ended with a failure."
    return 1

/-- Answer lines to the monitor as they come. -/
partial def converse (input output : IO.FS.Stream) (monitor : Monitor) : IO UInt32 := do
  output.putStr Monitor.prompt
  output.flush
  let line ← input.getLine
  let text := if line.isEmpty then "EOF" else line
  let (monitor, shown, reported, ending) := monitor.respond (Text.holdString text)
  output.putStr (Text.showString shown)
  IO.eprint (Text.showString reported)
  match ending with
  | .goesOn => converse input output monitor
  | ending => present (CommandLine.ofTranscript ⟨"", "", ending⟩)

/-- Carry out a command line. -/
def start (arguments : List String) : IO UInt32 := do
  let arguments := arguments.map Text.holdString
  let files ← lookUpAll arguments
  let otherwise ← drawSeed
  let generator := fun seed : Option Int => randomBytes (seed.getD otherwise)
  match CommandLine.plan arguments files generator .absent with
  | .over outcome => present outcome
  | .monitor monitor output errors =>
    IO.print (Text.showString output)
    IO.eprint (Text.showString errors)
    converse (← IO.getStdin) (← IO.getStdout) monitor

end ChipEight.Main

/-- Run the program. -/
def main (arguments : List String) : IO UInt32 :=
  ChipEight.Main.start arguments
