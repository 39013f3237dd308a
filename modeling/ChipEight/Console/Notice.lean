import ChipEight.Files
import ChipEight.Machine.Report

/-!
# Notices

What a console has to say while it runs.  A notice is kept as data; its line is
derived from it, as is the stream on which it appears: reports of the machine go
to the error stream and all else to the output.
-/

namespace ChipEight

/-- How many frames a second has. -/
abbrev frameRate : Nat := 60

/-- Something a console reports. -/
inductive Notice where
  /-- A fetched or an unknown word. -/
  | machine (event : Event)
  /-- An instruction did not execute. -/
  | fault (pc : Int) (cause : Fault)
  /-- How many frames were run in the last second. -/
  | frames (count rate : Nat) (paused : Bool)
  /-- A new speed. -/
  | speed (value : Nat)
  /-- The machine is reset. -/
  | resetting
  /-- A program was loaded. -/
  | loaded (path : Path) (size : Nat)
  deriving DecidableEq, Repr

namespace Notice

/-- A speed in instructions a frame and a second. -/
def speedText (speed : Nat) : String :=
  s!"Speed: {speed} ({speed * frameRate} Hz)"

/-- The line of a notice on the output, if it appears there. -/
def outputLine? : Notice → Option String
  | .machine _ => none
  | .fault pc cause =>
    some ("[chip8] fault at PC=" ++ Text.Hex.address pc ++ ": " ++ cause.message ++
      " (paused; reset to continue)")
  | .frames count rate paused =>
    some (s!"FPS: {count} | {rate}Hz ({rate * frameRate}) | " ++
      (if paused then "Paused" else "Running"))
  | .speed value => some (speedText value)
  | .resetting => some "Resetting CPU"
  | .loaded path size => some ("Loaded ROM: " ++ path.text ++ s!" ({size} bytes)")

/-- The line of a notice on the error stream, if it appears there. -/
def errorLine? : Notice → Option String
  | .machine event => event.line?
  | _ => none

end Notice

/-- Lines as text, each with its end. -/
def unlines (lines : List String) : String :=
  String.join (lines.map (· ++ "\n"))

/-- What notices put on the output. -/
def outputOf (notices : List Notice) : String :=
  unlines (notices.filterMap Notice.outputLine?)

/-- What notices put on the error stream. -/
def errorsOf (notices : List Notice) : String :=
  unlines (notices.filterMap Notice.errorLine?)

end ChipEight
