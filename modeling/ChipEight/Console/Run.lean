import ChipEight.Console.Basic

/-!
# Sessions

A session runs frames one after the other.  Before each frame the display is
polled, the commands are carried out in order, and the display tells how long
the frame takes.  The session ends with its last frame, with a command to quit,
which takes effect before anything else of its poll, or with a failure of the
window.
-/

namespace ChipEight.Console

/-- Poll the display: the commands, while the keys go to the machine. -/
def poll (console : Console) : Console × Except Host.WindowError (List Command) :=
  match console.display with
  | none => (console, .ok [])
  | some (.recorder recorder) =>
    let (recorder, commands, keypad) := recorder.poll
    let keypad := keypad.getD console.machine.keypad
    ({ console with
      display := some (.recorder recorder), machine := { console.machine with keypad := keypad } },
      .ok commands)
  | some (.window window) =>
    let (window, toolkit, outcome) := window.poll console.toolkit
    let polled := { console with display := some (.window window), toolkit := toolkit }
    match outcome with
    | .ok (keypad, commands) =>
      ({ polled with machine := { console.machine with keypad := keypad } }, .ok commands)
    | .error error => (polled, .error error)

/-- How long the frame takes. -/
def tick (console : Console) : Console × Except Host.WindowError Float :=
  match console.display with
  | none => (console, .ok frameTime)
  | some (.recorder recorder) => (console, .ok recorder.elapsedTime)
  | some (.window window) =>
    let (window, toolkit, outcome) := window.tick console.toolkit frameRate
    ({ console with display := some (.window window), toolkit := toolkit }, outcome)

/-- Carry out commands in order, up to the first one to quit.  The flag is `false`
if there is one. -/
def handleAll (console : Console) : List Command → Console × Bool
  | [] => (console, true)
  | command :: rest =>
    match console.handle command with
    | (console, true) => console.handleAll rest
    | (console, false) => (console, false)

/-- What a poll leads to. -/
inductive Turn where
  /-- A frame that takes some time. -/
  | frame (elapsed : Float)
  /-- The end of the session. -/
  | quit
  /-- A failure of the window. -/
  | failed (error : Host.WindowError)

/-- Everything that precedes a frame. -/
def turn (console : Console) : Console × Turn :=
  match console.poll with
  | (console, .error error) => (console, .failed error)
  | (console, .ok commands) =>
    match console.handleAll commands with
    | (console, false) => (console, .quit)
    | (console, true) =>
      match console.tick with
      | (console, .error error) => (console, .failed error)
      | (console, .ok elapsed) => (console, .frame elapsed)

/-- How a session ended. -/
inductive Ending where
  /-- With its last frame. -/
  | finished
  /-- With a command. -/
  | quit
  /-- With a failure of the window. -/
  | failed (error : Host.WindowError)
  deriving DecidableEq, Repr

/-- What a session leaves. -/
structure Session where
  /-- The console. -/
  console : Console
  /-- The frames run. -/
  frames : Nat
  /-- How it ended. -/
  ending : Ending

/-- Run up to `budget` frames after `frames` that have been run already. -/
def runFrom (console : Console) (frames : Nat) : Nat → Session
  | 0 => ⟨console, frames, .finished⟩
  | budget + 1 =>
    match console.turn with
    | (console, .frame elapsed) => (console.runFrame elapsed).1.runFrom (frames + 1) budget
    | (console, .quit) => ⟨console, frames, .quit⟩
    | (console, .failed error) => ⟨console, frames, .failed error⟩

/-- Run a number of frames; a negative number stands for none. -/
def run (console : Console) (budget : Int) : Session :=
  console.runFrom 0 budget.toNat

/-- How many polls can still bring anything: those of the script, and the one
after its end. -/
def remainingPolls (console : Console) : Nat :=
  match console.display with
  | none => 0
  | some (.recorder recorder) => recorder.script.length + 1
  | some (.window _) => console.toolkit.script.length + 1

/-- Run until the script ends the session. -/
def runScript (console : Console) : Session :=
  console.runFrom 0 console.remainingPolls

end ChipEight.Console
