import ChipEight.Monitor.Help
import ChipEight.Monitor.Inspection

/-!
# Monitor sessions

A session shows a prompt, takes a line and carries it out, until a line leaves
the monitor.  The end of the input is a line of its own.  What the console
reports while a line is carried out appears before what the monitor shows.
-/

namespace ChipEight.Monitor

/-- What the monitor shows when it is left. -/
def farewell : String := "Goodbye."

/-- Carry out a command. -/
def perform (monitor : Monitor) (verb : Verb) (argument : String) :
    Except ArgumentError Outcome :=
  match verb with
  | .step => monitor.step argument
  | .run => monitor.run argument
  | .reset => .ok { monitor := { monitor with console := monitor.console.reset } }
  | .breakpoint => monitor.breakpoint argument
  | .removeBreakpoint => monitor.removeBreakpoint argument
  | .registers => .ok { monitor, lines := [monitor.machine.dump] }
  | .status => .ok { monitor, lines := [monitor.console.status] }
  | .setRegister => monitor.setRegister argument
  | .dump => monitor.dump argument
  | .setMemory => monitor.setMemory argument
  | .disassemble => monitor.disassemble argument
  | .screen => .ok { monitor, lines := [monitor.machine.screen.print] }
  | .key => monitor.key argument
  | .tick => monitor.tick argument
  | .speed => monitor.speed argument
  | .debug => .ok monitor.debug
  | .quit => .ok { monitor, lines := [farewell], ending := .stops }
  | .endOfInput => .ok { monitor, lines := ["", farewell], ending := .stops }
  | .help => .ok { monitor, lines := help argument }

/-- The line for a line that begins with no command. -/
def unknownLine (text : String) : String :=
  "Unknown command: " ++ Text.quoted (String.ofList (Text.firstWord text.toList)) ++
    ". Type 'help' for available commands."

/-- Carry out a line.  Refused arguments are reported and change nothing else. -/
def carryOut (monitor : Monitor) (line : String) : Outcome :=
  match Line.parse line with
  | .empty => { monitor }
  | .unknown text => { monitor, lines := [unknownLine text] }
  | .command verb argument =>
    match monitor.perform verb argument with
    | .ok outcome => outcome
    | .error error => monitor.refuse error

/-- What is shown when a session begins. -/
def introduction : String :=
  "\nCHIP-8 Monitor.  Type 'help' for commands.  'quit' to exit.\n\n"

/-- What is shown before a line is taken. -/
def prompt : String := "C8> "

/-- A line that breaks off the session. -/
def interruptLine : String := "\x03"

/-- What a session has shown, and how it ended. -/
structure Transcript where
  /-- The output. -/
  output : String
  /-- The error stream. -/
  errors : String
  /-- How the last line left the monitor. -/
  ending : Ending

/-- Carry out a line and take what it shows. -/
def respond (monitor : Monitor) (line : String) : Monitor × String × String × Ending :=
  let outcome := monitor.carryOut line
  let (notices, console) := outcome.monitor.console.takeNotices
  ({ outcome.monitor with console := console },
    outputOf notices ++ unlines outcome.lines, errorsOf notices, outcome.ending)

/-- A session with the lines of an input. -/
def session (monitor : Monitor) (output errors : String) : List String → Transcript
  | [] =>
    let (_, shown, reported, ending) := monitor.respond "EOF"
    ⟨output ++ prompt ++ shown, errors ++ reported, ending⟩
  | line :: rest =>
    if line == interruptLine then
      ⟨output ++ prompt ++ "\nInterrupted. Goodbye.\n", errors, .stops⟩
    else
      match monitor.respond line with
      | (monitor, shown, reported, .goesOn) =>
        session monitor (output ++ prompt ++ shown) (errors ++ reported) rest
      | (_, shown, reported, ending) => ⟨output ++ prompt ++ shown, errors ++ reported, ending⟩

/-- The lines of an input; the last one need not be ended. -/
def inputLines (input : String) : List String :=
  match (input.splitOn "\n").reverse with
  | "" :: rest => rest.reverse
  | lines => lines.reverse

end ChipEight.Monitor
