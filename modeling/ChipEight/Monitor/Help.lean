import ChipEight.Monitor.Line

/-!
# Help of the monitor

The explanation of each command, and the list of all command words.
-/

namespace ChipEight.Monitor

/-- The explanation of a command; the end of the input has none. -/
def Verb.explanation? : Verb → Option String
  | .step => some "Step N instructions: step [count]"
  | .run => some ("Run frames until breakpoint/fault/key wait: run [max_frames]\n" ++
      "        Each frame is <speed> instructions plus one 1/60 s timer tick.")
  | .reset => some "Power-on reset (ROM stays loaded)."
  | .breakpoint => some "Set breakpoint: bp <address>   (no argument lists them)"
  | .removeBreakpoint => some "Delete breakpoint: bpd <address|all>"
  | .registers => some "Show registers, index, PC, stack and timers."
  | .status => some "Show full machine status."
  | .setRegister => some "Set register: setreg <V0-VF|i|pc|dt|st> <value>"
  | .dump => some ("Hex dump memory: dump <address> [count]\n" ++
      "        Count defaults to 64 bytes.")
  | .setMemory => some "Set memory bytes: setmem <address> <byte> [byte] ..."
  | .disassemble => some ("Disassemble: disasm [address] [count]\n" ++
      "        Defaults to current PC, 16 instructions.")
  | .screen => some "Print the framebuffer as text."
  | .key => some "Keypad: key press <n> | key release <n> | key clear | key"
  | .tick => some "Advance the timers by N frames of 1/60 s: tick [frames]"
  | .speed => some "Show or set instructions per frame: speed [n]"
  | .debug => some "Toggle per-instruction trace."
  | .quit => some "Exit the monitor."
  | .endOfInput => none
  | .help => some "List available commands with \"help\" or detailed help with \"help cmd\"."

/-- The list of all command words. -/
def helpLines : List String := [
  "",
  "Documented commands (type help <topic>):",
  "========================================",
  "bp   c      disasm  exit  key  quit  reset  s       setmem  speed   step",
  "bpd  debug  dump    help  q    regs  run    screen  setreg  status  tick",
  "",
  "Undocumented commands:",
  "======================",
  "EOF",
  ""]

/-- The help on a topic, or the list of all command words. -/
def help (topic : String) : List String :=
  if topic.isEmpty then helpLines
  else match (Verb.ofWord? topic).bind Verb.explanation? with
    | some text => [text]
    | none => ["*** No help on " ++ topic]

end ChipEight.Monitor
