import ChipEight.CommandLine.Options

/-!
# Help on the command line

The explanation that is shown instead of a run.
-/

namespace ChipEight.CommandLine

/-- How an option is used, and what for. -/
def explanation : Setting → String × String
  | .flag .help => ("", "show this help and exit")
  | .parameter .speed => (" SPEED", s!"instructions a frame (default: {defaultSpeed})")
  | .flag .fullscreen => ("", "fill the screen")
  | .parameter .dark => (" BG", "background color (default: " ++ Host.defaultDark ++ ")")
  | .parameter .lit => (" FG", "foreground color (default: " ++ Host.defaultLit ++ ")")
  | .flag .software => ("", "avoid accelerated rendering")
  | .flag .debug => ("", "report every instruction")
  | .parameter .scale => (" N", s!"pixels a cell (default: {Host.defaultScale})")
  | .parameter .compatibility =>
    (" PRESET", ", ".intercalate (Compatibility.presets.map (·.1)) ++ " (default: default)")
  | .parameter .keymap => (" FILE", "JSON keymap laid over the default layout")
  | .flag .headless => ("", "run without a window and print the final screen")
  | .parameter .frames => (" N", "stop after N frames (headless default: 600)")
  | .parameter .seed => (" SEED", "seed for the RND instruction")
  | .flag .disassemble => ("", "print a disassembly of the ROM and exit")
  | .flag .monitor => ("", "start the interactive monitor instead of running")

/-- The line on an option. -/
def helpLine (setting : Setting) : String :=
  let names := (Setting.names.filter fun entry => entry.2 == setting).map (·.1)
  let (value, text) := explanation setting
  "  " ++ ", ".intercalate (names.map (· ++ value)) ++ "\n        " ++ text ++ "\n"

/-- Help on the command line. -/
def helpText : String :=
  "usage: chip8 [options] filename\n\nCHIP-8 emulator\n\n" ++
    "  filename\n        ROM image to load at 0x200\n" ++
    String.join ((Setting.names.map (·.2)).eraseDups.map helpLine) ++
    "\nKeys: 1234/QWER/ASDF/ZXCV = keypad, Esc quit, = / - speed,\n" ++
    "      F3 reset, F8 pause, F12 debug trace\n"

end ChipEight.CommandLine
