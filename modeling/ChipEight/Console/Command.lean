/-!
# Commands to the console

What a user can ask of a running console, by hot keys or through the window.
-/

namespace ChipEight

/-- A command to the console. -/
inductive Command where
  /-- End the session. -/
  | quit
  /-- One more instruction a frame. -/
  | speedUp
  /-- One instruction less a frame. -/
  | speedDown
  /-- Turn the trace on or off. -/
  | debug
  /-- Back to power-on. -/
  | reset
  /-- Pause, or go on. -/
  | pauseToggle
  /-- Pause. -/
  | pause
  /-- Go on. -/
  | unpause
  /-- A name without meaning, which does nothing. -/
  | unknown (name : String)
  deriving DecidableEq, Repr

namespace Command

/-- The command of a name. -/
def ofName : String → Command
  | "quit" => .quit
  | "speed_up" => .speedUp
  | "speed_down" => .speedDown
  | "debug" => .debug
  | "reset" => .reset
  | "pause_toggle" => .pauseToggle
  | "pause" => .pause
  | "unpause" => .unpause
  | name => .unknown name

/-- The name of a command. -/
def name : Command → String
  | .quit => "quit"
  | .speedUp => "speed_up"
  | .speedDown => "speed_down"
  | .debug => "debug"
  | .reset => "reset"
  | .pauseToggle => "pause_toggle"
  | .pause => "pause"
  | .unpause => "unpause"
  | .unknown name => name

end Command

end ChipEight
