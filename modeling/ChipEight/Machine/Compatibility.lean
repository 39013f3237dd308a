/-!
# Compatibility switches

Interpreters of the past disagree on four points.  Each is a switch; with all
of them off the machine follows the reference interpreter.
-/

namespace ChipEight

/-- How a machine treats the instructions that interpreters disagree on. -/
structure Compatibility where
  /-- `8xy6` and `8xyE` shift the second register instead of the first. -/
  shiftUsesSecond : Bool
  /-- `Bnnn` adds the register its address names instead of `V0`. -/
  offsetUsesNamed : Bool
  /-- `Fx0A` finishes when the key comes up instead of when it goes down. -/
  keyOnRelease : Bool
  /-- `Fx55` and `Fx65` move the index past the bytes they touch. -/
  indexAdvances : Bool
  deriving DecidableEq, Repr

namespace Compatibility

/-- The reference interpreter. -/
def reference : Compatibility :=
  ⟨false, false, false, false⟩

/-- The first interpreter, for the COSMAC machine. -/
def cosmac : Compatibility :=
  ⟨true, false, true, true⟩

/-- The calculator interpreter. -/
def schip : Compatibility :=
  ⟨false, true, false, false⟩

/-- The named presets, in alphabetical order. -/
def presets : List (String × Compatibility) :=
  [("cosmac", cosmac), ("default", reference), ("schip", schip)]

/-- The preset of a name. -/
def preset? (name : String) : Option Compatibility :=
  presets.lookup name

/-- One of the four switches. -/
inductive Switch where
  /-- What a shift reads. -/
  | shiftUsesSecond
  /-- What an offset jump adds. -/
  | offsetUsesNamed
  /-- When a wait for a key ends. -/
  | keyOnRelease
  /-- Whether block transfers move the index. -/
  | indexAdvances
  deriving DecidableEq, Repr

/-- The switch of a name. -/
def Switch.ofName? : String → Option Switch
  | "shift_uses_vy" => some .shiftUsesSecond
  | "jump_uses_vx" => some .offsetUsesNamed
  | "key_wait_release" => some .keyOnRelease
  | "load_store_increment" => some .indexAdvances
  | _ => none

/-- Turn one switch on or off. -/
def set (switches : Compatibility) (switch : Switch) (on : Bool) : Compatibility :=
  match switch with
  | .shiftUsesSecond => { switches with shiftUsesSecond := on }
  | .offsetUsesNamed => { switches with offsetUsesNamed := on }
  | .keyOnRelease => { switches with keyOnRelease := on }
  | .indexAdvances => { switches with indexAdvances := on }

end Compatibility

end ChipEight
