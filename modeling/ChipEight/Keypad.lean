import ChipEight.Text.Hex

/-!
# The keypad

Sixteen keys, each up or down.  The input source writes them; the machine only
asks whether a key is down, and which is the lowest one down.
-/

namespace ChipEight

/-- One of the sixteen keys. -/
abbrev Key := Fin 16

/-- The key a number names: its last four bits in two's complement. -/
def Key.ofInt (value : Int) : Key :=
  Fin.ofNat 16 (value % 16).toNat

/-- The state of the sixteen keys, `true` for a key that is down. -/
structure Keypad where
  /-- One flag for each key. -/
  down : Vector Bool 16
  deriving DecidableEq, Repr

namespace Keypad

/-- All keys up. -/
def released : Keypad :=
  ⟨Vector.replicate 16 false⟩

/-- Whether a key is down. -/
def isDown (keypad : Keypad) (key : Key) : Bool :=
  keypad.down[key]

/-- Put a key down. -/
def press (keypad : Keypad) (key : Key) : Keypad :=
  ⟨keypad.down.set key true⟩

/-- Let a key up. -/
def release (keypad : Keypad) (key : Key) : Keypad :=
  ⟨keypad.down.set key false⟩

/-- The keys that are down, in order. -/
def pressed (keypad : Keypad) : List Key :=
  (List.finRange 16).filter keypad.isDown

/-- The lowest key that is down. -/
def lowest? (keypad : Keypad) : Option Key :=
  (List.finRange 16).find? keypad.isDown

/-- The keypad on which exactly the listed keys are down. -/
def ofPressed (keys : List Key) : Keypad :=
  keys.foldl press released

/-- A wrong number of flags for the keypad. -/
structure CountError where
  /-- The number of flags given. -/
  count : Nat
  deriving DecidableEq, Repr

/-- The report on a wrong number of flags. -/
def CountError.message (error : CountError) : String :=
  s!"Keypad state needs 16 entries, got {error.count}"

/-- The keypad with the given flags, of which there must be sixteen. -/
def ofStates (states : List Bool) : Except CountError Keypad :=
  if count : states.toArray.size = 16 then
    .ok ⟨⟨states.toArray, count⟩⟩
  else
    .error ⟨states.length⟩

end Keypad

end ChipEight
