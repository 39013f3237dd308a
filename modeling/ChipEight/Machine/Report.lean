import ChipEight.Instruction.Mnemonic
import ChipEight.Machine.Step

/-!
# Reports on a machine

The texts in which a machine is shown: the register dump, the trace of a fetched
word and the note on an unknown one.
-/

namespace ChipEight

open ChipEight.Text

/-- The trace of a fetched word: where it stood, its fields and its text. -/
def traceText (address : Int) (word : Word) : String :=
  "PC=" ++ Hex.address address ++ " OP=" ++ Hex.word word ++
    " X=" ++ Hex.marked 0 word.x.val ++ " Y=" ++ Hex.marked 0 word.y.val ++
    " NN=" ++ Hex.byte word.nn ++ " NNN=" ++ Hex.address word.nnn.val ++ "  " ++ word.text

/-- The note on a word that is no instruction. -/
def unknownText (address : Int) (word : Word) : String :=
  "Unknown opcode: " ++ Hex.word word ++ " at " ++ Hex.address address

/-- The line an event is reported with; a drawing is not reported. -/
def Event.line? : Event → Option String
  | .trace address word => some ("[chip8] " ++ traceText address word)
  | .unknown address word => some ("[chip8] " ++ unknownText address word)
  | .drawn => none

namespace Machine

variable {width height : Nat}

/-- Four registers, by name and value. -/
def registerLine (machine : Machine width height) (first : Nat) : String :=
  "  " ++ "  ".intercalate ((List.range 4).map fun offset =>
    let register : Register := Fin.ofNat 16 (first + offset)
    register.name ++ "=" ++ Hex.byte (machine.register register))

/-- The register dump: all registers, the counters and timers, then the pending
calls from the outermost on and the pending wait for a key, if there are any. -/
def dump (machine : Machine width height) : String :=
  let counters :=
    "  PC=" ++ Hex.address machine.pc ++ "  I=" ++ Hex.address machine.index ++
      s!"  SP={machine.calls.depth}  DT={machine.delay.value}  ST={machine.sound.value}"
  let calls :=
    if machine.calls.depth = 0 then []
    else ["  Stack: " ++ " ".intercalate (machine.calls.frames.map Hex.address)]
  let waiting := match machine.wait with
    | some wait => ["  Waiting for key -> " ++ wait.register.name]
    | none => []
  "\n".intercalate
    ([0, 4, 8, 12].map machine.registerLine ++ [counters] ++ calls ++ waiting)

end Machine

end ChipEight
