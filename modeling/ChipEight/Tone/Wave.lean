import ChipEight.TableSize

/-!
# The square wave

The tone is a square wave of whole periods, so that it can be repeated without a
click: the amplitude in the first half of each period and its negative in the
second.  Samples are sixteen-bit integers.  The number of samples and the phase
of each are computed in binary floating point.

The places of the samples are kept in a table and the amplitude in a word, so that
there are bounds on both.  A negative number of samples stands for none, and so
does the least number that is just too large for a word.
-/

namespace ChipEight.Tone

/-- Why no wave was computed. -/
inductive WaveError where
  /-- The frequency is zero. -/
  | zeroFrequency
  /-- The number of samples or the amplitude is not a number. -/
  | notNumber
  /-- The number of samples or the amplitude is infinite. -/
  | infinite
  /-- The number of samples, or its negative, is far too large for a word. -/
  | tooLong
  /-- There is no table of the samples. -/
  | table (error : TableSize.Refused)
  /-- A number is too large to go on with. -/
  | tooLarge (cause : TooLarge)
  deriving DecidableEq, Repr

/-- The report on a wave that was not computed. -/
def WaveError.message : WaveError → String
  | .zeroFrequency => "float division by zero"
  | .notNumber => "cannot convert float NaN to integer"
  | .infinite => "cannot convert float infinity to integer"
  | .tooLong => "Maximum allowed size exceeded"
  | .table error => error.message
  | .tooLarge cause => cause.message

/-- The usual frequency. -/
def frequency : Float := 440.0

/-- The usual volume. -/
def volume : Float := 0.25

/-- The usual number of samples in a second. -/
def sampleRate : Int := 44100

/-- The usual number of periods. -/
def periods : Int := 44

/-- A float that is an integer, as that integer. -/
def wholeValue (value : Float) : Int :=
  if value.abs < 9007199254740992.0 then value.toInt64.toInt
  else
    let bits := value.toBits.toNat
    let mantissa : Nat := bits % Nat.pow 2 52 + Nat.pow 2 52
    let exponent : Nat := bits / Nat.pow 2 52 % Nat.pow 2 11 - 1075
    let size : Int := Int.ofNat (mantissa * Nat.pow 2 exponent)
    if value < 0.0 then -size else size

/-- The integer next to a float; a half goes to the even neighbour. -/
def roundHalfEven (value : Float) : Int :=
  let floor := value.floor
  let below := wholeValue floor
  let rest := value - floor
  if rest < 0.5 then below
  else if rest > 0.5 then below + 1
  else if below % 2 = 0 then below
  else below + 1

/-- A float without its fraction. -/
def truncate (value : Float) : Float :=
  if value < 0.0 then value.ceil else value.floor

/-- Refuse a float that is not finite. -/
def finite (value : Float) : Except WaveError Float :=
  if value.isNaN then .error .notNumber
  else if value.isInf then .error .infinite
  else .ok value

/-- The fraction of a float, counted upwards from the integer below it. -/
def fraction (value : Float) : Float :=
  let rest := value - truncate value
  if rest < 0.0 then rest + 1.0 else rest

/-- The number of samples of a wave. -/
def sampleCount (frequency : Float) (rate periods : Int) : Except WaveError Nat := do
  let product ← (Bounds.float (rate * periods)).mapError .tooLarge
  if frequency == 0.0 then throw .zeroFrequency
  let count := roundHalfEven (← finite (product / frequency))
  if count.natAbs > Nat.pow 2 63 then throw .tooLong
  let held := if count = Nat.pow 2 63 then 0 else count.toNat
  (TableSize.check ⟨[held], .place⟩).mapError .table
  return held

/-- The amplitude of a wave. -/
def amplitude (volume : Float) : Except WaveError Int := do
  let loudness := wholeValue (truncate (← finite (volume * 32767.0)))
  if loudness.natAbs > Nat.pow 2 63 then throw (.tooLarge .word) else return loudness

/-- A wave of whole periods. -/
def wave (frequency volume : Float) (rate periods : Int) : Except WaveError (List Int) := do
  let count ← sampleCount frequency rate periods
  let rate ← (Bounds.float rate).mapError .tooLarge
  let amplitude ← amplitude volume
  return (List.range count).map fun place =>
    let phase := fraction (Float.ofNat place * frequency / rate)
    Int.bmod (if phase ≤ 0.5 then amplitude else -amplitude) 65536

/-- Check that a wave can be repeated on a number of channels side by side. -/
def checkChannels (samples : List Int) (channels : Int) : Except WaveError Unit :=
  if channels ≤ 1 then .ok ()
  else if Bounds.isWord channels then
    (TableSize.check ⟨[samples.length, channels], .sample⟩).mapError .table
  else .error (.tooLarge .word)

end ChipEight.Tone
