import ChipEight.Host.Toolkit
import ChipEight.Tone.Wave

/-!
# Beepers

A beeper turns the tone on and off.  One plays a wave through the sound device of
the toolkit over and over; the other is silent and counts how often the tone
changes.  Both act only on a change.
-/

namespace ChipEight.Tone

open ChipEight.Host

/-- Why the sound device was not opened. -/
inductive SoundError where
  /-- There is no toolkit. -/
  | noToolkit
  /-- The toolkit refused to open the device. -/
  | refused (text : String)
  /-- There is no wave of the wanted kind. -/
  | wave (error : WaveError)
  deriving DecidableEq, Repr

/-- The report on a refused sound device. -/
def SoundError.message : SoundError → String
  | .noToolkit => "pygame not available: No module named 'pygame'"
  | .refused text => "Failed to open audio device: " ++ text
  | .wave error => error.message

/-- A beeper that plays through the sound device. -/
structure Beeper where
  /-- Periods a second. -/
  frequency : Float
  /-- The amplitude, from zero to one. -/
  volume : Float
  /-- The number of samples a second that is asked for. -/
  rate : Int
  /-- Whether the tone is on. -/
  playing : Bool := false
  /-- Whether the sound device is open. -/
  isOpen : Bool := false
  /-- Whether there is a sound to play. -/
  hasSound : Bool := false

namespace Beeper

/-- The usual beeper. -/
def default : Beeper where
  frequency := Tone.frequency
  volume := Tone.volume
  rate := sampleRate

/-- The samples a beeper plays on a device of some rate and channels. -/
def samples (beeper : Beeper) (rate channels : Int) : Except WaveError (List Int) := do
  let samples ← wave beeper.frequency beeper.volume rate periods
  checkChannels samples channels
  return samples

/-- Open the sound device and make the sound.  The device decides how many samples
a second and how many channels there are. -/
def start (beeper : Beeper) (toolkit : Toolkit) : Beeper × Toolkit × Except SoundError Unit :=
  if !toolkit.present then (beeper, toolkit, .error .noToolkit)
  else
    let toolkit := toolkit.log (.mixerInit beeper.rate (-16) 1)
    if toolkit.fails .mixer then (beeper, toolkit, .error (.refused toolkit.failText))
    else
      let opened := { beeper with isOpen := true }
      let (rate, _, channels) := toolkit.mixer
      match beeper.samples rate channels with
      | .error error => (opened, toolkit, .error (.wave error))
      | .ok samples =>
        ({ opened with hasSound := true },
          toolkit.log (.makeSound samples (max 1 channels).toNat), .ok ())

/-- Turn the tone on or off.  Without a sound nothing happens. -/
def setTone (beeper : Beeper) (toolkit : Toolkit) (on : Bool) : Beeper × Toolkit :=
  if !beeper.hasSound || on == beeper.playing then (beeper, toolkit)
  else ({ beeper with playing := on }, toolkit.log (if on then .play (-1) else .soundStop))

/-- Turn the tone off and close the sound device, if it is open. -/
def stop (beeper : Beeper) (toolkit : Toolkit) : Beeper × Toolkit :=
  if beeper.isOpen then
    let (silent, toolkit) := beeper.setTone toolkit false
    ({ silent with isOpen := false, hasSound := false }, toolkit.log .mixerQuit)
  else (beeper, toolkit)

end Beeper

/-- A beeper that makes no sound. -/
structure SilentBeeper where
  /-- Whether the tone is on. -/
  playing : Bool := false
  /-- How often the tone has changed. -/
  changes : Nat := 0
  deriving DecidableEq, Repr

/-- Turn the tone on or off. -/
def SilentBeeper.setTone (beeper : SilentBeeper) (on : Bool) : SilentBeeper :=
  if on == beeper.playing then beeper else ⟨on, beeper.changes + 1⟩

end ChipEight.Tone
