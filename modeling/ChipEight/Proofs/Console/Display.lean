import ChipEight.Proofs.Console.Calls
import ChipEight.Proofs.Screen.History

/-!
# What the display has been shown

A console passes the screen to its display whenever an instruction clears it or draws on
it, and whenever it is reset.  No other instruction shows anything, and neither does a
step that faults or waits.  So the screen shown last is the screen of the machine, and a
recorder holds the screens shown last (`Console.display_current`).
-/

namespace ChipEight

/-- Whether an instruction writes the screen. -/
def Instruction.paints : Instruction → Bool
  | .clear | .draw .. => true
  | _ => false

namespace Machine

variable {width height : Nat}

/-- Whether a step completes an instruction that writes the screen. -/
def paints (machine : Machine width height) : Bool :=
  match machine.step.outcome with
  | .ok (some instruction) => instruction.paints
  | _ => false

variable {machine : Machine width height}

theorem paints_of_outcome_eq {instruction : Instruction}
    (executed : machine.step.outcome = .ok (some instruction)) :
    machine.paints = instruction.paints := by
  rw [paints, executed]

theorem screen_step_of_not_paints (quiet : machine.paints = false) :
    machine.step.machine.screen = machine.screen := by
  apply screen_step
  rintro (cleared | ⟨x, y, rows, drawn⟩)
  · rw [paints_of_outcome_eq cleared] at quiet
    contradiction
  · rw [paints_of_outcome_eq drawn] at quiet
    contradiction

theorem count_drawn_traced (span : Span 2) : (machine.traced span).count .drawn = 0 := by
  rw [traced]
  split <;> rfl

theorem count_drawn_events (instruction : Instruction) (pc : Int) :
    (instruction.events pc).count .drawn = instruction.paints.toNat := by
  cases instruction <;> rfl

/-- A step shows the screen once if it writes it, and not at all if it does not. -/
theorem count_drawn_step (sound : machine.Sound) :
    machine.step.events.count .drawn = machine.paints.toNat := by
  have steps := machine.steps_step
  rw [paints]
  generalize machine.step = result at steps
  cases steps with
  | waits | leaves => rfl
  | finishes pending polled =>
    -- The latched word still holds the instruction that waits.
    have began := (sound.wait _ pending).2
    simp only [began]
    rfl
  | faults => exact count_drawn_traced _
  | executes =>
    rw [List.count_append, count_drawn_traced, count_drawn_events, Nat.zero_add]

end Machine

namespace Recorder

variable {width height : Nat} {limit : Nat} {frames : List (Framebuffer width height)}
  {recorder : Recorder width height}

/-- Whether a recorder that keeps up to `limit` screens has been shown `frames`. -/
structure Holds (limit : Nat) (frames : List (Framebuffer width height))
    (recorder : Recorder width height) : Prop where
  limited : recorder.limit = some limit
  draws : recorder.draws = frames.length
  snapshots : recorder.snapshots.toList = frames.drop (frames.length - limit)

theorem Holds.draw (holds : recorder.Holds limit frames) (screen : Framebuffer width height) :
    (recorder.draw screen).Holds limit (frames ++ [screen]) := by
  refine ⟨holds.limited, ?_, ?_⟩
  · simp only [Recorder.draw, holds.draws, List.length_append, List.length_singleton]
  · -- What was dropped before and what is dropped now add up to what is beyond the limit.
    have kept : (recorder.snapshots.push screen).toList =
        (frames ++ [screen]).drop (frames.length - limit) := by
      rw [Array.toList_push, holds.snapshots,
        List.drop_append_of_le_length (Nat.sub_le frames.length limit)]
    have size_eq : (recorder.snapshots.push screen).size =
        frames.length + 1 - (frames.length - limit) := by
      rw [← Array.length_toList, kept, List.length_drop, List.length_append, List.length_singleton]
    have dropped_eq (gone : Nat) (gone_eq : gone = frames.length - limit) :
        gone + (frames.length + 1 - gone - limit) = frames.length + 1 - limit := by
      omega
    simp only [Recorder.draw, holds.limited, Array.toList_extract, List.extract_eq_take_drop, kept,
      size_eq, List.drop_drop, dropped_eq _ rfl, List.length_append, List.length_singleton]
    apply List.take_of_length_le
    rw [List.length_drop, List.length_append, List.length_singleton]
    omega

/-- The screen shown last is kept, unless no screen is. -/
theorem Holds.lastFrame? (holds : recorder.Holds limit frames) (keeps : 1 ≤ limit) :
    recorder.lastFrame? = frames.getLast? := by
  rw [Recorder.lastFrame?, ← Array.getLast?_toList, holds.snapshots, List.getLast?_drop]
  split
  · have : frames = [] := List.eq_nil_of_length_eq_zero (by omega)
    rw [this, List.getLast?_nil]
  · rfl

end Recorder

namespace Console

/-- Whether a deed completes an instruction that writes the screen. -/
def Deed.paints : Deed → Bool
  | .step machine => machine.paints
  | .reset => false

/-- Whether a deed is a reset. -/
def Deed.isReset : Deed → Bool
  | .step _ => false
  | .reset => true

/-- The screen that a deed leaves to be shown, if it does. -/
def Deed.shown? : Deed → Option (Framebuffer screenWidth screenHeight)
  | .step machine => if machine.paints then some machine.step.machine.screen else none
  | .reset => some .blank

/-- The screens that a trace shows, in order. -/
def shown (deeds : List Deed) : List (Framebuffer screenWidth screenHeight) :=
  deeds.filterMap Deed.shown?

@[simp]
theorem shown_nil : shown [] = [] := rfl

theorem shown_append (first rest : List Deed) : shown (first ++ rest) = shown first ++ shown rest :=
  List.filterMap_append

theorem length_shown (deeds : List Deed) :
    (shown deeds).length = deeds.countP Deed.paints + deeds.countP Deed.isReset := by
  induction deeds with
  | nil => rfl
  | cons first rest ih =>
    rw [shown] at ih
    rw [shown, List.filterMap_cons, List.countP_cons, List.countP_cons]
    cases first with
    | reset =>
      simp only [Deed.shown?, Deed.paints, Deed.isReset, List.length_cons, ih]
      rfl
    | step machine =>
      cases painting : machine.paints
      · simp [Deed.shown?, Deed.paints, Deed.isReset, painting, ih]
      · simp [Deed.shown?, Deed.paints, Deed.isReset, painting, ih]
        omega

/-- A step shows its screen once or not at all. -/
theorem shown_step (machine : Machine screenWidth screenHeight) :
    shown [.step machine] = List.replicate machine.paints.toNat machine.step.machine.screen := by
  cases painting : machine.paints <;> simp [shown, Deed.shown?, painting]

/-- A reset shows the blank screen. -/
theorem shown_reset : shown [.reset] = [.blank] := rfl

/-! ## The display beside the machine -/

/-- Whether the display of a console is a recorder that has been shown `frames`. -/
def Displays (limit : Nat) (frames : List (Framebuffer screenWidth screenHeight))
    (console : Console) : Prop :=
  ∃ recorder, console.display = some (.recorder recorder) ∧ recorder.Holds limit frames

variable {limit : Nat} {frames : List (Framebuffer screenWidth screenHeight)} {console : Console}

theorem Displays.showScreen (displays : console.Displays limit frames) :
    console.showScreen.Displays limit (frames ++ [console.machine.screen]) := by
  obtain ⟨recorder, display_eq, holds⟩ := displays
  refine ⟨recorder.draw console.machine.screen, ?_, holds.draw console.machine.screen⟩
  rw [Console.showScreen, display_eq]

theorem Displays.updateTone (displays : console.Displays limit frames) :
    console.updateTone.Displays limit frames := by
  obtain ⟨tone, audio, toolkit, toned⟩ := console.updateTone_eq
  rw [toned]
  exact displays

/-- The display is shown the screen once for each event that says so. -/
theorem Displays.deliverAll (displays : console.Displays limit frames) (events : List Event) :
    (events.foldl deliver console).Displays limit
      (frames ++ List.replicate (events.count .drawn) console.machine.screen) := by
  induction events generalizing console frames with
  | nil =>
    rw [List.count_nil, List.replicate_zero, List.append_nil]
    exact displays
  | cons event rest ih =>
    rw [List.foldl_cons, List.count_cons]
    cases event with
    | drawn =>
      obtain ⟨display, shown_eq⟩ := console.showScreen_eq
      have machine_eq : console.showScreen.machine = console.machine := by rw [shown_eq]
      have delivered := ih displays.showScreen
      rw [machine_eq, List.append_assoc] at delivered
      exact delivered
    | trace address word => exact ih displays
    | unknown address word => exact ih displays

/-- Whether the display of a console has been shown `frames` and is up to date: the last
of them is the screen, or else there is none and the screen is blank. -/
structure Current (limit : Nat) (frames : List (Framebuffer screenWidth screenHeight))
    (console : Console) : Prop where
  sound : console.machine.Sound
  screen : console.machine.screen = frames.getLast?.getD .blank
  displays : console.Displays limit frames

/-- What leaves the screen and the display alone keeps the display up to date. -/
theorem Current.congr {next : Console} (current : console.Current limit frames)
    (sound : next.machine.Sound) (screen_eq : next.machine.screen = console.machine.screen)
    (display_eq : next.display = console.display) : next.Current limit frames where
  sound := sound
  screen := screen_eq.trans current.screen
  displays := by
    rw [Displays, display_eq]
    exact current.displays

/-! ## Steps and the passing of time -/

theorem Current.cycle (current : console.Current limit frames) :
    console.cycle.1.Current limit (frames ++ shown [.step console.machine]) := by
  have stepped : { console with machine := console.machine.step.machine }.Displays limit frames :=
    current.displays
  have displays := stepped.deliverAll console.machine.step.events
  rw [Machine.count_drawn_step current.sound, ← shown_step] at displays
  refine ⟨?_, ?_, displays⟩
  · rw [cycle_machine]
    exact current.sound.step
  · rw [cycle_machine, shown_step]
    cases painting : console.machine.paints with
    | false =>
      rw [Machine.screen_step_of_not_paints painting, Bool.toNat_false, List.replicate_zero,
        List.append_nil]
      exact current.screen
    | true =>
      rw [Bool.toNat_true, List.replicate_one, List.getLast?_concat]
      rfl

theorem Current.step (current : console.Current limit frames) :
    console.step.1.Current limit (frames ++ shown [.step console.machine]) := by
  cases ended : console.machine.step.outcome with
  | ok executed =>
    rw [step_of_ok ended]
    exact current.cycle
  | error fault =>
    rw [step_of_error ended]
    exact current.cycle.congr current.cycle.sound rfl rfl

theorem Current.pass (current : console.Current limit frames) (elapsed : Float) :
    (console.pass elapsed).Current limit frames := by
  obtain ⟨tone, audio, toolkit, reportElapsed, reportFrames, notices, passed⟩ :=
    console.pass_eq elapsed
  rw [passed]
  exact current.congr (current.sound.act (.pass elapsed)) rfl rfl

/-! ## Commands and input -/

theorem Current.reset (current : console.Current limit frames) :
    console.reset.Current limit (frames ++ shown [.reset]) := by
  have fresh : { console.note .resetting with
      machine := console.machine.reset, paused := false, lastFault := none }.Displays limit
      frames := current.displays
  refine ⟨?_, ?_, fresh.showScreen.updateTone⟩
  · rw [reset_machine]
    exact Machine.sound_reset console.machine
  · rw [reset_machine, shown_reset, List.getLast?_concat]
    rfl

theorem Current.handle (current : console.Current limit frames) (command : Command) :
    (console.handle command).1.Current limit (frames ++ shown (commandDeeds command)) := by
  cases command with
  | reset => exact current.reset
  | debug =>
    simp only [commandDeeds, shown_nil, List.append_nil]
    have sound := current.sound
    exact current.congr ⟨sound.depth, sound.callers, sound.pc, sound.index, sound.wait⟩ rfl rfl
  | _ =>
    simp only [commandDeeds, shown_nil, List.append_nil]
    exact current.congr current.sound rfl rfl

theorem Current.poll (current : console.Current limit frames) :
    console.poll.1.Current limit frames := by
  obtain ⟨recorder, display_eq, holds⟩ := current.displays
  have sound := current.sound
  rw [Console.poll, display_eq]
  refine ⟨⟨sound.depth, sound.callers, sound.pc, sound.index, sound.wait⟩, current.screen, ?_⟩
  exact ⟨recorder.poll.1, rfl, holds.limited, holds.draws, holds.snapshots⟩

theorem Current.tick (current : console.Current limit frames) :
    console.tick.1.Current limit frames := by
  obtain ⟨recorder, display_eq, holds⟩ := current.displays
  rw [Console.tick, display_eq]
  exact current

theorem Current.load (current : console.Current limit frames) (program : Array UInt8)
    (name : Option String) : (console.call (.load program name)).Current limit frames := by
  obtain ⟨programName, loaded⟩ := console.call_load_eq program name
  obtain ⟨_, _, _, _, _, acted⟩ :=
    console.machine.act_of_fromOutside (rfl : (Action.load program).fromOutside)
  rw [loaded]
  exact current.congr (current.sound.act (.load program)) (by rw [acted]) rfl

theorem Current.keys (current : console.Current limit frames) (change : Keypad.Change) :
    (console.call (.keys change)).Current limit frames :=
  current.congr (current.sound.act (.keys change)) rfl rfl

theorem Current.queue (current : console.Current limit frames) (commands : List Command) :
    (console.queue commands).Current limit frames := by
  obtain ⟨recorder, display_eq, holds⟩ := current.displays
  rw [Console.queue, display_eq]
  exact ⟨current.sound, current.screen, _, rfl, holds.limited, holds.draws, holds.snapshots⟩

/-! ## Calls -/

theorem preserved_current (limit : Nat) :
    Preserved fun past console => console.Current limit (shown past) where
  step current := by
    rw [shown_append]
    exact current.step
  pass elapsed current := current.pass elapsed
  command command current := by
    rw [shown_append]
    exact current.handle command
  poll current := current.poll
  tick current := current.tick
  load program name current := current.load program name
  keys change current := current.keys change
  queue commands current := current.queue commands

/-- A console at power-on beside a recorder that has been shown nothing. -/
def recording (speed : Int) (compatibility : Compatibility) (random : RandomBytes) (debug : Bool)
    (recorder : Recorder screenWidth screenHeight) (audio : Option Audio)
    (toolkit : Host.Toolkit) : Console :=
  { create speed compatibility random debug with
    display := some (.recorder { recorder with snapshots := #[], draws := 0 })
    audio := audio, toolkit := toolkit }

theorem current_recording (speed : Int) (compatibility : Compatibility) (random : RandomBytes)
    (debug : Bool) {recorder : Recorder screenWidth screenHeight}
    (limited : recorder.limit = some limit) (audio : Option Audio) (toolkit : Host.Toolkit) :
    (recording speed compatibility random debug recorder audio toolkit).Current limit
      (shown []) := by
  have sound : (Machine.powerOn compatibility random : Machine screenWidth screenHeight).Sound :=
    Machine.sound_powerOn compatibility random
  exact ⟨⟨sound.depth, sound.callers, sound.pc, sound.index, sound.wait⟩, rfl,
    _, rfl, limited, rfl, List.drop_nil.symm⟩

/-- After any calls, the screen shown last is the screen of the machine, and there is none
only while the screen is blank.  As many screens have been shown as there were completed
instructions that write the screen, and resets.  The kept screens are the last of them. -/
theorem display_current (speed : Int) (compatibility : Compatibility) (random : RandomBytes)
    (debug : Bool) (recorder : Recorder screenWidth screenHeight) (audio : Option Audio)
    (toolkit : Host.Toolkit) {limit : Nat} (limited : recorder.limit = some limit)
    (keeps : 1 ≤ limit) (calls : List Call) :
    let start := recording speed compatibility random debug recorder audio toolkit
    let deeds := start.callsDeeds calls
    let machine := (start.calls calls).machine
    ∃ recorder, (start.calls calls).display = some (.recorder recorder) ∧
      (recorder.draws = 0 → machine.screen = .blank) ∧
      (recorder.draws ≠ 0 → recorder.lastFrame? = some machine.screen) ∧
      recorder.draws = deeds.countP Deed.paints + deeds.countP Deed.isReset ∧
      recorder.snapshots.toList =
        (shown deeds).drop ((shown deeds).length - min limit recorder.draws) := by
  intro start deeds machine
  have current : (start.calls calls).Current limit (shown deeds) :=
    (preserved_current limit).calls
      (current_recording speed compatibility random debug limited audio toolkit) calls
  obtain ⟨recorder, display_eq, holds⟩ := current.displays
  refine ⟨recorder, display_eq, ?_, ?_, holds.draws.trans (length_shown deeds), ?_⟩
  · intro none_drawn
    have empty : shown deeds = [] :=
      List.eq_nil_of_length_eq_zero (holds.draws.symm.trans none_drawn)
    rw [current.screen, empty]
    rfl
  · intro drawn
    have nonempty : shown deeds ≠ [] := by
      intro empty
      rw [holds.draws, empty] at drawn
      exact drawn rfl
    rw [holds.lastFrame? keeps, current.screen, List.getLast?_eq_some_getLast nonempty]
    rfl
  · rw [holds.snapshots, holds.draws]
    congr 1
    omega

/-- A console beside a recorder that keeps one screen. -/
def recordingOne : Console :=
  recording 8 .reference (.cycle #[]) false { limit := some 1 } none .absent

/-- The console with a program that clears the screen. -/
def clearing : Console :=
  recordingOne.call (.load #[0x00, 0xE0] none)

theorem clearing_machine :
    clearing.machine =
      { Machine.powerOn .reference (.cycle #[]) with
        memory := Vector.ofFn fun place =>
          if place.val < programStart then glyphs[place.val]?.getD 0
          else #[0x00, 0xE0][place.val - programStart]?.getD 0
        programSize := 2 } := by
  have room : (#[0x00, 0xE0] : Array UInt8).size ≤ programRoom := by decide
  rw [clearing, recordingOne.call_load_of_room room, Machine.act_load _ room]
  simp [recordingOne, recording, create, Machine.powerOn]

theorem clearing_paints : clearing.machine.paints := by
  have fetched : Span.at? clearing.machine.pc 2 = some ⟨programStart, by decide⟩ := by
    rw [clearing_machine]
    exact Span.at?_eq_some_iff.mpr rfl
  have word_eq : clearing.machine.wordAt ⟨programStart, by decide⟩ = 0x00E0 := by
    simp [clearing_machine, Machine.wordAt, Machine.bytes, Span.read, Span.place, programStart,
      Word.ofBytes]
  have decoded : clearing.machine.instructionAt ⟨programStart, by decide⟩ = .clear := by
    rw [Machine.instructionAt, word_eq]
    decide
  have idle : clearing.machine.wait = none := by
    rw [clearing_machine]
    rfl
  have stepped := clearing.machine.step_of_effect idle fetched (by rw [decoded]; rfl)
  rw [Machine.paints, stepped, decoded]
  rfl

/-- The screen is shown when it is cleared and when the console is reset, and the recorder
keeps the one shown last. -/
theorem clearing_current :
    ∃ recorder, (clearing.calls [.step, .reset]).display = some (.recorder recorder) ∧
      recorder.draws = 2 ∧
      recorder.lastFrame? = some (clearing.calls [.step, .reset]).machine.screen := by
  obtain ⟨recorder, display_eq, -, shown_last, draws_eq, -⟩ :=
    display_current 8 .reference (.cycle #[]) false { limit := some 1 } none .absent rfl
      (Nat.le_refl 1) [.load #[0x00, 0xE0] none, .step, .reset]
  rw [← recordingOne, calls_cons, ← clearing] at display_eq shown_last
  have draws_two : recorder.draws = 2 := by
    rw [draws_eq, ← recordingOne, callsDeeds, ← clearing]
    simp [callsDeeds, callDeeds, Deed.paints, Deed.isReset, clearing_paints]
  exact ⟨recorder, display_eq, draws_two, shown_last (by rw [draws_two]; decide)⟩

end Console

end ChipEight
