import ChipEight.Proofs.Console.Showing

/-!
# The tone and its beeper

A console brings its tone up to date with the sound timer at the end of a frame and at a
reset, and tells its beeper only when the tone changes.  So at every moment of a run the
beeper is on exactly if the tone is (`Console.tone_coherent`): a silent beeper has counted
the changes of the tone, and one that plays has started and stopped its sound in turn.
-/

namespace ChipEight

namespace Host

/-- Whether a call starts or stops the sound. -/
def Call.movesSound : Call → Bool
  | .play _ | .soundStop => true
  | _ => false

namespace Toolkit

/-- The calls so far that start or stop the sound. -/
def soundCalls (toolkit : Toolkit) : List Call :=
  toolkit.calls.toList.filter Call.movesSound

theorem soundCalls_log (toolkit : Toolkit) (call : Call) :
    (toolkit.log call).soundCalls =
      toolkit.soundCalls ++ if call.movesSound then [call] else [] := by
  rw [soundCalls, log, Array.toList_push, List.filter_append, List.filter_cons, List.filter_nil,
    soundCalls]

/-- Frames are shown without a sound. -/
theorem OnlyShows.soundCalls {toolkit next : Toolkit} (shows : toolkit.OnlyShows next) :
    next.soundCalls = toolkit.soundCalls := by
  obtain ⟨-, shown, onlyShown, calls⟩ := shows
  have still : shown.filter Call.movesSound = [] := by
    apply List.filter_eq_nil_iff.mpr
    intro call member
    have showing := onlyShown call member
    cases call with
    | play | soundStop => contradiction
    | _ => simp [Call.movesSound]
  rw [Toolkit.soundCalls, calls, List.filter_append, still, List.append_nil, Toolkit.soundCalls]

end Toolkit

end Host

namespace Tone

/-- So many calls that start and stop a sound in turn, the first of which starts it. -/
def alternation (count : Nat) : List Host.Call :=
  (List.range count).map fun place => if place % 2 = 0 then .play (-1) else .soundStop

theorem alternation_succ (count : Nat) :
    alternation (count + 1) =
      alternation count ++ [if count % 2 = 0 then .play (-1) else .soundStop] := by
  rw [alternation, List.range_succ, List.map_append, List.map_singleton, alternation]

/-- The last of them starts the sound exactly if their number is odd. -/
theorem getLast?_alternation (count : Nat) :
    (alternation count).getLast? = some (.play (-1)) ↔ count % 2 = 1 := by
  cases count with
  | zero => simp [alternation]
  | succ count =>
    rw [alternation_succ, List.getLast?_concat]
    rcases Nat.mod_two_eq_zero_or_one count with even | odd
    · simp [even]
      omega
    · simp [odd]
      omega

end Tone

namespace Audio

/-- Whether a beeper can be attached: a silent one that has been told nothing yet, or one
that has been started. -/
def Ready : Audio → Prop
  | .silent counter => counter = {}
  | .beeper player => player.playing = false ∧ player.isOpen = true ∧ player.hasSound = true

/-- An attached beeper after a number of changes of the tone. -/
def following (attached : Audio) (on : Bool) (changes : Nat) : Audio :=
  match attached with
  | .silent _ => .silent ⟨on, changes⟩
  | .beeper player => .beeper { player with playing := on }

/-- The calls that an attached beeper makes in a number of changes of the tone. -/
def callsFor (attached : Audio) (changes : Nat) : List Host.Call :=
  match attached with
  | .silent _ => []
  | .beeper _ => Tone.alternation changes

end Audio

namespace Console

/-! ## What leaves the tone alone -/

/-- Whether two consoles do not differ in their tone, their beeper and what it has done. -/
structure Steady (console next : Console) : Prop where
  tone : next.tone = console.tone
  audio : next.audio = console.audio
  sounds : next.toolkit.soundCalls = console.toolkit.soundCalls

theorem Quiet.steady {console next : Console} (quiet : console.Quiet next) :
    console.Steady next :=
  ⟨quiet.tone, quiet.audio, quiet.toolkit.soundCalls⟩

/-- An operation that does not bring the tone up to date leaves it alone. -/
theorem steady_operate (console : Console) {operation : Operation}
    (unsettled : operation.settles = false) : console.Steady (console.operate operation) :=
  (console.quiet_operate unsettled).steady

/-- An operation that brings the tone up to date leaves it alone before and after that. -/
theorem exists_updateTone (console : Console) {operation : Operation}
    (settles : operation.settles = true) :
    ∃ before, console.Steady before ∧ before.updateTone.Steady (console.operate operation) ∧
      (console.operate operation).machine = before.machine := by
  obtain ⟨before, quiet, updated, machine_eq⟩ := console.exists_updateTone_quiet settles
  exact ⟨before, quiet.steady, updated.steady, machine_eq⟩

/-! ## Following the tone -/

/-- Whether the beeper of a console has followed the tone through so many changes since it
was attached. -/
structure Coherent (attached : Audio) (past : List Host.Call) (changes : Nat)
    (console : Console) : Prop where
  tone : console.tone = (changes % 2 == 1)
  audio : console.audio = some (attached.following console.tone changes)
  sounds : console.toolkit.soundCalls = past ++ attached.callsFor changes

variable {attached : Audio} {past : List Host.Call} {changes : Nat} {console next : Console}

theorem Coherent.of_steady (coherent : console.Coherent attached past changes)
    (steady : console.Steady next) : next.Coherent attached past changes where
  tone := steady.tone.trans coherent.tone
  audio := by rw [steady.audio, steady.tone, coherent.audio]
  sounds := steady.sounds.trans coherent.sounds

/-- A change of the tone reaches the beeper once. -/
theorem Coherent.updateTone_of_ne (coherent : console.Coherent attached past changes)
    (ready : attached.Ready) (flips : console.machine.tone ≠ console.tone) :
    console.updateTone.tone = console.machine.tone ∧
      console.updateTone.Coherent attached past (changes + 1) := by
  have unequal : (console.machine.tone == console.tone) = false := beq_false_of_ne flips
  have parity : console.machine.tone = ((changes + 1) % 2 == 1) := by
    rw [Bool.eq_not_of_ne flips, coherent.tone]
    rcases Nat.mod_two_eq_zero_or_one changes with even | odd
    · simp [even]
      omega
    · simp [odd]
      omega
  cases attached with
  | silent counter =>
    have told : console.updateTone = { console with
        tone := console.machine.tone
        audio := some (.silent ⟨console.machine.tone, changes + 1⟩) } := by
      simp [Console.updateTone, unequal, coherent.audio, Audio.following,
        Tone.SilentBeeper.setTone]
    rw [told]
    exact ⟨rfl, parity, rfl, coherent.sounds⟩
  | beeper player =>
    obtain ⟨-, -, hasSound⟩ := ready
    let call : Host.Call := if console.machine.tone then .play (-1) else .soundStop
    have told : console.updateTone = { console with
        tone := console.machine.tone
        audio := some (.beeper { player with playing := console.machine.tone })
        toolkit := console.toolkit.log call } := by
      simp [Console.updateTone, unequal, coherent.audio, Audio.following, Tone.Beeper.setTone,
        hasSound, call]
    rw [told]
    refine ⟨rfl, parity, rfl, ?_⟩
    -- The sound is started by the changes with an even number before them.
    have call_eq : call = if changes % 2 = 0 then .play (-1) else .soundStop := by
      rcases Nat.mod_two_eq_zero_or_one changes with even | odd
      · have on : console.machine.tone = true := by
          rw [parity]
          simp
          omega
        simp [call, on, even]
      · have off : console.machine.tone = false := by
          rw [parity]
          simp
          omega
        simp [call, off, odd]
    have moves : call.movesSound = true := by
      rw [call_eq]
      split <;> rfl
    have sounds := coherent.sounds
    rw [Audio.callsFor] at sounds
    rw [Host.Toolkit.soundCalls_log, moves, if_pos rfl, sounds, call_eq, Audio.callsFor,
      Tone.alternation_succ, List.append_assoc]

/-- The tone is brought up to date, and the beeper is told if that changes it. -/
theorem Coherent.updateTone (coherent : console.Coherent attached past changes)
    (ready : attached.Ready) :
    console.updateTone.tone = console.machine.tone ∧
      console.updateTone.Coherent attached past
        (changes + if console.updateTone.tone = console.tone then 0 else 1) := by
  by_cases same : console.machine.tone = console.tone
  · have unchanged : console.updateTone = console := by
      simp [Console.updateTone, same]
    rw [unchanged, if_pos rfl]
    exact ⟨same.symm, coherent⟩
  · obtain ⟨tone_eq, told⟩ := coherent.updateTone_of_ne ready same
    rw [tone_eq, if_neg same]
    exact ⟨rfl, told⟩

/-! ## Along a run -/

/-- Whether an operation flips the tone. -/
def flips (console : Console) (operation : Operation) : Bool :=
  (console.operate operation).tone != console.tone

/-- How often a sequence of operations flips the tone. -/
def flipCount (console : Console) : List Operation → Nat
  | [] => 0
  | first :: rest => (console.flips first).toNat + (console.operate first).flipCount rest

/-- What one operation does to the tone reaches the beeper. -/
theorem Coherent.operate (coherent : console.Coherent attached past changes)
    (ready : attached.Ready) (operation : Operation) :
    (console.operate operation).Coherent attached past
      (changes + (console.flips operation).toNat) := by
  cases settles : operation.settles with
  | false =>
    have steady := console.steady_operate settles
    have flips_eq : console.flips operation = false := by
      rw [flips, steady.tone, bne_self_eq_false]
    rw [flips_eq]
    exact coherent.of_steady steady
  | true =>
    obtain ⟨before, unmoved, updated, -⟩ := console.exists_updateTone settles
    obtain ⟨-, told⟩ := (coherent.of_steady unmoved).updateTone ready
    have count_eq : (console.flips operation).toNat =
        if before.updateTone.tone = before.tone then 0 else 1 := by
      rw [flips, updated.tone, ← unmoved.tone]
      by_cases same : before.updateTone.tone = before.tone <;> simp [same]
    rw [count_eq]
    exact told.of_steady updated

/-- What a sequence of operations does to the tone reaches the beeper. -/
theorem Coherent.operateAll (coherent : console.Coherent attached past changes)
    (ready : attached.Ready) (operations : List Operation) :
    (console.operateAll operations).Coherent attached past
      (changes + console.flipCount operations) := by
  induction operations generalizing console changes with
  | nil => exact coherent
  | cons first rest ih =>
    have after := ih (coherent.operate ready first)
    rw [Nat.add_assoc] at after
    exact after

/-- After an operation that brings the tone up to date, it is on exactly if the sound
timer runs. -/
theorem Coherent.tone_of_settles (coherent : console.Coherent attached past changes)
    (ready : attached.Ready) {operation : Operation} (settles : operation.settles = true) :
    (console.operate operation).tone =
      decide (0 < (console.operate operation).machine.sound.value) := by
  obtain ⟨before, unmoved, updated, machine_eq⟩ := console.exists_updateTone settles
  obtain ⟨tone_eq, -⟩ := (coherent.of_steady unmoved).updateTone ready
  rw [updated.tone, tone_eq, machine_eq, Machine.tone, Countdown.active]
  rw [Bool.eq_iff_iff]
  simp [UInt8.pos_iff_ne_zero]

/-- A beeper that has followed the tone is silent once it is released: its sound is
stopped unless it has been stopped already. -/
theorem Coherent.stop {player : Tone.Beeper} (ready : (Audio.beeper player).Ready)
    (coherent : console.Coherent (.beeper player) past changes) :
    let stopped := Tone.Beeper.stop { player with playing := console.tone } console.toolkit
    stopped.1.playing = false ∧
      stopped.2.soundCalls = past ++ Tone.alternation (changes + changes % 2) := by
  obtain ⟨-, isOpen, hasSound⟩ := ready
  have sounds := coherent.sounds
  rw [Audio.callsFor] at sounds
  rcases Nat.mod_two_eq_zero_or_one changes with even | odd
  · have off : console.tone = false := by
      rw [coherent.tone]
      simp [even]
    simp [Tone.Beeper.stop, Tone.Beeper.setTone, isOpen, off, Host.Toolkit.soundCalls_log,
      Host.Call.movesSound, sounds, even]
  · have on : console.tone = true := by
      rw [coherent.tone]
      simp [odd]
    simp [Tone.Beeper.stop, Tone.Beeper.setTone, isOpen, hasSound, on,
      Host.Toolkit.soundCalls_log, Host.Call.movesSound, sounds, odd, Tone.alternation_succ]

/-- A console at power-on beside a beeper. -/
def sounding (speed : Int) (compatibility : Compatibility) (random : RandomBytes) (debug : Bool)
    (display : Option Display) (attached : Audio) (toolkit : Host.Toolkit) : Console :=
  { create speed compatibility random debug with
    display := display, audio := some attached, toolkit := toolkit }

theorem coherent_sounding (speed : Int) (compatibility : Compatibility) (random : RandomBytes)
    (debug : Bool) (display : Option Display) (ready : attached.Ready) (toolkit : Host.Toolkit) :
    (sounding speed compatibility random debug display attached toolkit).Coherent attached
      toolkit.soundCalls 0 := by
  cases attached with
  | silent counter =>
    cases ready
    exact ⟨rfl, rfl, (List.append_nil _).symm⟩
  | beeper player =>
    obtain ⟨fresh, -, -⟩ := ready
    have unplayed : { player with playing := false } = player := by rw [← fresh]
    refine ⟨rfl, ?_, (List.append_nil _).symm⟩
    exact congrArg (fun player => some (Audio.beeper player)) unplayed.symm

/-- At every moment of any calls, the beeper is on exactly if the tone is; and right after
a frame or a reset both are exactly if the sound timer runs.  The beeper is told nothing
but the changes of the tone: a silent one counts them, so that their number is odd exactly
if it is on.  One that plays starts and stops its sound in turn, the last call being a
start exactly if it is on; and when it is released the sound is stopped in every case. -/
theorem tone_coherent (speed : Int) (compatibility : Compatibility) (random : RandomBytes)
    (debug : Bool) (display : Option Display) {attached : Audio} (ready : attached.Ready)
    (toolkit : Host.Toolkit) (calls : List Call) :
    let start := sounding speed compatibility random debug display attached toolkit
    start.calls calls = start.operateAll (start.callsOperations calls) ∧
    ∀ done, done <+: start.callsOperations calls →
      let console := start.operateAll done
      let changes := start.flipCount done
      (∀ earlier last, done = earlier ++ [last] → last.settles →
        console.tone = decide (0 < console.machine.sound.value)) ∧
      (∀ counter, attached = .silent counter → ∃ now, console.audio = some (.silent now) ∧
        now.playing = console.tone ∧ now.changes = changes ∧
        (now.changes % 2 = 1 ↔ now.playing)) ∧
      ∀ player, attached = .beeper player → ∃ now, console.audio = some (.beeper now) ∧
        now.playing = console.tone ∧
        console.toolkit.soundCalls = toolkit.soundCalls ++ Tone.alternation changes ∧
        ((Tone.alternation changes).getLast? = some (.play (-1)) ↔ now.playing) ∧
        (now.stop console.toolkit).1.playing = false ∧
        ∃ later, (now.stop console.toolkit).2.soundCalls =
            toolkit.soundCalls ++ Tone.alternation later ∧
          (Tone.alternation later).getLast? ≠ some (.play (-1)) := by
  intro start
  constructor
  · exact start.calls_eq calls
  intro done _ console changes
  have begun : start.Coherent attached toolkit.soundCalls 0 :=
    coherent_sounding speed compatibility random debug display ready toolkit
  have coherent : console.Coherent attached toolkit.soundCalls changes := by
    have after := begun.operateAll ready done
    rw [Nat.zero_add] at after
    exact after
  have odd_iff : changes % 2 = 1 ↔ console.tone = true := by
    rw [coherent.tone, beq_iff_eq]
  refine ⟨?_, ?_, ?_⟩
  · rintro earlier last rfl settles
    have before := begun.operateAll ready earlier
    have console_eq : console = (start.operateAll earlier).operate last := operateAll_append _ _ _
    rw [console_eq]
    exact before.tone_of_settles ready settles
  · rintro counter rfl
    exact ⟨_, coherent.audio, rfl, rfl, odd_iff⟩
  · rintro player rfl
    obtain ⟨silenced, stopped⟩ := coherent.stop ready
    refine ⟨_, coherent.audio, rfl, coherent.sounds, ?_, silenced, _, stopped, ?_⟩
    · rw [Tone.getLast?_alternation]
      exact odd_iff
    · rw [Ne, Tone.getLast?_alternation]
      omega

/-- A reset stops the sound timer. -/
theorem sound_calls_reset (console : Console) (calls : List Call) :
    (console.calls (calls ++ [.reset])).machine.sound.value = 0 := by
  rw [calls_append, calls_cons]
  change (console.calls calls).reset.machine.sound.value = 0
  rw [reset_machine]
  rfl

/-- A beeper that has been started. -/
def openBeeper : Tone.Beeper :=
  { Tone.Beeper.default with isOpen := true, hasSound := true }

/-- A console beside it. -/
def beeping : Console :=
  sounding 8 .reference (.cycle #[]) false none (.beeper openBeeper) {}

/-- A frame of a program that sounds the tone. -/
def beep : List Call :=
  [.load #[0x60, 0xFF, 0xF0, 0x18] none, .frame frameTime]

/-- Whatever happens in the frame, the beeper is off after a reset. -/
theorem beeping_silenced :
    (Audio.beeper openBeeper).Ready ∧ ∃ now count,
      (beeping.calls (beep ++ [.reset])).audio = some (.beeper now) ∧ now.playing = false ∧
      (beeping.calls (beep ++ [.reset])).toolkit.soundCalls = Tone.alternation count ∧
      (Tone.alternation count).getLast? ≠ some (.play (-1)) := by
  have ready : (Audio.beeper openBeeper).Ready := ⟨rfl, rfl, rfl⟩
  obtain ⟨calls_eq, moments⟩ :=
    tone_coherent 8 .reference (.cycle #[]) false none ready {} (beep ++ [.reset])
  rw [← beeping] at calls_eq moments
  obtain ⟨settled, -, playing⟩ := moments _ (List.prefix_refl _)
  obtain ⟨now, audio_eq, playing_eq, sounds, last_iff, -⟩ := playing openBeeper rfl
  rw [← calls_eq] at settled audio_eq playing_eq sounds
  have operations_eq : beeping.callsOperations (beep ++ [.reset]) =
      beeping.callsOperations beep ++ [.command .reset] :=
    beeping.callsOperations_append beep [.reset]
  have stopped : (beeping.calls (beep ++ [.reset])).machine.sound.value = 0 :=
    beeping.sound_calls_reset beep
  have off : now.playing = false := by
    rw [playing_eq, settled _ _ operations_eq rfl, stopped]
    exact decide_eq_false (Nat.lt_irrefl 0)
  refine ⟨ready, now, _, audio_eq, off, sounds.trans (List.nil_append _), ?_⟩
  rw [Ne, last_iff, off]
  exact Bool.false_ne_true

end Console

end ChipEight
