import ChipEight.Proofs.CommandLine.Loading
import ChipEight.Proofs.Console.Showing

/-!
# What a run releases

A run in a window connects to the screen and opens the sound device, and what it holds can
be read off its calls (`Host.Holdings`).  Along a session the console knows what it holds
(`Console.Accounted`), so the release at its end leaves nothing behind, however it ends.

The release stands behind the start of the window and of the sound device.  A run that does
not get that far keeps what it holds by then: the screen, if the window is not opened or
its keymap names a key that the keyboard does not have; and both the screen and the device,
if the device asks for a wave that cannot be computed.  In all other cases nothing is kept
(`CommandLine.left_behind`).
-/

namespace ChipEight

namespace Host

/-! ## Holdings -/

/-- What of the toolkit is held. -/
structure Holdings where
  /-- Whether there is a connection to the screen. -/
  screen : Bool := false
  /-- Whether the sound device is open. -/
  mixer : Bool := false
  /-- Whether the sound is playing. -/
  sounding : Bool := false
  deriving DecidableEq, Repr

namespace Holdings

/-- What is held after a call.  The part that fails to start is not held. -/
def after (failing : Option Service) (held : Holdings) : Call → Holdings
  | .init => if failing = some .screen then held else { held with screen := true }
  | .displayQuit => { held with screen := false }
  | .mixerInit .. => if failing = some .mixer then held else { held with mixer := true }
  | .mixerQuit => { held with mixer := false }
  | .play _ => { held with sounding := true }
  | .soundStop => { held with sounding := false }
  | _ => held

/-- What is held after calls to a toolkit of which nothing was held. -/
def ofCalls (failing : Option Service) (calls : List Call) : Holdings :=
  calls.foldl (after failing) {}

theorem foldl_after_of_shows {failing : Option Service} {shown : List Call}
    (shows : ∀ call ∈ shown, call.shows) (held : Holdings) :
    shown.foldl (after failing) held = held := by
  induction shown generalizing held with
  | nil => rfl
  | cons first rest ih =>
    obtain ⟨firstShows, restShows⟩ := List.forall_mem_cons.mp shows
    have kept : after failing held first = held := by
      cases first with
      | init | displayQuit | mixerInit | mixerQuit | play | soundStop => contradiction
      | _ => rfl
    rw [List.foldl_cons, kept, ih restShows]

end Holdings

namespace Toolkit

/-- What is held after the calls so far. -/
def holdings (toolkit : Toolkit) : Holdings :=
  .ofCalls toolkit.failing toolkit.calls.toList

theorem holdings_log (toolkit : Toolkit) (call : Call) :
    (toolkit.log call).holdings = toolkit.holdings.after toolkit.failing call := by
  rw [holdings, log, Array.toList_push, Holdings.ofCalls, List.foldl_append]
  rfl

theorem OnlyShows.holdings {toolkit next : Toolkit} (shows : toolkit.OnlyShows next) :
    next.holdings = toolkit.holdings := by
  obtain ⟨failing, shown, onlyShown, calls⟩ := shows
  rw [Toolkit.holdings, calls, failing, Holdings.ofCalls, List.foldl_append,
    Holdings.foldl_after_of_shows onlyShown]
  rfl

/-- Whether a connection to the screen is made when it is asked for. -/
def connects (toolkit : Toolkit) : Bool :=
  toolkit.present && !toolkit.fails .screen

/-- Whether the sound device opens, but asks for a wave that cannot be computed. -/
def lacksWave (toolkit : Toolkit) : Bool :=
  !toolkit.fails .mixer &&
    !(Tone.Beeper.default.samples toolkit.mixer.1 toolkit.mixer.2.2).isOk

end Toolkit

/-! ## Opening the window and the device -/

/-- Whether a window opens once there is a connection to the screen. -/
def Window.opens (window : Window) (toolkit : Toolkit) : Bool :=
  !toolkit.fails .window && (window.unknownName? toolkit).isNone

/-- Whether a toolkit answers as another one does, and so much of it is held. -/
structure Toolkit.Holds (toolkit next : Toolkit) (held : Holdings) : Prop where
  failing : next.failing = toolkit.failing
  present : next.present = toolkit.present
  mixer : next.mixer = toolkit.mixer
  keyNames : next.keyNames = toolkit.keyNames
  holdings : next.holdings = held

theorem Toolkit.Holds.log {toolkit next : Toolkit} {held : Holdings}
    (holds : toolkit.Holds next held) (call : Call) :
    toolkit.Holds (next.log call) (held.after toolkit.failing call) where
  failing := holds.failing
  present := holds.present
  mixer := holds.mixer
  keyNames := holds.keyNames
  holdings := by rw [holdings_log, holds.holdings, holds.failing]

/-- The ways in which the start of a window can go. -/
inductive Window.Starts (window : Window) (toolkit : Toolkit) :
    Window × Toolkit × Except WindowError Unit → Prop where
  | unconnected {started : Toolkit} {error : WindowError} (apart : toolkit.connects = false)
      (holds : toolkit.Holds started {}) :
      Starts window toolkit (window, started, .error error)
  | unopened {next : Window} {started : Toolkit} {error : WindowError}
      (connects : toolkit.connects = true) (shut : window.opens toolkit = false)
      (holds : toolkit.Holds started { screen := true }) :
      Starts window toolkit (next, started, .error error)
  | opened {next : Window} {started : Toolkit} (connects : toolkit.connects = true)
      (opens : window.opens toolkit = true) (holds : toolkit.Holds started { screen := true })
      (isOpen : next.isOpen = true) :
      Starts window toolkit (next, started, .ok ())

theorem Window.starts_start (window : Window) {toolkit : Toolkit}
    (fresh : toolkit.holdings = {}) : window.Starts toolkit (window.start toolkit) := by
  have asked : toolkit.Holds (if window.software then toolkit.preferSoftware else toolkit) {} := by
    split <;> exact ⟨rfl, rfl, rfl, rfl, fresh⟩
  simp only [start]
  generalize (if window.software then toolkit.preferSoftware else toolkit) = ready at asked
  have fails_eq {next : Toolkit} {held : Holdings} (holds : toolkit.Holds next held)
      (service : Service) : next.fails service = toolkit.fails service := by
    rw [Toolkit.fails, holds.failing, Toolkit.fails]
  rw [asked.present]
  cases present : toolkit.present with
  | false => exact .unconnected (by simp [Toolkit.connects, present]) asked
  | true =>
    have called := asked.log .init
    rw [if_neg (by simp), fails_eq called]
    cases refused : toolkit.fails .screen with
    | true =>
      have unheld : toolkit.failing = some .screen := eq_of_beq refused
      rw [Holdings.after, if_pos unheld] at called
      exact .unconnected (by simp [Toolkit.connects, refused]) called
    | false =>
      have connects : toolkit.connects = true := by simp [Toolkit.connects, present, refused]
      rw [Holdings.after, if_neg (ne_of_beq_false refused)] at called
      generalize ready.log .init = connected at called
      have asking := (called.log (.caption window.title)).log
        (.setMode window.mode.1.1 window.mode.1.2 window.mode.2)
      rw [if_neg (by simp)]
      simp only [fails_eq asking]
      generalize (connected.log _).log _ = titled at asking
      cases barred : toolkit.fails .window with
      | true => exact .unopened connects (by simp [opens, barred]) asking
      | false =>
        have opening : toolkit.Holds { titled with opened := window.mode.1 } { screen := true } :=
          ⟨asking.failing, asking.present, asking.mixer, asking.keyNames, asking.holdings⟩
        have surfaced := opening.log (.surface window.width window.height)
        have unknown_eq : window.unknownName? (Toolkit.log { titled with opened := window.mode.1 }
            (.surface window.width window.height)) = window.unknownName? toolkit := by
          simp only [unknownName?, Toolkit.knowsKey, surfaced.keyNames]
        rw [if_neg (by simp), unknown_eq]
        cases unknown : window.unknownName? toolkit with
        | some name => exact .unopened connects (by simp [opens, unknown]) surfaced
        | none => exact .opened connects (by simp [opens, barred, unknown]) surfaced rfl

end Host

namespace Tone

open Host

/-- The ways in which the start of a beeper can go where there is a toolkit of which so much
is held. -/
inductive Beeper.Starts (beeper : Beeper) (toolkit : Toolkit) (held : Holdings) :
    Beeper × Toolkit × Except SoundError Unit → Prop where
  | refused {started : Toolkit} {text : String} (fails : toolkit.fails .mixer = true)
      (holds : toolkit.Holds started held) :
      Starts beeper toolkit held (beeper, started, .error (.refused text))
  | waveless {next : Beeper} {started : Toolkit} {error : WaveError}
      (works : toolkit.fails .mixer = false)
      (lacks : (beeper.samples toolkit.mixer.1 toolkit.mixer.2.2).isOk = false)
      (holds : toolkit.Holds started { held with mixer := true }) :
      Starts beeper toolkit held (next, started, .error (.wave error))
  | opened {next : Beeper} {started : Toolkit} (works : toolkit.fails .mixer = false)
      (computes : (beeper.samples toolkit.mixer.1 toolkit.mixer.2.2).isOk = true)
      (holds : toolkit.Holds started { held with mixer := true }) (isOpen : next.isOpen = true)
      (hasSound : next.hasSound = true) (silent : next.playing = beeper.playing) :
      Starts beeper toolkit held (next, started, .ok ())

theorem Beeper.starts_start (beeper : Beeper) {toolkit : Toolkit} {held : Holdings}
    (present : toolkit.present = true) (holding : toolkit.holdings = held) :
    beeper.Starts toolkit held (beeper.start toolkit) := by
  have called := Toolkit.Holds.log ⟨rfl, rfl, rfl, rfl, holding⟩ (.mixerInit beeper.rate (-16) 1)
  have fails_eq : (toolkit.log (.mixerInit beeper.rate (-16) 1)).fails .mixer =
      toolkit.fails .mixer := rfl
  have mixer_eq : (toolkit.log (.mixerInit beeper.rate (-16) 1)).mixer = toolkit.mixer := rfl
  simp only [start, fails_eq, mixer_eq]
  rw [present, if_neg (by simp)]
  cases fails : toolkit.fails .mixer with
  | true =>
    rw [Holdings.after, if_pos (eq_of_beq fails)] at called
    exact .refused fails called
  | false =>
    rw [Holdings.after, if_neg (ne_of_beq_false fails)] at called
    rw [if_neg (by simp)]
    cases computed : beeper.samples toolkit.mixer.1 toolkit.mixer.2.2 with
    | error error => exact .waveless fails (by rw [computed]; rfl) called
    | ok samples =>
      exact .opened fails (by rw [computed]; rfl) (called.log (.makeSound samples _)) rfl rfl rfl

/-- A beeper with a sound starts or stops it as it is told. -/
theorem Beeper.setTone_holds {beeper : Beeper} {toolkit : Toolkit} {held : Holdings}
    (hasSound : beeper.hasSound = true)
    (holding : toolkit.holdings = { held with sounding := beeper.playing }) (on : Bool) :
    let result := beeper.setTone toolkit on
    result.1 = { beeper with playing := on } ∧ result.2.failing = toolkit.failing ∧
      result.2.holdings = { held with sounding := on } := by
  by_cases same : on = beeper.playing
  · subst same
    simp [setTone, holding]
  · have told : beeper.setTone toolkit on =
        ({ beeper with playing := on },
          toolkit.log (if on then .play (-1) else .soundStop)) := by
      simp [setTone, hasSound, same]
    rw [told]
    refine ⟨rfl, rfl, ?_⟩
    rw [Toolkit.holdings_log, holding]
    cases on <;> rfl

/-- A beeper that has been started leaves neither the sound nor the device behind. -/
theorem Beeper.stop_holds {beeper : Beeper} {toolkit : Toolkit} {held : Holdings}
    (isOpen : beeper.isOpen = true) (hasSound : beeper.hasSound = true)
    (holding : toolkit.holdings = { held with sounding := beeper.playing }) :
    (beeper.stop toolkit).2.failing = toolkit.failing ∧
      (beeper.stop toolkit).2.holdings = { held with mixer := false, sounding := false } := by
  obtain ⟨-, failing, silenced⟩ := setTone_holds hasSound holding false
  simp only [stop, isOpen, if_true]
  refine ⟨failing, ?_⟩
  rw [Toolkit.holdings_log, silenced]
  rfl

end Tone

namespace Console

open Host

/-! ## Along a session -/

/-- What a console takes itself to hold: a window, and a beeper that may be playing. -/
def ownHoldings (console : Console) : Holdings where
  screen := console.windowOpen
  mixer := match console.audio with
    | some (.beeper beeper) => beeper.isOpen
    | _ => false
  sounding := match console.audio with
    | some (.beeper beeper) => beeper.playing
    | _ => false

/-- Whether a console knows what is held, and its beeper has been started if it plays. -/
structure Accounted (failing : Option Service) (console : Console) : Prop where
  failing : console.toolkit.failing = failing
  holdings : console.toolkit.holdings = console.ownHoldings
  started : ∀ beeper, console.audio = some (.beeper beeper) →
    beeper.isOpen = true ∧ beeper.hasSound = true

variable {failing : Option Service} {console next : Console}

theorem Accounted.of_quiet (accounted : console.Accounted failing) (quiet : console.Quiet next) :
    next.Accounted failing where
  failing := quiet.toolkit.failing.trans accounted.failing
  holdings := by
    rw [quiet.toolkit.holdings, accounted.holdings, ownHoldings, ownHoldings, quiet.audio,
      quiet.windowOpen]
  started beeper attached := accounted.started beeper (quiet.audio ▸ attached)

/-- A change of the tone starts or stops the sound, and nothing else. -/
theorem Accounted.updateTone (accounted : console.Accounted failing) :
    console.updateTone.Accounted failing := by
  obtain ⟨fails, holdings, started⟩ := accounted
  simp only [Console.updateTone]
  split
  · exact ⟨fails, holdings, started⟩
  · split
    · rename_i attached
      refine ⟨fails, holdings.trans ?_, ?_⟩
      · simp [ownHoldings, windowOpen, attached]
      · simp [attached]
    · rename_i attached
      refine ⟨fails, holdings.trans ?_, ?_⟩
      · simp [ownHoldings, windowOpen, attached]
      · simp
    · rename_i beeper attached
      obtain ⟨isOpen, hasSound⟩ := started beeper attached
      have held : console.toolkit.holdings =
          { console.ownHoldings with sounding := beeper.playing } := by
        rw [holdings, ownHoldings, attached]
      obtain ⟨told, failing_eq, holding⟩ :=
        Tone.Beeper.setTone_holds hasSound held console.machine.tone
      refine ⟨failing_eq.trans fails, holding.trans ?_, ?_⟩
      · simp [told, ownHoldings, windowOpen, attached]
      · simp [told, isOpen, hasSound]

theorem Accounted.operate (accounted : console.Accounted failing) (operation : Operation) :
    (console.operate operation).Accounted failing := by
  cases settles : operation.settles with
  | false => exact accounted.of_quiet (console.quiet_operate settles)
  | true =>
    obtain ⟨before, quiet, updated, -⟩ := console.exists_updateTone_quiet settles
    exact (accounted.of_quiet quiet).updateTone.of_quiet updated

theorem Accounted.operateAll (accounted : console.Accounted failing)
    (operations : List Operation) : (console.operateAll operations).Accounted failing := by
  induction operations generalizing console with
  | nil => exact accounted
  | cons first rest ih => exact ih (accounted.operate first)

end Console

namespace CommandLine

open Host

variable {failing : Option Service} {console : Console} {options : Options}

/-! ## The release -/

/-- The toolkit once the sound device has been released. -/
def silence (console : Console) : Toolkit :=
  match console.audio with
  | some (.beeper beeper) => (beeper.stop console.toolkit).2
  | _ => console.toolkit

theorem release_eq (console : Console) :
    release console =
      match console.display with
      | some (.window window) => (window.stop (silence console)).2
      | _ => silence console := rfl

/-- Only the screen is held then. -/
theorem holdings_silence (accounted : console.Accounted failing) :
    (silence console).failing = failing ∧
      (silence console).holdings = { screen := console.windowOpen } := by
  obtain ⟨fails, holdings, started⟩ := accounted
  rw [silence]
  split
  · rename_i beeper attached
    obtain ⟨isOpen, hasSound⟩ := started beeper attached
    have held : console.toolkit.holdings =
        { console.ownHoldings with sounding := beeper.playing } := by
      rw [holdings, Console.ownHoldings, attached]
    obtain ⟨failing_eq, released⟩ := Tone.Beeper.stop_holds isOpen hasSound held
    exact ⟨failing_eq.trans fails, released⟩
  · rename_i noBeeper
    refine ⟨fails, holdings.trans ?_⟩
    rw [Console.ownHoldings]
    split
    · exact absurd ‹_› (noBeeper _)
    · rfl

/-- A console that knows what is held releases all of it. -/
theorem release_holdings (accounted : console.Accounted failing) :
    Holdings.ofCalls failing (release console).calls.toList = {} := by
  obtain ⟨fails, held⟩ := holdings_silence accounted
  rw [release_eq, ← fails]
  split
  · rename_i window shown
    have opened : console.windowOpen = window.isOpen := by
      rw [Console.windowOpen, shown]
    rw [opened] at held
    cases isOpen : window.isOpen with
    | false =>
      have unchanged : (window.stop (silence console)).2 = silence console := by
        simp [Window.stop, isOpen]
      rw [unchanged]
      rw [isOpen] at held
      exact held
    | true =>
      have closed : (window.stop (silence console)).2 = (silence console).log .displayQuit := by
        simp [Window.stop, isOpen]
      have quit := (silence console).holdings_log .displayQuit
      rw [closed]
      rw [held] at quit
      exact quit
  · rename_i noWindow
    have unopened : console.windowOpen = false := by
      rw [Console.windowOpen]
      split
      · exact absurd ‹_› (noWindow _)
      · rfl
    rw [unopened] at held
    exact held

/-- However a session ends, what it held is released. -/
theorem runShown_holdings (accounted : console.Accounted failing) :
    Holdings.ofCalls failing (runShown options console).calls.toList = {} := by
  have finished (budget : Nat) :
      Holdings.ofCalls failing (finish (console.runFrom 0 budget)).calls.toList = {} := by
    have calls_eq : (finish (console.runFrom 0 budget)).calls =
        (release (console.runFrom 0 budget).console).calls := by
      simp only [finish, Outcome.after]
      split <;> rfl
    rw [calls_eq, Console.runFrom_eq_operateAll]
    exact release_holdings (accounted.operateAll _)
  rw [runShown]
  split
  · exact finished _
  · exact finished _
  · exact release_holdings accounted

/-! ## The whole run -/

/-- What a run in a window leaves behind. -/
def leftBehind (toolkit : Toolkit) (window : Window) : Holdings :=
  if !toolkit.connects then {}
  else if !window.opens toolkit then { screen := true }
  else if toolkit.lacksWave then { screen := true, mixer := true }
  else {}

/-- A run with an open window keeps it, and the sound device, if there is no wave. -/
theorem runSounding_holdings {toolkit : Toolkit} (present : toolkit.present = true)
    (holds : toolkit.Holds console.toolkit { screen := true })
    (opened : console.windowOpen = true) :
    Holdings.ofCalls toolkit.failing (runSounding options console).calls.toList =
      if toolkit.lacksWave then { screen := true, mixer := true } else {} := by
  have starts := Tone.Beeper.default.starts_start (holds.present.trans present) holds.holdings
  have lacks_eq : toolkit.lacksWave = console.toolkit.lacksWave := by
    simp only [Toolkit.lacksWave, Toolkit.fails, holds.failing, holds.mixer]
  rw [runSounding, lacks_eq, ← holds.failing, Toolkit.lacksWave]
  generalize Tone.Beeper.default.start console.toolkit = result at starts
  cases starts with
  | @refused started text fails held =>
    rw [fails]
    have accounted : Console.Accounted console.toolkit.failing
        { console with toolkit := started, audio := some (.silent {}) } := by
      refine ⟨held.failing, held.holdings.trans ?_, by simp⟩
      simp [Console.ownHoldings, ← opened, Console.windowOpen]
    exact runShown_holdings accounted
  | waveless works lacks held =>
    rw [works, lacks]
    rw [← held.failing]
    exact held.holdings
  | @opened beeper started works computes held isOpen hasSound silent =>
    rw [works, computes]
    have accounted : Console.Accounted console.toolkit.failing
        { console with toolkit := started, audio := some (.beeper beeper) } := by
      refine ⟨held.failing, held.holdings.trans ?_, ?_⟩
      · simp [Console.ownHoldings, ← opened, Console.windowOpen, isOpen, silent,
          Tone.Beeper.default]
      · rintro _ attached
        cases attached
        exact ⟨isOpen, hasSound⟩
    exact runShown_holdings accounted

theorem runWindow_holdings {keymap : Keymap} {window : Window}
    (created : createWindow options keymap = .ok window) (console : Console) {toolkit : Toolkit}
    (fresh : toolkit.holdings = {}) :
    Holdings.ofCalls toolkit.failing (runWindow options keymap console toolkit).calls.toList =
      leftBehind toolkit window := by
  have starts := window.starts_start fresh
  simp only [runWindow, created, leftBehind]
  generalize window.start toolkit = result at starts
  cases starts with
  | unconnected apart held =>
    rw [apart, ← held.failing]
    exact held.holdings
  | unopened connects shut held =>
    rw [connects, shut, ← held.failing]
    exact held.holdings
  | @opened next started connects opens held isOpen =>
    have present : toolkit.present = true := by
      rw [Toolkit.connects, Bool.and_eq_true] at connects
      exact connects.1
    let shown := { console with display := some (.window next), toolkit := started }
    have shownOpen : shown.windowOpen = true := isOpen
    rw [connects, opens]
    exact runSounding_holdings present held shownOpen

/-- The window that a command line asks for, if the run gets as far as making it. -/
def windowOf (arguments : List String) (files : Files) (generator : RandomBytes.Generator) :
    Option Window :=
  match Request.ofArguments arguments with
  | .error _ => none
  | .ok request =>
    match loadKeymap request.options files, loadConsole request files generator with
    | .ok keymap, .ok _ =>
      if request.options.disassemble || request.options.monitor || request.options.headless then
        none
      else (createWindow request.options keymap).toOption
    | _, _ => none

/-! ### Runs without a window ask the toolkit for nothing -/

theorem calls_keymapOutcome (error : Keymap.LoadError) : (keymapOutcome error).calls = #[] := by
  rw [keymapOutcome.eq_def]
  split <;> rfl

theorem calls_consoleOutcome (name : String) (error : ConsoleError) :
    (consoleOutcome name error).calls = #[] := by
  rw [consoleOutcome.eq_def]
  split <;> rfl

theorem calls_list (console : Console) : (list console).calls = #[] := by
  simp only [list]
  split <;> rfl

theorem calls_runHeadless (options : Options) (console : Console) :
    (runHeadless options console).calls = #[] := by
  rw [runHeadless]
  split <;> rfl

theorem calls_runWindow_of_error {keymap : Keymap} {error : OpeningError}
    (refused : createWindow options keymap = .error error) (console : Console)
    (toolkit : Toolkit) : (runWindow options keymap console toolkit).calls = #[] := by
  rw [runWindow, refused]
  cases error <;> rfl

/-- What is held after a run: what the run in its window has left behind, if there was one. -/
theorem holdings_run (arguments : List String) (files : Files) (input : String)
    (generator : RandomBytes.Generator) (toolkit : Toolkit) :
    Holdings.ofCalls toolkit.failing
        (run arguments files input generator toolkit.clearCalls).calls.toList =
      match windowOf arguments files generator with
      | some window => leftBehind toolkit window
      | none => {} := by
  have nothing {outcome : Outcome} (uncalled : outcome.calls = #[]) :
      Holdings.ofCalls toolkit.failing outcome.calls.toList = {} := by
    rw [uncalled]
    rfl
  rw [run, plan, windowOf]
  cases Request.ofArguments arguments with
  | error stop => cases stop <;> rfl
  | ok request =>
    simp only [Request.plan]
    cases loadKeymap request.options files with
    | error error => exact nothing (calls_keymapOutcome error)
    | ok keymap =>
      cases loadConsole request files generator with
      | error error => exact nothing (calls_consoleOutcome request.program error)
      | ok console =>
        cases lists : request.options.disassemble with
        | true => exact nothing (calls_list console)
        | false =>
          cases monitors : request.options.monitor with
          | true => rfl
          | false =>
            cases headless : request.options.headless with
            | true => exact nothing (calls_runHeadless request.options console)
            | false =>
              change Holdings.ofCalls toolkit.failing
                  (runWindow request.options keymap console toolkit.clearCalls).calls.toList =
                match (createWindow request.options keymap).toOption with
                | some window => leftBehind toolkit window
                | none => {}
              cases created : createWindow request.options keymap with
              | error error => exact nothing (calls_runWindow_of_error created console _)
              | ok window =>
                have fresh : toolkit.clearCalls.holdings = {} := rfl
                exact runWindow_holdings created console fresh

/-- The sound is off after every run.  The screen is held exactly if a window was to be
started, there was a connection to the screen, and either the window did not open, whether
the toolkit refused it or its keymap names a key that the keyboard does not have, or the
sound device opened and asked for a wave that cannot be computed.  The device is held
exactly in the last case.  So a run that gets its window and its sound started releases
both, however its frames end. -/
theorem left_behind (arguments : List String) (files : Files) (input : String)
    (generator : RandomBytes.Generator) (toolkit : Toolkit) :
    let outcome := run arguments files input generator toolkit.clearCalls
    let held := Holdings.ofCalls toolkit.failing outcome.calls.toList
    held.sounding = false ∧
      (held.screen = true ↔ ∃ window, windowOf arguments files generator = some window ∧
        toolkit.connects ∧ (¬ window.opens toolkit ∨ toolkit.lacksWave)) ∧
      (held.mixer = true ↔ ∃ window, windowOf arguments files generator = some window ∧
        toolkit.connects ∧ window.opens toolkit ∧ toolkit.lacksWave) := by
  intro outcome held
  have held_eq : held = _ := holdings_run arguments files input generator toolkit
  rw [held_eq]
  cases windowOf arguments files generator with
  | none => simp
  | some window =>
    simp only [leftBehind, Option.some.injEq, exists_eq_left']
    cases toolkit.connects <;> cases window.opens toolkit <;> cases toolkit.lacksWave <;> simp

/-- A program, and a keymap that binds a key which no keyboard has. -/
def strangeFiles : Files :=
  .ofList [("g.ch8", .file #[0x12, 0x00]),
    ("k.json", .file "[\x7b\"name\":\"bogus key\",\"key\":5\x7d]".toUTF8.data)]

/-- The options of a run with that keymap. -/
def strangeOptions : Options :=
  { keymap := some "k.json" }

/-- The window such a run starts. -/
def strangeWindow : Window where
  width := 64
  height := 32
  scale := 10
  lit := ⟨0x8b, 0xac, 0x0f⟩
  dark := ⟨0x0f, 0x38, 0x0f⟩
  fullscreen := false
  software := false
  keymap := Keymap.merge ⟨[("bogus key", 5)]⟩ .layout
  title := "Chip8"
  isOpen := false
  bindings := []
  frame := none
  dirty := true

theorem loadKeymap_strange :
    loadKeymap strangeOptions strangeFiles = .ok strangeWindow.keymap := by
  have read : strangeFiles.read (Path.ofString "k.json") =
      .ok "[\x7b\"name\":\"bogus key\",\"key\":5\x7d]".toUTF8.data :=
    Files.read_eq_ok (by decide +kernel) (by decide +kernel) (by decide +kernel)
  change Keymap.load strangeFiles "k.json" keymapLevels = _
  rw [Keymap.load, read]
  decide +kernel

/-- A run that asks for a strange key reports it, ends, and leaves the screen connected. -/
theorem strangeKey_left_behind :
    let outcome := run ["g.ch8", "--keymap", "k.json"] strangeFiles "" (fun _ => .cycle #[]) {}
    outcome.calls = #[.init, .caption "Chip8", .setMode 640 320 16, .surface 64 32] ∧
      outcome.ending = .exit 1 ∧
      (Holdings.ofCalls none outcome.calls.toList).screen = true := by
  intro outcome
  let request : Request := { program := "g.ch8", options := strangeOptions }
  have parsed : Request.ofArguments ["g.ch8", "--keymap", "k.json"] = .ok request := rfl
  have read : strangeFiles.read (Path.ofString "g.ch8") = .ok #[0x12, 0x00] :=
    Files.read_eq_ok (by decide +kernel) (by decide +kernel) (by decide +kernel)
  have asked : request.options.seed ≠ .blank := nofun
  have small : #[0x12, 0x00].size ≤ programRoom := by decide
  obtain ⟨source, loads⟩ := loadConsole_eq rfl rfl asked read small fun _ => .cycle #[]
  have created : createWindow strangeOptions strangeWindow.keymap = .ok strangeWindow := rfl
  obtain ⟨calls_eq, refused⟩ : (strangeWindow.start {}).2.1.calls =
        #[.init, .caption "Chip8", .setMode 640 320 16, .surface 64 32] ∧
      (strangeWindow.start {}).2.2 = .error (.keymap (.unknownName "bogus key")) := by
    decide +kernel
  have ran : outcome.calls = (strangeWindow.start {}).2.1.calls ∧ outcome.ending = .exit 1 := by
    simp only [outcome, run, plan, parsed, Request.plan, request, loadKeymap_strange, loads]
    change (runWindow strangeOptions strangeWindow.keymap _ {}).calls = _ ∧
      (runWindow strangeOptions strangeWindow.keymap _ {}).ending = _
    simp only [runWindow, created]
    generalize strangeWindow.start {} = result at refused
    obtain ⟨next, toolkit, ended⟩ := result
    cases refused
    exact ⟨rfl, rfl⟩
  obtain ⟨called, ending⟩ := ran
  rw [called, calls_eq]
  exact ⟨rfl, ending, rfl⟩

end CommandLine

end ChipEight
