import ChipEight.Proofs.Console.Operations

/-!
# Frames are only shown

Between two changes of the tone a console asks the toolkit for nothing but to show frames
and to wait them out (`Console.quiet_operate`).  In particular no such operation opens or
closes the window or touches the sound device.  The two operations that bring the tone up
to date, the end of a frame and a reset, are quiet before and after that
(`Console.exists_updateTone_quiet`).
-/

namespace ChipEight

namespace Host

/-- Whether a call is a part of showing a frame. -/
def Call.shows : Call → Bool
  | .pixels .. | .scale .. | .fill .. | .blit .. | .flip | .clock _ => true
  | _ => false

namespace Toolkit

/-- Whether a toolkit has since been asked for nothing but to show frames. -/
structure OnlyShows (toolkit next : Toolkit) : Prop where
  failing : next.failing = toolkit.failing
  calls : ∃ shown : List Call, (∀ call ∈ shown, call.shows) ∧
    next.calls.toList = toolkit.calls.toList ++ shown

variable {toolkit next last : Toolkit}

theorem OnlyShows.refl (toolkit : Toolkit) : toolkit.OnlyShows toolkit :=
  ⟨rfl, [], by simp, by simp⟩

theorem OnlyShows.trans (first : toolkit.OnlyShows next) (second : next.OnlyShows last) :
    toolkit.OnlyShows last := by
  obtain ⟨failing, shown, shows, calls⟩ := first
  obtain ⟨failingLast, shownLast, showsLast, callsLast⟩ := second
  refine ⟨failingLast.trans failing, shown ++ shownLast, ?_, ?_⟩
  · exact List.forall_mem_append.mpr ⟨shows, showsLast⟩
  · rw [callsLast, calls, List.append_assoc]

theorem onlyShows_log (toolkit : Toolkit) {call : Call} (shows : call.shows) :
    toolkit.OnlyShows (toolkit.log call) :=
  ⟨rfl, [call], by simpa using shows, by simp [log]⟩

theorem onlyShows_logAll (toolkit : Toolkit) {calls : List Call}
    (shows : ∀ call ∈ calls, call.shows) : toolkit.OnlyShows (calls.foldl log toolkit) := by
  induction calls generalizing toolkit with
  | nil => exact .refl toolkit
  | cons first rest ih =>
    obtain ⟨firstShows, restShows⟩ := List.forall_mem_cons.mp shows
    exact (toolkit.onlyShows_log firstShows).trans (ih (toolkit.log first) restShows)

theorem onlyShows_nextFrame (toolkit : Toolkit) : toolkit.OnlyShows toolkit.nextFrame := by
  simp only [nextFrame]
  split <;> exact ⟨rfl, [], by simp, by simp [resize]⟩

end Toolkit

namespace Window

/-- Reading the keyboard asks for nothing. -/
theorem onlyShows_poll (window : Window) (toolkit : Toolkit) :
    (window.poll toolkit).1.isOpen = window.isOpen ∧
      toolkit.OnlyShows (window.poll toolkit).2.1 := by
  have begun := toolkit.onlyShows_nextFrame
  simp only [poll]
  split
  · exact ⟨rfl, .refl toolkit⟩
  · split
    · exact ⟨rfl, begun⟩
    · split <;> exact ⟨rfl, begun⟩

theorem shows_paintCalls (width height : Nat) (size : Int × Int) (picture : Picture)
    (image : List UInt8) :
    ∀ call ∈ paintCalls width height size picture image, call.shows := by
  intro call mem
  simp only [paintCalls, List.mem_cons, List.not_mem_nil, or_false] at mem
  rcases mem with rfl | rfl | rfl | rfl | rfl <;> rfl

theorem onlyShows_paint (window : Window) (toolkit : Toolkit) :
    (window.paint toolkit).1.isOpen = window.isOpen ∧
      toolkit.OnlyShows (window.paint toolkit).2.1 := by
  simp only [paint]
  split
  · exact ⟨rfl, .refl toolkit⟩
  · split
    · exact ⟨rfl, .refl toolkit⟩
    · cases window.shown.image window.lit window.dark with
      | error error => exact ⟨rfl, .refl toolkit⟩
      | ok image =>
        refine ⟨rfl, toolkit.onlyShows_logAll ?_⟩
        exact shows_paintCalls window.width window.height toolkit.windowSize window.shown image

theorem onlyShows_tick (window : Window) (toolkit : Toolkit) (rate : Int) :
    (window.tick toolkit rate).1.isOpen = window.isOpen ∧
      toolkit.OnlyShows (window.tick toolkit rate).2.1 := by
  have painted :
      let painting := if window.dirty then window.paint toolkit else (window, toolkit, .ok ())
      painting.1.isOpen = window.isOpen ∧ toolkit.OnlyShows painting.2.1 := by
    cases window.dirty with
    | false => exact ⟨rfl, .refl toolkit⟩
    | true => exact window.onlyShows_paint toolkit
  rw [tick]
  split
  rename_i next after outcome result_eq
  rw [result_eq] at painted
  obtain ⟨isOpen, shows⟩ := painted
  cases outcome with
  | error error => exact ⟨isOpen, shows⟩
  | ok done => exact ⟨isOpen, shows.trans (after.onlyShows_log rfl)⟩

end Window

end Host

namespace Console

/-- Whether a console shows its screens in a window that is open. -/
def windowOpen (console : Console) : Bool :=
  match console.display with
  | some (.window window) => window.isOpen
  | _ => false

/-- Whether the tone and the beeper are as they were, the window is open if it was, and the
toolkit has only been asked to show frames. -/
structure Quiet (console next : Console) : Prop where
  tone : next.tone = console.tone
  audio : next.audio = console.audio
  windowOpen : next.windowOpen = console.windowOpen
  toolkit : console.toolkit.OnlyShows next.toolkit

/-- Whether an operation ends by bringing the tone up to date. -/
def Operation.settles : Operation → Bool
  | .pass _ | .command .reset => true
  | _ => false

/-! ## Drawings do not close the window -/

theorem windowOpen_showScreen (console : Console) :
    console.showScreen.windowOpen = console.windowOpen := by
  simp only [showScreen]
  split <;> rename_i shown <;> simp [windowOpen, shown, Host.Window.draw]

theorem windowOpen_deliverAll (console : Console) (events : List Event) :
    (events.foldl deliver console).windowOpen = console.windowOpen := by
  induction events generalizing console with
  | nil => rfl
  | cons event rest ih =>
    rw [List.foldl_cons, ih]
    cases event with
    | drawn => exact console.windowOpen_showScreen
    | trace | unknown => rfl

theorem windowOpen_step (console : Console) :
    console.step.1.windowOpen = console.windowOpen := by
  have cycled : console.cycle.1.windowOpen = console.windowOpen :=
    windowOpen_deliverAll { console with machine := console.machine.step.machine } _
  cases ended : console.machine.step.outcome with
  | ok executed =>
    rw [step_of_ok ended]
    exact cycled
  | error fault =>
    rw [step_of_error ended]
    exact cycled

theorem windowOpen_queue (console : Console) (commands : List Command) :
    (console.queue commands).windowOpen = console.windowOpen := by
  rw [queue]
  split
  · rename_i shown
    simp [windowOpen, shown]
  · rfl

/-! ## Quiet operations -/

variable {console : Console}

theorem Quiet.refl (console : Console) : console.Quiet console :=
  ⟨rfl, rfl, rfl, .refl console.toolkit⟩

theorem quiet_step (console : Console) : console.Quiet console.step.1 := by
  have isOpen := console.windowOpen_step
  obtain ⟨display, lastFault, paused, notices, stepped⟩ := console.step_eq
  rw [stepped] at isOpen ⊢
  exact ⟨rfl, rfl, isOpen, .refl console.toolkit⟩

theorem quiet_poll (console : Console) : console.Quiet console.poll.1 := by
  rw [poll]
  split
  · exact .refl console
  · rename_i shown
    exact ⟨rfl, rfl, by simp [windowOpen, shown], .refl console.toolkit⟩
  · rename_i window shown
    obtain ⟨isOpen, shows⟩ := window.onlyShows_poll console.toolkit
    have opened : (window.poll console.toolkit).1.isOpen = console.windowOpen := by
      rw [isOpen, windowOpen, shown]
    simp only
    split <;> exact ⟨rfl, rfl, opened, shows⟩

theorem quiet_tick (console : Console) : console.Quiet console.tick.1 := by
  rw [tick]
  split
  · exact .refl console
  · exact .refl console
  · rename_i window shown
    obtain ⟨isOpen, shows⟩ := window.onlyShows_tick console.toolkit frameRate
    have opened : (window.tick console.toolkit frameRate).1.isOpen = console.windowOpen := by
      rw [isOpen, windowOpen, shown]
    exact ⟨rfl, rfl, opened, shows⟩

/-- An operation that does not bring the tone up to date is quiet. -/
theorem quiet_operate (console : Console) {operation : Operation}
    (unsettled : operation.settles = false) : console.Quiet (console.operate operation) := by
  cases operation with
  | step => exact console.quiet_step
  | pass elapsed => contradiction
  | command command =>
    cases command with
    | reset => contradiction
    | _ => exact ⟨rfl, rfl, rfl, .refl console.toolkit⟩
  | poll => exact console.quiet_poll
  | tick => exact console.quiet_tick
  | load program name =>
    obtain ⟨programName, loaded⟩ := console.call_load_eq program name
    rw [operate, loaded]
    exact ⟨rfl, rfl, rfl, .refl console.toolkit⟩
  | keys change => exact ⟨rfl, rfl, rfl, .refl console.toolkit⟩
  | queue commands =>
    have isOpen := console.windowOpen_queue commands
    obtain ⟨display, queued⟩ := console.queue_eq commands
    rw [operate]
    rw [queued] at isOpen ⊢
    exact ⟨rfl, rfl, isOpen, .refl console.toolkit⟩

/-- An operation that brings the tone up to date is quiet before and after that. -/
theorem exists_updateTone_quiet (console : Console) {operation : Operation}
    (settles : operation.settles = true) :
    ∃ before, console.Quiet before ∧ before.updateTone.Quiet (console.operate operation) ∧
      (console.operate operation).machine = before.machine := by
  cases operation with
  | pass elapsed =>
    let before := { console with machine := console.machine.updateTimers elapsed }
    obtain ⟨reportElapsed, reportFrames, notices, reported⟩ := reportFrameRate_eq
      { before.updateTone with frames := before.updateTone.frames + 1 } elapsed
    obtain ⟨tone, audio, toolkit, toned⟩ := before.updateTone_eq
    refine ⟨before, ⟨rfl, rfl, rfl, .refl console.toolkit⟩, ?_⟩
    rw [operate, pass]
    simp only [before] at reported toned ⊢
    rw [reported, toned]
    exact ⟨⟨rfl, rfl, rfl, .refl toolkit⟩, rfl⟩
  | command command =>
    cases command with
    | reset =>
      let fresh := { console.note .resetting with
        machine := console.machine.reset, paused := false, lastFault := none }
      have isOpen : fresh.showScreen.windowOpen = fresh.windowOpen := fresh.windowOpen_showScreen
      obtain ⟨display, shown⟩ := fresh.showScreen_eq
      obtain ⟨tone, audio, toolkit, toned⟩ := fresh.showScreen.updateTone_eq
      refine ⟨fresh.showScreen, ?_, .refl _, ?_⟩
      · rw [shown] at isOpen ⊢
        exact ⟨rfl, rfl, isOpen, .refl console.toolkit⟩
      · change fresh.showScreen.updateTone.machine = fresh.showScreen.machine
        rw [toned]
    | _ => contradiction
  | _ => contradiction

end Console

end ChipEight
