import ChipEight.Host.Window

/-!
# A window in use

Once a window is open it is drawn on, polled and painted, in any order (`Window.Use`).  Of the
window that was opened only the picture drawn last and the need of a repaint change by that
(`Window.exists_use_eq`), so it stays open, with the bindings of its keymap
(`Window.useAll_of_start`).
-/

namespace ChipEight.Host

namespace Toolkit

/-- The events that are taken when they are asked for: none if the user breaks off. -/
def taken (toolkit : Toolkit) : List HostEvent :=
  if toolkit.upcoming.interrupt then [] else toolkit.upcoming.events

theorem frame_nextFrame (toolkit : Toolkit) : toolkit.nextFrame.frame = toolkit.upcoming := by
  simp only [nextFrame]
  split <;> rfl

theorem calls_nextFrame (toolkit : Toolkit) : toolkit.nextFrame.calls = toolkit.calls := by
  simp only [nextFrame]
  split <;> rfl

end Toolkit

namespace Window

/-- What is done with an open window. -/
inductive Use where
  /-- A picture is drawn. -/
  | draw (picture : Picture)
  /-- The waiting events are taken and the keyboard is read. -/
  | poll
  /-- The window is painted if anything has changed, and the frame waited out. -/
  | tick (rate : Int)

/-- A window and its toolkit after a use. -/
def use (state : Window × Toolkit) : Use → Window × Toolkit
  | .draw picture => (state.1.draw picture, state.2)
  | .poll => ((state.1.poll state.2).1, (state.1.poll state.2).2.1)
  | .tick rate => ((state.1.tick state.2 rate).1, (state.1.tick state.2 rate).2.1)

/-- A window and its toolkit after several uses. -/
def useAll (state : Window × Toolkit) (uses : List Use) : Window × Toolkit :=
  uses.foldl use state

variable {window started : Window} {toolkit ready : Toolkit}

/-! ## Opening -/

/-- A window that opens takes on the bindings of its keymap and is to be painted. -/
theorem start_eq_ok (opens : window.start toolkit = (started, ready, .ok ())) :
    started = { window with isOpen := true, bindings := window.keymap.bindings, dirty := true } ∧
      ready.calls.toList = toolkit.calls.toList ++
        [.init, .caption window.title, .setMode window.mode.1.1 window.mode.1.2 window.mode.2,
          .surface window.width window.height] := by
  have uncalled : (if window.software then toolkit.preferSoftware else toolkit).calls =
      toolkit.calls := by
    split <;> rfl
  simp only [start] at opens
  generalize (if window.software then toolkit.preferSoftware else toolkit) = asked
    at opens uncalled
  -- All other ways end in an error.
  split at opens
  · cases opens
  split at opens
  · cases opens
  split at opens
  · cases opens
  split at opens
  · cases opens
  cases opens
  refine ⟨rfl, ?_⟩
  simp [Toolkit.log, uncalled]

/-! ## Uses -/

/-- A poll takes the events and notices whether any of them asks for a repaint. -/
theorem poll_fst (toolkit : Toolkit) (isOpen : window.isOpen = true) :
    (window.poll toolkit).1 =
      { window with dirty := window.dirty || toolkit.taken.any repaints } := by
  have shut : (!window.isOpen) = false := by rw [isOpen, Bool.not_true]
  simp only [poll, shut, Toolkit.frame_nextFrame, Toolkit.taken]
  cases toolkit.upcoming.interrupt with
  | true => simp
  | false =>
    simp only [Bool.false_eq_true, if_false]
    split <;> rfl

theorem poll_toolkit (toolkit : Toolkit) (isOpen : window.isOpen = true) :
    (window.poll toolkit).2.1 = toolkit.nextFrame := by
  simp only [poll, isOpen, Bool.not_true, Bool.false_eq_true, if_false]
  split
  · rfl
  · split <;> rfl

theorem exists_paint_eq (window : Window) (toolkit : Toolkit) :
    ∃ dirty, (window.paint toolkit).1 = { window with dirty := dirty } := by
  simp only [paint]
  split
  · exact ⟨window.dirty, rfl⟩
  · split
    · exact ⟨window.dirty, rfl⟩
    · split
      · exact ⟨window.dirty, rfl⟩
      · exact ⟨false, rfl⟩

theorem tick_fst (window : Window) (toolkit : Toolkit) (rate : Int) :
    (window.tick toolkit rate).1 =
      if window.dirty then (window.paint toolkit).1 else window := by
  rw [tick]
  cases window.dirty with
  | false => rfl
  | true =>
    generalize window.paint toolkit = result
    obtain ⟨painted, after, outcome⟩ := result
    cases outcome <;> rfl

/-- A use changes the picture drawn last and the need of a repaint, and nothing else of the
window. -/
theorem exists_use_eq {state : Window × Toolkit} (isOpen : state.1.isOpen = true) (use : Use) :
    ∃ frame dirty,
      (Window.use state use).1 = { state.1 with frame := frame, dirty := dirty } := by
  cases use with
  | draw picture => exact ⟨some picture, true, rfl⟩
  | poll => exact ⟨state.1.frame, _, poll_fst state.2 isOpen⟩
  | tick rate =>
    obtain ⟨dirty, painted⟩ := state.1.exists_paint_eq state.2
    rw [Window.use, tick_fst]
    split
    · exact ⟨state.1.frame, dirty, painted⟩
    · exact ⟨state.1.frame, state.1.dirty, rfl⟩

theorem exists_useAll_eq (state : Window × Toolkit) (isOpen : state.1.isOpen = true)
    (uses : List Use) :
    ∃ frame dirty, (useAll state uses).1 = { state.1 with frame := frame, dirty := dirty } := by
  induction uses generalizing state with
  | nil => exact ⟨state.1.frame, state.1.dirty, rfl⟩
  | cons first rest ih =>
    obtain ⟨frame, dirty, used⟩ := exists_use_eq isOpen first
    have stillOpen : (use state first).1.isOpen = true := by
      rw [used]
      exact isOpen
    obtain ⟨frame, dirty, usedAll⟩ := ih (use state first) stillOpen
    refine ⟨frame, dirty, usedAll.trans ?_⟩
    rw [used]

/-- A window that has been opened stays open, with the bindings of its keymap, however it is
used. -/
theorem useAll_of_start (opens : window.start toolkit = (started, ready, .ok ()))
    (uses : List Use) :
    (useAll (started, ready) uses).1.isOpen = true ∧
      (useAll (started, ready) uses).1.bindings = window.keymap.bindings := by
  obtain ⟨started_eq, -⟩ := start_eq_ok opens
  have isOpen : started.isOpen = true := by rw [started_eq]
  obtain ⟨frame, dirty, used⟩ := exists_useAll_eq (started, ready) isOpen uses
  rw [used, started_eq]
  exact ⟨rfl, rfl⟩

end Window

end ChipEight.Host
