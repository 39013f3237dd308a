import ChipEight.Proofs.Host.Painting
import ChipEight.Proofs.Host.Usage
import ChipEight.Proofs.Screen.Image
import Mathlib.Data.List.DropRight

/-!
# What a window shows

The calls to the toolkit tell which image a window shows: the one that was on the surface when
the surface was scaled and put in the window, at the time the window was shown last (`Canvas`).

A repaint is due at the first tick, and whenever a picture has been drawn or the window has been
resized or exposed since the last repaint (`due`).  A window can be painted if it is for screens
with cells, its picture has rows and the components of its colours are bytes
(`Window.Paintable`).  A tick repaints exactly if a repaint is due and the window can be
painted, and a window that can be painted shows the picture drawn last after every tick
(`Window.repaints_when_due`).  The colours of a window need not be bytes, for
`Colour.parse` reads signs: such a window opens, and its first tick fails
(`Window.signed_unpainted`).
-/

namespace ChipEight.Host

/-! ## Canvases -/

/-- Where the images are that the toolkit was given. -/
structure Canvas where
  /-- The image on the surface. -/
  surface : Option Image := none
  /-- The image on the scaled surface. -/
  scaled : Option Image := none
  /-- The image put in the window since the window was filled. -/
  back : Option Image := none
  /-- The image in the window when the window was shown last. -/
  front : Option Image := none
  /-- How often the window was shown. -/
  flips : Nat := 0
  deriving DecidableEq, Repr

/-- The canvas after a call. -/
def Canvas.after (canvas : Canvas) : Call → Canvas
  | .setMode _ _ _ => {}
  | .surface _ _ => { canvas with surface := none }
  | .pixels width height image => { canvas with surface := some ⟨width, height, image⟩ }
  | .scale _ _ => { canvas with scaled := canvas.surface }
  | .fill _ _ _ => { canvas with back := none }
  | .blit _ _ => { canvas with back := canvas.scaled }
  | .flip => { canvas with front := canvas.back, flips := canvas.flips + 1 }
  | _ => canvas

namespace Toolkit

/-- The canvas after all calls so far. -/
def canvas (toolkit : Toolkit) : Canvas :=
  toolkit.calls.toList.foldl .after {}

theorem canvas_of_calls {toolkit other : Toolkit} {calls : List Call}
    (more : other.calls.toList = toolkit.calls.toList ++ calls) :
    other.canvas = calls.foldl .after toolkit.canvas := by
  rw [canvas, more, List.foldl_append]
  rfl

theorem canvas_nextFrame (toolkit : Toolkit) : toolkit.nextFrame.canvas = toolkit.canvas := by
  rw [canvas, calls_nextFrame]
  rfl

theorem canvas_clock (toolkit : Toolkit) (rate : Int) :
    (toolkit.log (.clock rate)).canvas = toolkit.canvas := by
  have logged : (toolkit.log (.clock rate)).calls.toList = toolkit.calls.toList ++ [.clock rate] :=
    Array.toList_push
  exact canvas_of_calls logged

theorem frame_logAll (toolkit : Toolkit) (calls : List Call) :
    (calls.foldl log toolkit).frame = toolkit.frame := by
  induction calls generalizing toolkit with
  | nil => rfl
  | cons first rest ih => exact ih (toolkit.log first)

end Toolkit

/-! ## What happens to a window -/

/-- Something that happens to a window in use. -/
inductive Happening where
  /-- A picture is drawn. -/
  | drawn (picture : Picture)
  /-- An event is taken. -/
  | event (event : HostEvent)
  /-- A tick, at which the window is repainted or not. -/
  | tick (repainted : Bool)

namespace Happening

/-- The picture that is drawn. -/
def picture? : Happening → Option Picture
  | drawn picture => some picture
  | _ => none

/-- Whether there is anything new to show, or the window has to be shown anew. -/
def changes : Happening → Bool
  | drawn _ | event .resize | event .expose => true
  | _ => false

/-- Whether a frame ends. -/
def isTick : Happening → Bool
  | tick _ => true
  | _ => false

/-- Whether the window is repainted. -/
def isRepaint : Happening → Bool
  | tick repainted => repainted
  | _ => false

theorem changes_event (event : HostEvent) :
    (Happening.event event).changes = Window.repaints event := by
  cases event <;> rfl

end Happening

/-- The picture drawn last. -/
def lastDrawn (past : List Happening) : Option Picture :=
  (past.filterMap Happening.picture?).getLast?

/-- Whether a repaint is due: no frame has ended yet, or something has changed since the last
repaint. -/
def due (past : List Happening) : Bool :=
  !past.any Happening.isTick ||
    (past.rtakeWhile fun happening => !happening.isRepaint).any Happening.changes

theorem lastDrawn_append (past more : List Happening) :
    lastDrawn (past ++ more) = (lastDrawn more).or (lastDrawn past) := by
  rw [lastDrawn, List.filterMap_append, List.getLast?_append]
  rfl

theorem lastDrawn_events (past : List Happening) (events : List HostEvent) :
    lastDrawn (past ++ events.map .event) = lastDrawn past := by
  have none_drawn : (events.map Happening.event).filterMap Happening.picture? = [] := by
    simp [Happening.picture?]
  rw [lastDrawn_append, lastDrawn, none_drawn]
  rfl

theorem due_append {past : List Happening} {happening : Happening}
    (running : happening.isTick = false) :
    due (past ++ [happening]) = (due past || happening.changes) := by
  have unpainted : happening.isRepaint = false := by
    cases happening <;> first | rfl | contradiction
  simp [due, running, unpainted, Bool.or_assoc]

theorem due_events (past : List Happening) (events : List HostEvent) :
    due (past ++ events.map .event) = (due past || events.any Window.repaints) := by
  induction events generalizing past with
  | nil => simp
  | cons first rest ih =>
    rw [List.map_cons, List.append_cons, ih, due_append rfl, Happening.changes_event,
      List.any_cons, Bool.or_assoc]

/-- Right after a repaint none is due. -/
theorem due_repainted (past : List Happening) : due (past ++ [.tick true]) = false := by
  simp [due, Happening.isTick, Happening.isRepaint]

/-- A tick without a repaint does not make one due. -/
theorem due_unpainted {past : List Happening} (undue : due past = false) :
    due (past ++ [.tick false]) = false := by
  rw [due, Bool.or_eq_false_iff] at undue
  simpa [due, Happening.isTick, Happening.isRepaint, Happening.changes] using undue.2

namespace Window

/-- What a use makes happen.  At a tick the window is repainted if it is shown anew. -/
def happenings (state : Window × Toolkit) : Use → List Happening
  | .draw picture => [.drawn picture]
  | .poll => state.2.taken.map .event
  | .tick rate => [.tick (state.2.canvas.flips < (use state (.tick rate)).2.canvas.flips)]

/-- What several uses make happen, in order. -/
def history (state : Window × Toolkit) : List Use → List Happening
  | [] => []
  | first :: rest => happenings state first ++ history (use state first) rest

/-! ## Ticks -/

/-- Whether a window can be painted with a picture. -/
def Paintable (window : Window) (picture : Picture) : Prop :=
  (0 < window.width ∧ 0 < window.height) ∧ 0 < picture.height ∧
    window.lit.IsPaint ∧ window.dark.IsPaint

instance (window : Window) (picture : Picture) : Decidable (Paintable window picture) :=
  inferInstanceAs (Decidable (_ ∧ _))

/-- Whether a toolkit shows the picture of a window. -/
def IsShown (state : Window × Toolkit) : Prop :=
  ∃ image, state.2.canvas.front = some image ∧
    image.Shows state.1.shown state.1.lit state.1.dark

variable {window : Window} {toolkit : Toolkit} {rate : Int}

/-- A window that can be painted shows its picture after it has been painted. -/
theorem exists_paint (toolkit : Toolkit) (isOpen : window.isOpen = true)
    (paintable : Paintable window window.shown) :
    ∃ painted : Toolkit, window.paint toolkit = ({ window with dirty := false }, painted, .ok ()) ∧
      painted.frame = toolkit.frame ∧ painted.canvas.flips = toolkit.canvas.flips + 1 ∧
      IsShown (window, painted) := by
  obtain ⟨⟨wide, tall⟩, rows, litPaint, darkPaint⟩ := paintable
  obtain ⟨bytes, imaged, shows⟩ := Picture.exists_image rows litPaint darkPaint
  have painted := paint_eq toolkit isOpen wide tall imaged
  have canvas_eq := Toolkit.canvas_of_calls (Toolkit.toList_calls_logAll toolkit
    (paintCalls window.width window.height toolkit.windowSize window.shown bytes))
  exact ⟨_, painted, Toolkit.frame_logAll _ _, congrArg Canvas.flips canvas_eq, _,
    congrArg Canvas.front canvas_eq, shows⟩

/-- A window that cannot be painted fails to be, and nothing is done. -/
theorem exists_paint_error (toolkit : Toolkit) (isOpen : window.isOpen = true)
    (unpaintable : ¬ Paintable window window.shown) :
    ∃ error, window.paint toolkit = (window, toolkit, .error error) := by
  simp only [paint, isOpen, Bool.not_true, Bool.false_eq_true, if_false]
  split
  · exact ⟨_, rfl⟩
  · rename_i cells
    cases imaged : window.shown.image window.lit window.dark with
    | error error => exact ⟨_, rfl⟩
    | ok image =>
      have sized : 0 < window.width ∧ 0 < window.height := by omega
      exact absurd ⟨sized, Picture.of_image imaged⟩ unpaintable

/-- Whether the frame under way takes a time that is too large for a floating point number. -/
def TooLong (toolkit : Toolkit) : Prop :=
  Bounds.floatLimit ≤ toolkit.frame.milliseconds.natAbs

/-- What a tick gives that does not fail before the frame has been waited out. -/
def elapsed (toolkit : Toolkit) : Except WindowError Float :=
  ((Bounds.float toolkit.frame.milliseconds).mapError .tooLarge).map (· / 1000.0)

theorem exists_elapsed_error_iff (toolkit : Toolkit) :
    (∃ error, elapsed toolkit = .error error) ↔ TooLong toolkit := by
  rw [elapsed, Bounds.float, TooLong]
  by_cases small : toolkit.frame.milliseconds.natAbs < Bounds.floatLimit
  · rw [if_pos small]
    refine iff_of_false ?_ (Nat.not_le.mpr small)
    rintro ⟨_, failed⟩
    cases failed
  · rw [if_neg small]
    exact iff_of_true ⟨_, rfl⟩ (Nat.not_lt.mp small)

theorem tick_of_clean (clean : window.dirty = false) :
    window.tick toolkit rate = (window, toolkit.log (.clock rate), elapsed toolkit) := by
  rw [tick, clean]
  rfl

theorem exists_tick_of_paintable (isOpen : window.isOpen = true) (dirty : window.dirty = true)
    (paintable : Paintable window window.shown) :
    ∃ painted : Toolkit,
      window.tick toolkit rate = ({ window with dirty := false }, painted, elapsed toolkit) ∧
      painted.canvas.flips = toolkit.canvas.flips + 1 ∧ IsShown (window, painted) := by
  obtain ⟨painted, paint_eq, frame_eq, flips_eq, shown⟩ :=
    exists_paint toolkit isOpen paintable
  refine ⟨painted.log (.clock rate), ?_, ?_, ?_⟩
  · rw [tick, dirty, if_pos rfl, paint_eq, elapsed, ← frame_eq]
  · rw [Toolkit.canvas_clock, flips_eq]
  · rw [IsShown, Toolkit.canvas_clock]
    exact shown

theorem exists_tick_of_unpaintable (isOpen : window.isOpen = true) (dirty : window.dirty = true)
    (unpaintable : ¬ Paintable window window.shown) :
    ∃ error, window.tick toolkit rate = (window, toolkit, .error error) := by
  obtain ⟨error, paint_eq⟩ := exists_paint_error toolkit isOpen unpaintable
  refine ⟨error, ?_⟩
  simp only [tick, dirty, if_true, paint_eq]

/-! ## Coherence -/

/-- What holds between uses of a window that has been opened, given what has happened to it.
The need of a repaint is noted exactly if one is due, as long as the window can be painted. -/
structure Coherent (opened : Window) (past : List Happening) (state : Window × Toolkit) :
    Prop where
  isOpen : state.1.isOpen = true
  shown : state.1.shown = (lastDrawn past).getD opened.shown
  dirty_eq : Paintable state.1 state.1.shown → state.1.dirty = due past
  clean : state.1.dirty = false → Paintable state.1 state.1.shown ∧ IsShown state

namespace Coherent

variable {opened : Window} {past : List Happening} {state : Window × Toolkit}

theorem draw (coherent : Coherent opened past state) (picture : Picture) :
    Coherent opened (past ++ [.drawn picture]) (state.1.draw picture, state.2) where
  isOpen := coherent.isOpen
  shown := by rw [lastDrawn_append]; rfl
  dirty_eq _ := by rw [due_append rfl]; exact (Bool.or_true _).symm
  clean dirty := by contradiction

theorem poll (coherent : Coherent opened past state) :
    Coherent opened (past ++ state.2.taken.map .event) (use state .poll) := by
  have window_eq := poll_fst state.2 coherent.isOpen
  have toolkit_eq := poll_toolkit state.2 coherent.isOpen
  have used : use state .poll =
      ({ state.1 with dirty := state.1.dirty || state.2.taken.any repaints },
        state.2.nextFrame) := Prod.ext window_eq toolkit_eq
  rw [used]
  exact {
    isOpen := coherent.isOpen
    shown := coherent.shown.trans (by rw [lastDrawn_events])
    dirty_eq := fun paintable => by rw [due_events, ← coherent.dirty_eq paintable]
    clean := fun clean => by
      rw [IsShown, Toolkit.canvas_nextFrame]
      exact coherent.clean (Bool.or_eq_false_iff.mp clean).1 }

/-- The ways a tick can go: with a repaint, without one as none is due, and with a failure where
the window cannot be painted. -/
theorem tick_cases (coherent : Coherent opened past state) (rate : Int) :
    (due past = true ∧ Paintable state.1 state.1.shown ∧
      ∃ painted : Toolkit,
        state.1.tick state.2 rate = ({ state.1 with dirty := false }, painted, elapsed state.2) ∧
        painted.canvas.flips = state.2.canvas.flips + 1 ∧ IsShown (state.1, painted)) ∨
    (due past = false ∧ Paintable state.1 state.1.shown ∧ IsShown state ∧
      state.1.tick state.2 rate = (state.1, state.2.log (.clock rate), elapsed state.2)) ∨
    (¬ Paintable state.1 state.1.shown ∧
      ∃ error, state.1.tick state.2 rate = (state.1, state.2, .error error)) := by
  cases dirty : state.1.dirty with
  | false =>
    obtain ⟨paintable, shown⟩ := coherent.clean dirty
    have undue : due past = false := by rw [← coherent.dirty_eq paintable, dirty]
    exact .inr (.inl ⟨undue, paintable, shown, tick_of_clean dirty⟩)
  | true =>
    by_cases paintable : Paintable state.1 state.1.shown
    · have isDue : due past = true := by rw [← coherent.dirty_eq paintable, dirty]
      exact .inl ⟨isDue, paintable, exists_tick_of_paintable coherent.isOpen dirty paintable⟩
    · exact .inr (.inr ⟨paintable, exists_tick_of_unpaintable coherent.isOpen dirty paintable⟩)

theorem tick (coherent : Coherent opened past state) (rate : Int) :
    Coherent opened (past ++ happenings state (.tick rate)) (use state (.tick rate)) := by
  have undrawn (repainted : Bool) :
      state.1.shown = (lastDrawn (past ++ [.tick repainted])).getD opened.shown := by
    rw [lastDrawn_append]
    exact coherent.shown
  have unflipped (flips : Nat) : decide (flips < flips) = false :=
    decide_eq_false (Nat.lt_irrefl flips)
  rw [happenings, use]
  obtain ⟨-, paintable, painted, ticked, flips_eq, shown⟩ | ⟨undue, paintable, shown, ticked⟩ |
    ⟨unpaintable, error, ticked⟩ := coherent.tick_cases rate
  · have flipped : decide (state.2.canvas.flips < painted.canvas.flips) = true := by
      rw [flips_eq]
      exact decide_eq_true (Nat.lt_succ_self _)
    rw [ticked, flipped]
    exact {
      isOpen := coherent.isOpen
      shown := undrawn _
      dirty_eq := fun _ => (due_repainted past).symm
      clean := fun _ => ⟨paintable, shown⟩ }
  · rw [ticked, Toolkit.canvas_clock, unflipped]
    exact {
      isOpen := coherent.isOpen
      shown := undrawn _
      dirty_eq := fun _ => by rw [coherent.dirty_eq paintable, undue, due_unpainted undue]
      clean := fun _ => ⟨paintable, by rw [IsShown, Toolkit.canvas_clock]; exact shown⟩ }
  · rw [ticked, unflipped]
    exact {
      isOpen := coherent.isOpen
      shown := undrawn _
      dirty_eq := fun paintable => absurd paintable unpaintable
      clean := coherent.clean }

/-- What a tick does is told by whether a repaint is due and the window can be painted. -/
theorem tick_spec (coherent : Coherent opened past state) (rate : Int) :
    (Paintable state.1 state.1.shown → IsShown (state.1, (state.1.tick state.2 rate).2.1)) ∧
    (due past = true ∧ Paintable state.1 state.1.shown →
      (state.1.tick state.2 rate).2.1.canvas.flips = state.2.canvas.flips + 1) ∧
    (¬ (due past = true ∧ Paintable state.1 state.1.shown) →
      (state.1.tick state.2 rate).2.1.canvas = state.2.canvas) ∧
    ((∃ error, (state.1.tick state.2 rate).2.2 = .error error) ↔
      ¬ Paintable state.1 state.1.shown ∨ TooLong state.2) := by
  obtain ⟨isDue, paintable, painted, ticked, flips_eq, shown⟩ | ⟨undue, paintable, shown, ticked⟩ |
    ⟨unpaintable, error, ticked⟩ := coherent.tick_cases rate
  · rw [ticked]
    refine ⟨fun _ => shown, fun _ => flips_eq, fun idle => absurd ⟨isDue, paintable⟩ idle, ?_⟩
    rw [exists_elapsed_error_iff, or_iff_right (not_not_intro paintable)]
  · rw [ticked]
    dsimp only
    rw [Toolkit.canvas_clock, exists_elapsed_error_iff,
      or_iff_right (not_not_intro paintable), undue, IsShown, Toolkit.canvas_clock]
    exact ⟨fun _ => shown, fun ⟨isDue, _⟩ => by contradiction, fun _ => rfl, Iff.rfl⟩
  · rw [ticked]
    exact ⟨fun paintable => absurd paintable unpaintable,
      fun ⟨_, paintable⟩ => absurd paintable unpaintable, fun _ => rfl,
      iff_of_true ⟨error, rfl⟩ (.inl unpaintable)⟩

theorem use (coherent : Coherent opened past state) (use : Use) :
    Coherent opened (past ++ happenings state use) (Window.use state use) := by
  cases use with
  | draw picture => exact coherent.draw picture
  | poll => exact coherent.poll
  | tick rate => exact coherent.tick rate

theorem useAll (coherent : Coherent opened past state) (uses : List Use) :
    Coherent opened (past ++ history state uses) (Window.useAll state uses) := by
  induction uses generalizing past state with
  | nil =>
    rw [history, List.append_nil]
    exact coherent
  | cons first rest ih =>
    rw [history, ← List.append_assoc]
    exact ih (coherent.use first)

end Coherent

variable {started : Window} {ready : Toolkit}

/-- Nothing has happened to a window that has just been opened, and it is to be painted. -/
theorem coherent_of_start (opens : window.start toolkit = (started, ready, .ok ())) :
    Coherent window [] (started, ready) := by
  obtain ⟨started_eq, -⟩ := start_eq_ok opens
  rw [started_eq]
  exact {
    isOpen := rfl
    shown := rfl
    dirty_eq := fun _ => rfl
    clean := fun dirty => by contradiction }

/-- After a window has been opened and used in any way, a tick repaints it exactly if a repaint is
due and it can be painted, and does nothing else that is seen.  Then it shows the picture drawn
last, or a dark screen before the first one, in its two colours: no change is missed.  The tick
fails only where the window cannot be painted, or the frame takes too long to say so. -/
theorem repaints_when_due (opens : window.start toolkit = (started, ready, .ok ()))
    (uses : List Use) (rate : Int) :
    let state := useAll (started, ready) uses
    let past := history (started, ready) uses
    let picture := (lastDrawn past).getD window.shown
    let result := state.1.tick state.2 rate
    (Paintable window picture → ∃ image, result.2.1.canvas.front = some image ∧
      image.Shows picture window.lit window.dark ∧
      (window.lit ≠ window.dark → ∀ column < picture.width, ∀ row < picture.height,
        (image.pixel column row = window.lit.components ↔
          picture.cells.pixel row column = true))) ∧
    (due past = true ∧ Paintable window picture →
      result.2.1.canvas.flips = state.2.canvas.flips + 1) ∧
    (¬ (due past = true ∧ Paintable window picture) → result.2.1.canvas = state.2.canvas) ∧
    ((∃ error, result.2.2 = .error error) ↔
      ¬ Paintable window picture ∨ TooLong state.2) := by
  intro state past picture result
  have coherent : Coherent window past state := (coherent_of_start opens).useAll uses
  have same : Paintable state.1 state.1.shown = Paintable window picture ∧
      state.1.lit = window.lit ∧ state.1.dark = window.dark := by
    obtain ⟨started_eq, -⟩ := start_eq_ok opens
    have isOpen : started.isOpen = true := (coherent_of_start opens).isOpen
    obtain ⟨frame, dirty, used⟩ := exists_useAll_eq (started, ready) isOpen uses
    rw [coherent.shown, used, started_eq]
    exact ⟨rfl, rfl, rfl⟩
  obtain ⟨paintable_eq, lit_eq, dark_eq⟩ := same
  have spec := coherent.tick_spec rate
  rw [paintable_eq] at spec
  obtain ⟨shows, others⟩ := spec
  refine ⟨fun paintable => ?_, others⟩
  obtain ⟨image, front, shows⟩ := shows paintable
  rw [lit_eq, dark_eq, coherent.shown] at shows
  exact ⟨image, front, shows, fun differ _ across _ down =>
    shows.pixel_eq_lit_iff differ across down⟩

/-- A small window that is exposed after its first tick is repainted at the second one, and shows
its picture.  At the third tick no repaint is due, and none takes place. -/
theorem small_repainted :
    let toolkit : Toolkit := { script := [{ events := [.expose] }] }
    let started := (small.start toolkit).1
    let ready := (small.start toolkit).2.1
    let exposed := useAll (started, ready) [.tick 60, .poll]
    let repainted := useAll (started, ready) [.tick 60, .poll, .tick 60]
    (small.start toolkit = (started, ready, .ok ()) ∧ Paintable small small.shown) ∧
    (due (history (started, ready) [.tick 60, .poll]) = true ∧ exposed.2.canvas.flips = 1 ∧
      (exposed.1.tick exposed.2 60).2.1.canvas.flips = 2 ∧
      ∃ image, (exposed.1.tick exposed.2 60).2.1.canvas.front = some image ∧
        image.Shows small.shown small.lit small.dark) ∧
    due (history (started, ready) [.tick 60, .poll, .tick 60]) = false ∧
      (repainted.1.tick repainted.2 60).2.1.canvas = repainted.2.canvas := by
  intro toolkit started ready exposed repainted
  have opens : small.start toolkit = (started, ready, .ok ()) := rfl
  have paintable : Paintable small small.shown := by decide
  have once : exposed.2.canvas.flips = 1 := by decide +kernel
  have isDue : due (history (started, ready) [.tick 60, .poll]) = true := by decide +kernel
  have undue : due (history (started, ready) [.tick 60, .poll, .tick 60]) = false := by
    decide +kernel
  have undrawn : (lastDrawn (history (started, ready) [.tick 60, .poll])).isNone = true := by
    decide +kernel
  -- What has been computed of the window is all that is needed of it.
  clear_value started ready
  obtain ⟨shows, flips_eq, -, -⟩ := repaints_when_due opens [.tick 60, .poll] 60
  obtain ⟨-, -, idle, -⟩ := repaints_when_due opens [.tick 60, .poll, .tick 60] 60
  rw [Option.isNone_iff_eq_none.mp undrawn] at shows flips_eq
  obtain ⟨image, front, shown, -⟩ := shows paintable
  refine ⟨⟨opens, paintable⟩, ⟨isDue, once, ?_, image, front, shown⟩, undue, idle ?_⟩
  · exact (flips_eq ⟨isDue, paintable⟩).trans (congrArg (· + 1) once)
  · rw [undue]
    exact fun ⟨isDue, _⟩ => by contradiction

/-- A window with signs in its colour opens, but is not painted at its first tick, when a repaint
is due. -/
theorem signed_unpainted :
    ∃ window started : Window, ∃ ready : Toolkit,
      create 64 32 10 "#-1-1-1" defaultDark false false .empty "Chip8" = .ok window ∧
      window.start {} = (started, ready, .ok ()) ∧ due (history (started, ready) []) = true ∧
      (started.tick ready 60).2.2 = .error (.image (.colour (.noByte (-1)))) ∧
      (started.tick ready 60).2.1.canvas = {} := by
  refine ⟨_, _, _, rfl, rfl, rfl, rfl, ?_⟩
  decide +kernel

end Window

end ChipEight.Host
