import ChipEight.Proofs.Machine.Invariant
import ChipEight.Proofs.Screen.Drawing

/-!
# The screen of a run

A run is accompanied by a record of the drawings made since the screen was
last cleared.  The record takes its coordinates and its sprite from the machine
before the step, so what a drawing writes to the flag register does not
matter.  The screen shows exactly the recorded drawings (`Machine.screen_run`).
-/

namespace ChipEight

namespace Machine

variable {width height : Nat}

/-- The drawing that an instruction at the program counter would make. -/
def drawing (machine : Machine width height) (x y : Register) (rows : Fin 16) : Drawing where
  column := machine.register x
  row := machine.register y
  sprite := (List.range rows.val).map fun offset =>
    machine.memory[machine.index.toNat + offset]?.getD 0

/-- The drawings on the screen after a step that ended in some way. -/
def record (machine : Machine width height) (past : List Drawing) :
    Except Fault (Option Instruction) → List Drawing
  | .ok (some .clear) => []
  | .ok (some (.draw x y rows)) => past ++ [machine.drawing x y rows]
  | _ => past

/-- The drawings on the screen after an action. -/
def recordAction (machine : Machine width height) (past : List Drawing) : Action → List Drawing
  | .step => machine.record past machine.step.outcome
  | .reset => []
  | _ => past

/-- The drawings on the screen after a run. -/
def history (machine : Machine width height) (past : List Drawing) : List Action → List Drawing
  | [] => past
  | first :: rest => (machine.act first).history (machine.recordAction past first) rest

variable {machine : Machine width height} {past : List Drawing}

theorem record_of_movesData {instruction : Instruction} (movesData : instruction.movesData) :
    machine.record past (.ok (some instruction)) = past := by
  cases instruction with
  | clear | draw => contradiction
  | _ => rfl

/-- The sprite of a drawing is what the span at the index holds. -/
theorem bytes_eq_sprite {x y : Register} {rows : Fin 16} {span : Span rows.val}
    (located : Span.at? machine.index rows.val = some span) :
    (machine.bytes span).toList = (machine.drawing x y rows).sprite := by
  have index_eq : machine.index.toNat = span.start := by
    rw [Span.at?_eq_some_iff.mp located, Int.toNat_natCast]
  have fits := span.fits
  apply List.ext_getElem
  · simp [drawing]
  · intro offset inSpan inSprite
    have small : span.start + offset < memorySize := by
      rw [Vector.length_toList] at inSpan
      omega
    simp [drawing, bytes, Span.read, Span.place, index_eq, small]

/-- A step leaves the recorded drawings on the screen. -/
theorem shows_step (sound : machine.Sound) (wide : spriteWidth ≤ width)
    (tall : spriteRows ≤ height) (shows : machine.screen.Shows past) :
    machine.step.machine.screen.Shows (machine.record past machine.step.outcome) := by
  have steps := machine.steps_step
  generalize machine.step = result at steps
  cases steps with
  | waits | leaves | faults => exact shows
  | @finishes wait key pending polled =>
    -- The latched word is decoded again; it still holds the instruction that waits.
    have began := (sound.wait wait pending).2
    simp only [began]
    exact shows
  | @executes span next idle fetched executed =>
    revert executed
    generalize machine.instructionAt span = instruction
    intro executed
    cases Machine.effects executed with
    | clears => exact Framebuffer.shows_blank
    | returns | calls => exact shows
    | @draws x y rows sprite located =>
      have sprite_eq : (machine.bytes sprite).toList = (machine.drawing x y rows).sprite :=
        bytes_eq_sprite located
      have short : (machine.drawing x y rows).sprite.length < 16 := by
        simp [drawing]
      have drawn := Framebuffer.shows_draw shows (machine.drawing x y rows) wide short
        (Nat.le_trans (Nat.le_of_lt_succ short) tall)
      rw [← sprite_eq] at drawn
      exact drawn
    | asks =>
      rw [polled]
      split <;> exact shows
    | moves movesData keeps pc index =>
      rw [record_of_movesData movesData]
      change next.screen.Shows past
      rw [keeps.screen]
      exact shows

theorem shows_act (sound : machine.Sound) (wide : spriteWidth ≤ width)
    (tall : spriteRows ≤ height) (shows : machine.screen.Shows past) (action : Action) :
    (machine.act action).screen.Shows (machine.recordAction past action) := by
  by_cases fromOutside : action.fromOutside
  · obtain ⟨memory, keypad, delay, sound, programSize, acted⟩ :=
      machine.act_of_fromOutside fromOutside
    have recorded : machine.recordAction past action = past := by
      cases action with
      | step | reset => contradiction
      | pass | keys | load => rfl
    rw [acted, recorded]
    exact shows
  · cases action with
    | step => exact shows_step sound wide tall shows
    | reset => exact Framebuffer.shows_blank
    | pass | keys | load => exact absurd rfl fromOutside

/-- The screen shows the recorded drawings along a whole run. -/
theorem shows_run (sound : machine.Sound) (wide : spriteWidth ≤ width)
    (tall : spriteRows ≤ height) (shows : machine.screen.Shows past) (actions : List Action) :
    (machine.run actions).screen.Shows (machine.history past actions) := by
  induction actions generalizing machine past with
  | nil => exact shows
  | cons first rest ih => exact ih (sound.act first) (shows_act sound wide tall shows first)

/-! ## Actions that leave the screen alone -/

/-- Whether an action is a reset, or a step that has cleared or drawn. -/
def Repaints (machine : Machine width height) : Action → Prop
  | .step => machine.step.outcome = .ok (some .clear) ∨
      ∃ x y rows, machine.step.outcome = .ok (some (.draw x y rows))
  | .reset => True
  | _ => False

theorem screen_step (quiet : ¬ machine.Repaints .step) :
    machine.step.machine.screen = machine.screen := by
  have steps := machine.steps_step
  rw [Repaints, not_or] at quiet
  generalize machine.step = result at steps quiet ⊢
  obtain ⟨notCleared, notDrawn⟩ := quiet
  cases steps with
  | waits | finishes | leaves | faults => rfl
  | @executes span next idle fetched executed =>
    revert executed notCleared notDrawn
    generalize machine.instructionAt span = instruction
    intro executed notCleared notDrawn
    cases Machine.effects executed with
    | clears => exact absurd rfl notCleared
    | returns | calls => rfl
    | @draws x y rows => exact absurd ⟨x, y, rows, rfl⟩ notDrawn
    | asks =>
      rw [polled]
      split <;> rfl
    | moves movesData keeps pc index => exact keeps.screen

theorem screen_act {action : Action} (quiet : ¬ machine.Repaints action) :
    (machine.act action).screen = machine.screen := by
  by_cases fromOutside : action.fromOutside
  · obtain ⟨memory, keypad, delay, sound, programSize, acted⟩ :=
      machine.act_of_fromOutside fromOutside
    rw [acted]
  · cases action with
    | step => exact screen_step quiet
    | reset => exact absurd trivial quiet
    | pass | keys | load => exact absurd rfl fromOutside

/-- After any run from power-on, a cell is lit if an odd number of lit sprite bits has
fallen on it since the screen was last cleared; and an action that is neither a reset
nor a step that clears or draws leaves every cell as it was. -/
theorem screen_run (size : ScreenSize) (compatibility : Compatibility) (random : RandomBytes)
    (actions : List Action) :
    let start : Machine size.width size.height := powerOn compatibility random
    (∀ row < size.height, ∀ column < size.width,
      (start.run actions).screen.pixel row column ↔
        Odd (((start.history [] actions).flatMap (Drawing.cells size.width size.height)).count
          (row, column))) ∧
      ∀ action, ¬ (start.run actions).Repaints action →
        ((start.run actions).act action).screen = (start.run actions).screen := by
  intro start
  constructor
  · exact shows_run (sound_powerOn compatibility random) size.wide size.tall
      Framebuffer.shows_blank actions
  · exact fun action quiet => screen_act quiet

theorem effect_draw (x y : Register) (rows : Fin 16) {span : Span rows.val}
    (located : Span.at? machine.index rows.val = some span) :
    ∃ next, machine.effect (.draw x y rows) = .ok next := by
  rw [effect, within, located]
  exact ⟨_, rfl⟩

/-- A machine about to draw the glyph of zero at the top left. -/
def zeroGlyph : Machine 64 32 :=
  (powerOn .reference (.cycle #[])).act (.load #[0xD0, 0x05])

theorem zeroGlyph_eq :
    zeroGlyph =
      { powerOn .reference (.cycle #[]) with
        memory := Vector.ofFn fun place =>
          if place.val < programStart then glyphs[place.val]?.getD 0
          else #[0xD0, 0x05][place.val - programStart]?.getD 0
        programSize := 2 } := by
  have room : (#[0xD0, 0x05] : Array UInt8).size ≤ programRoom := by decide
  rw [zeroGlyph, act_load _ room]
  simp [powerOn]

theorem zeroGlyph_draws : zeroGlyph.step.outcome = .ok (some (.draw 0 0 5)) := by
  have fetched : Span.at? zeroGlyph.pc 2 = some ⟨programStart, by decide⟩ := by
    rw [zeroGlyph_eq]
    exact Span.at?_eq_some_iff.mpr rfl
  have word_eq : zeroGlyph.wordAt ⟨programStart, by decide⟩ = 0xD005 := by
    simp [zeroGlyph_eq, wordAt, bytes, Span.read, Span.place, programStart, Word.ofBytes]
  have decoded : zeroGlyph.instructionAt ⟨programStart, by decide⟩ = .draw 0 0 5 := by
    rw [instructionAt, word_eq]
    decide
  have idle : zeroGlyph.wait = none := by
    rw [zeroGlyph_eq]
    rfl
  have located : Span.at? (zeroGlyph.fetch ⟨programStart, by decide⟩).index 5 =
      some ⟨0, by decide⟩ := by
    rw [zeroGlyph_eq]
    exact Span.at?_eq_some_iff.mpr rfl
  obtain ⟨next, executed⟩ := effect_draw 0 0 5 located
  rw [← decoded] at executed
  rw [zeroGlyph.step_of_effect idle fetched executed, decoded]

theorem zeroGlyph_drawing :
    zeroGlyph.drawing 0 0 5 = ⟨0, 0, [0xF0, 0x90, 0x90, 0x90, 0xF0]⟩ := by
  have offsets : List.range (5 : Fin 16).val = [0, 1, 2, 3, 4] := by decide
  rw [drawing, offsets, zeroGlyph_eq]
  simp [register, powerOn, programStart, memorySize, glyphs]

/-- The top left cell belongs to the glyph. -/
theorem zeroGlyph_lights :
    ((powerOn .reference (.cycle #[]) : Machine 64 32).run
      [.load #[0xD0, 0x05], .step]).screen.pixel 0 0 := by
  apply ((screen_run ⟨64, 32, by decide, by decide⟩ .reference (.cycle #[])
    [.load #[0xD0, 0x05], .step]).1 0 (by decide) 0 (by decide)).mpr
  have history_eq : (powerOn .reference (.cycle #[]) : Machine 64 32).history []
      [.load #[0xD0, 0x05], .step] = [⟨0, 0, [0xF0, 0x90, 0x90, 0x90, 0xF0]⟩] := by
    rw [← zeroGlyph_drawing]
    change zeroGlyph.record [] zeroGlyph.step.outcome = _
    rw [zeroGlyph_draws]
    rfl
  rw [history_eq]
  decide

end Machine

end ChipEight
