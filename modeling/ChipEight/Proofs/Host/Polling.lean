import ChipEight.Console.Run
import ChipEight.Proofs.Except
import ChipEight.Proofs.Host.Usage

/-!
# What a poll reads

A poll of an open window reads two things.  The events give commands, one for each event that
means something (`Host.Gives`), in the order of the events (`Host.Heard`).  The keys that are
held make the keypad anew: a key is down exactly if one of the names bound to it is held, and
neither the keypad before nor the events have a say in it (`Console.poll_reads`).
-/

namespace ChipEight

namespace Key

theorem natCast_ofInt {value : Int} (low : 0 ≤ value) (high : value ≤ 15) :
    ((Key.ofInt value : Nat) : Int) = value := by
  simp only [Key.ofInt, Fin.val_ofNat]
  omega

end Key

namespace Keypad

theorem isDown_press {keypad : Keypad} {pressed key : Key} :
    (keypad.press pressed).isDown key ↔ key = pressed ∨ keypad.isDown key := by
  by_cases same : pressed = key
  · simp [press, isDown, same]
  · have apart : pressed.val ≠ key.val := fun places => same (Fin.ext places)
    simp [press, isDown, Vector.getElem_set_ne _ _ apart, Ne.symm same]

theorem isDown_foldl_press {keypad : Keypad} {keys : List Key} {key : Key} :
    (keys.foldl press keypad).isDown key ↔ key ∈ keys ∨ keypad.isDown key := by
  induction keys generalizing keypad with
  | nil => simp
  | cons first rest ih =>
    rw [List.foldl_cons, ih, isDown_press, List.mem_cons]
    constructor
    · rintro (listed | rfl | before)
      · exact .inl (.inr listed)
      · exact .inl (.inl rfl)
      · exact .inr before
    · rintro ((rfl | listed) | before)
      · exact .inr (.inl rfl)
      · exact .inl listed
      · exact .inr (.inr before)

/-- Exactly the listed keys are down, however often each is listed. -/
theorem isDown_ofPressed {keys : List Key} {key : Key} :
    (ofPressed keys).isDown key ↔ key ∈ keys := by
  have released : ¬ Keypad.released.isDown key := by simp [Keypad.released, isDown]
  rw [ofPressed, isDown_foldl_press, or_iff_left released]

end Keypad

namespace Host

/-! ## Commands -/

/-- The keys with a special meaning. -/
def hotkeys : List (String × Command) :=
  [("escape", .quit), ("=", .speedUp), ("-", .speedDown), ("f12", .debug), ("f3", .reset),
    ("f8", .pauseToggle)]

/-- The events that give a command. -/
inductive Gives : HostEvent → Command → Prop where
  /-- The window is closed. -/
  | quit : Gives .quit .quit
  /-- A key with a special meaning goes down. -/
  | hotkey {name : String} {command : Command} (listed : (name, command) ∈ hotkeys) :
      Gives (.keyDown name) command
  /-- The window loses the keyboard. -/
  | focusLost : Gives .focusLost .pause
  /-- The window takes the keyboard. -/
  | focusGained : Gives .focusGained .unpause

/-- Whether commands are those that events give, one after the other. -/
inductive Heard : List HostEvent → List Command → Prop where
  /-- No events give no commands. -/
  | nil : Heard [] []
  /-- An event gives a command. -/
  | command {event : HostEvent} {command : Command} {events : List HostEvent}
      {commands : List Command} (gives : Gives event command) (rest : Heard events commands) :
      Heard (event :: events) (command :: commands)
  /-- An event gives none. -/
  | silence {event : HostEvent} {events : List HostEvent} {commands : List Command}
      (gives : ∀ command, ¬ Gives event command) (rest : Heard events commands) :
      Heard (event :: events) commands

theorem hotkey?_eq_some_iff {name : String} {command : Command} :
    Window.hotkey? name = some command ↔ (name, command) ∈ hotkeys := by
  constructor
  · intro found
    rw [Window.hotkey?.eq_def] at found
    split at found <;> cases found <;> decide
  · intro listed
    simp only [hotkeys, List.mem_cons, List.not_mem_nil, or_false, Prod.mk.injEq] at listed
    rcases listed with ⟨rfl, rfl⟩ | ⟨rfl, rfl⟩ | ⟨rfl, rfl⟩ | ⟨rfl, rfl⟩ | ⟨rfl, rfl⟩ |
      ⟨rfl, rfl⟩ <;> rfl

theorem command?_eq_some_iff {event : HostEvent} {command : Command} :
    Window.command? event = some command ↔ Gives event command := by
  constructor
  · intro found
    cases event with
    | quit =>
      cases found
      exact .quit
    | keyDown name => exact .hotkey (hotkey?_eq_some_iff.mp found)
    | focusLost =>
      cases found
      exact .focusLost
    | focusGained =>
      cases found
      exact .focusGained
    | keyUp | resize | expose | other => contradiction
  · intro gives
    cases gives with
    | hotkey listed => exact hotkey?_eq_some_iff.mpr listed
    | quit | focusLost | focusGained => rfl

/-- Events give the commands that are found for them, and no others. -/
theorem heard_iff {events : List HostEvent} {commands : List Command} :
    Heard events commands ↔ commands = events.filterMap Window.command? := by
  constructor
  · intro heard
    induction heard with
    | nil => rfl
    | command gives rest ih =>
      rw [ih, List.filterMap_cons_some (command?_eq_some_iff.mpr gives)]
    | silence gives rest ih =>
      rw [ih, List.filterMap_cons_none]
      rw [Option.eq_none_iff_forall_ne_some]
      exact fun command found => gives command (command?_eq_some_iff.mp found)
  · rintro rfl
    induction events with
    | nil => exact .nil
    | cons event rest ih =>
      cases found : Window.command? event with
      | none =>
        rw [List.filterMap_cons_none found]
        refine .silence (fun command gives => ?_) ih
        rw [command?_eq_some_iff.mpr gives] at found
        contradiction
      | some command =>
        rw [List.filterMap_cons_some found]
        exact .command (command?_eq_some_iff.mp found) ih

/-! ## Keys -/

namespace Window

variable {window : Window} {toolkit : Toolkit}

/-- Where all bindings are to keys of the keypad, a key is down exactly if a name bound to it is
held. -/
theorem exists_heldKeypad (window : Window) (toolkit : Toolkit)
    (legal : ∀ entry ∈ window.bindings, 0 ≤ entry.2 ∧ entry.2 ≤ 15) :
    ∃ keypad, window.heldKeypad toolkit = .ok keypad ∧ ∀ key : Key, keypad.isDown key ↔
      ∃ name ∈ toolkit.frame.held, (name, ((key : Nat) : Int)) ∈ window.bindings := by
  let held := window.bindings.filter fun entry => toolkit.isHeld entry.1
  have bound : held.mapM (fun entry => boundKey entry.2) =
      .ok (held.map fun entry => Key.ofInt entry.2) := by
    refine mapM_eq_pure_map fun entry member => ?_
    obtain ⟨low, high⟩ := legal entry (List.mem_filter.mp member).1
    rw [boundKey, if_pos ⟨by omega, by omega⟩]
    rfl
  refine ⟨.ofPressed (held.map fun entry => Key.ofInt entry.2), ?_, fun key => ?_⟩
  · rw [heldKeypad, bound]
    rfl
  · rw [Keypad.isDown_ofPressed, List.mem_map]
    constructor
    · rintro ⟨⟨name, value⟩, member, rfl⟩
      obtain ⟨listed, isHeld⟩ := List.mem_filter.mp member
      obtain ⟨low, high⟩ := legal _ listed
      refine ⟨name, List.contains_iff_mem.mp isHeld, ?_⟩
      rw [Key.natCast_ofInt low high]
      exact listed
    · rintro ⟨name, isHeld, listed⟩
      refine ⟨_, List.mem_filter.mpr ⟨listed, List.contains_iff_mem.mpr isHeld⟩, ?_⟩
      obtain ⟨low, high⟩ := legal _ listed
      have value_eq := Key.natCast_ofInt low high
      exact Fin.ext (Int.ofNat_inj.mp value_eq)

/-- A poll that the user does not break off returns the keypad and the commands. -/
theorem exists_poll (isOpen : window.isOpen = true)
    (legal : ∀ entry ∈ window.bindings, 0 ≤ entry.2 ∧ entry.2 ≤ 15)
    (unbroken : toolkit.upcoming.interrupt = false) :
    ∃ keypad commands, (window.poll toolkit).2.2 = .ok (keypad, commands) ∧
      Heard toolkit.upcoming.events commands ∧ ∀ key : Key, keypad.isDown key ↔
        ∃ name ∈ toolkit.upcoming.held, (name, ((key : Nat) : Int)) ∈ window.bindings := by
  have shut : (!window.isOpen) = false := by rw [isOpen, Bool.not_true]
  let polled := { window with dirty := window.dirty || toolkit.upcoming.events.any repaints }
  obtain ⟨keypad, read, down⟩ := polled.exists_heldKeypad toolkit.nextFrame legal
  rw [Toolkit.frame_nextFrame] at down
  refine ⟨keypad, _, ?_, heard_iff.mpr rfl, down⟩
  simp only [poll, shut, Toolkit.frame_nextFrame, unbroken, Bool.false_eq_true, if_false]
  rw [read]

end Window

end Host

namespace Console

open Host

/-- However a window has been used since it was opened, a poll of it that is not broken off
gives the commands of the waiting events, in order.  Afterwards a key is down exactly if one of
the names that the keymap binds to it is held, whatever the keypad was before. -/
theorem poll_reads {window started : Window} {toolkit ready : Toolkit}
    (opens : window.start toolkit = (started, ready, .ok ()))
    (legal : ∀ entry ∈ window.keymap.bindings, 0 ≤ entry.2 ∧ entry.2 ≤ 15)
    (uses : List Window.Use) {console : Console}
    (shown : console.display = some (.window (Window.useAll (started, ready) uses).1))
    (unbroken : console.toolkit.upcoming.interrupt = false) :
    let waiting := console.toolkit.upcoming
    ∃ commands, console.poll.2 = .ok commands ∧ Heard waiting.events commands ∧
      ∀ key : Key, console.poll.1.machine.keypad.isDown key ↔
        ∃ name ∈ waiting.held, (name, ((key : Nat) : Int)) ∈ window.keymap.bindings := by
  intro waiting
  obtain ⟨isOpen, bindings⟩ := Window.useAll_of_start opens uses
  rw [← bindings] at legal ⊢
  obtain ⟨keypad, commands, polled, heard, down⟩ := Window.exists_poll isOpen legal unbroken
  have keypad_eq : console.poll.1.machine.keypad = keypad := by
    simp only [poll, shown, polled]
  refine ⟨commands, ?_, heard, ?_⟩
  · simp only [poll, shown, polled]
  · rw [keypad_eq]
    exact down

/-- A window whose keymap binds two names to one key. -/
def twoNames : Window where
  width := 64
  height := 32
  scale := 10
  lit := ⟨0x8b, 0xac, 0x0f⟩
  dark := ⟨0x0f, 0x38, 0x0f⟩
  fullscreen := false
  software := false
  keymap := ⟨[("q", 4), ("up", 4), ("space", 0)]⟩
  title := "Chip8"
  isOpen := false
  bindings := []
  frame := none
  dirty := true

/-- A toolkit with four events, and with two keys held of which one is bound. -/
def fourEvents : Toolkit where
  script := [{ events := [.keyDown "f8", .resize, .keyDown "q", .quit], held := ["up", "x"] }]

/-- The second name of a key suffices to put it down, and a key that was down before is up. -/
theorem twoNames_read :
    let started := (twoNames.start fourEvents).1
    let console := { create 8 .reference (.cycle #[]) false with
      machine := { Machine.powerOn .reference (.cycle #[]) with
        keypad := Keypad.released.press 5 }
      display := some (.window started)
      toolkit := fourEvents }
    ((twoNames.start fourEvents).2.2 = .ok () ∧
      (∀ entry ∈ twoNames.keymap.bindings, 0 ≤ entry.2 ∧ entry.2 ≤ 15) ∧
      console.toolkit.upcoming.interrupt = false) ∧
    console.poll.2 = .ok [.pauseToggle, .quit] ∧
    ∀ key : Key, console.poll.1.machine.keypad.isDown key ↔ key = 4 := by
  intro started console
  have opened : (twoNames.start fourEvents).2.2 = .ok () := by rfl
  have opens : twoNames.start fourEvents = (started, (twoNames.start fourEvents).2.1, .ok ()) :=
    Prod.ext rfl (Prod.ext rfl opened)
  have legal : ∀ entry ∈ twoNames.keymap.bindings, 0 ≤ entry.2 ∧ entry.2 ≤ 15 := by decide
  have unbroken : console.toolkit.upcoming.interrupt = false := rfl
  obtain ⟨commands, polled, heard, down⟩ := poll_reads opens legal [] rfl unbroken
  refine ⟨⟨opened, legal, unbroken⟩, ?_, fun key => (down key).trans ?_⟩
  · rw [polled, heard_iff.mp heard]
    rfl
  · revert key
    decide +kernel

end Console

end ChipEight
