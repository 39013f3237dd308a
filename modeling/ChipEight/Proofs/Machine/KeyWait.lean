import ChipEight.Proofs.Machine.Invariant

/-!
# Waits for a key

A wait for a key looks at the keypad once a step.  What ends it is a matter of these
looks alone (`KeyWait.Ends`), whatever else happens in between: the lowest key of the
first look at which a key is down, or, on release, that key once it is up again.

Until then the machine stands still: no step changes anything but the wait itself
(`Machine.wait_ends`).
-/

namespace ChipEight

/-! ## Keys that are down -/

namespace Keypad

/-- Whether all keys are up. -/
def isIdle (keypad : Keypad) : Bool :=
  decide (∀ key, keypad.isDown key = false)

/-- Whether a key is the lowest one down. -/
def Lowest (keypad : Keypad) (key : Key) : Prop :=
  keypad.isDown key ∧ ∀ lower < key, keypad.isDown lower = false

variable {keypad : Keypad} {key other : Key}

theorem Lowest.unique (one : keypad.Lowest key) (another : keypad.Lowest other) : key = other := by
  rcases Nat.lt_trichotomy key.val other.val with below | same | above
  · have up := another.2 key below
    rw [one.1] at up
    contradiction
  · exact Fin.ext same
  · have up := one.2 other above
    rw [another.1] at up
    contradiction

theorem Lowest.not_isIdle (lowest : keypad.Lowest key) : ¬ keypad.isIdle := by
  intro idle
  have up := of_decide_eq_true idle key
  rw [lowest.1] at up
  contradiction

theorem lowest?_eq_none_iff : keypad.lowest? = none ↔ keypad.isIdle := by
  simp [lowest?, isIdle]

theorem lowest?_eq_some_iff : keypad.lowest? = some key ↔ keypad.Lowest key := by
  rw [lowest?, List.find?_eq_some_iff_getElem, Lowest]
  simp only [List.getElem_finRange]
  constructor
  · rintro ⟨down, place, inside, rfl, before⟩
    refine ⟨down, fun lower below => ?_⟩
    simpa using before lower.val below
  · rintro ⟨down, before⟩
    refine ⟨down, key.val, by simp, rfl, fun lower below => ?_⟩
    simpa using before ⟨lower, by omega⟩ below

/-- The keypads that the steps of a run look at. -/
def looks (keypad : Keypad) : List Action → List Keypad
  | [] => []
  | .step :: rest => keypad :: keypad.looks rest
  | .keys change :: rest => (keypad.change change).looks rest
  | _ :: rest => keypad.looks rest

/-- A further look at the end: the looks without a key down still do not count. -/
theorem dropWhile_isIdle_concat (looks : List Keypad) (keypad : Keypad) :
    (looks ++ [keypad]).dropWhile isIdle =
      if (looks.dropWhile isIdle).isEmpty ∧ keypad.isIdle then []
      else looks.dropWhile isIdle ++ [keypad] := by
  rw [List.dropWhile_append]
  cases looks.dropWhile isIdle with
  | nil => simp [List.dropWhile_cons]
  | cons first rest => simp

end Keypad

/-! ## What ends a wait -/

namespace KeyWait

/-- Whether the last of a number of looks ends a wait with a key.  The looks count
from the first one on at which a key is down; the key is the lowest one of that look.
The wait ends at once, or, on release, with the first look at which that key is up. -/
def Ends (onRelease : Bool) (looks : List Keypad) (key : Key) : Prop :=
  match onRelease with
  | false => ∃ last, looks.dropWhile Keypad.isIdle = [last] ∧ last.Lowest key
  | true => ∃ first between last,
      looks.dropWhile Keypad.isIdle = first :: (between ++ [last]) ∧ first.Lowest key ∧
        (∀ keypad ∈ between, keypad.isDown key) ∧ last.isDown key = false

/-- Whether a wait goes on after a number of looks, none of which has ended it. -/
def GoesOn (onRelease : Bool) (looks : List Keypad) : Prop :=
  ∀ seen, seen <+: looks → ∀ key, ¬ Ends onRelease seen key

/-- Whether a wait is in the state in which looks that did not end it leave it. -/
def Follows (onRelease : Bool) (looks : List Keypad) (wait : KeyWait) : Prop :=
  match wait.held with
  | none => looks.dropWhile Keypad.isIdle = []
  | some key => onRelease ∧ ∃ first between,
      looks.dropWhile Keypad.isIdle = first :: between ∧ first.Lowest key ∧
        ∀ keypad ∈ between, keypad.isDown key

variable {onRelease : Bool} {looks : List Keypad} {keypad : Keypad} {wait : KeyWait} {key : Key}

theorem Ends.unique {other : Key} (one : Ends onRelease looks key)
    (another : Ends onRelease looks other) : key = other := by
  cases onRelease with
  | false =>
    obtain ⟨last, counted, lowest⟩ := one
    obtain ⟨last', counted', lowest'⟩ := another
    rw [counted] at counted'
    cases counted'
    exact lowest.unique lowest'
  | true =>
    obtain ⟨first, between, last, counted, lowest, -⟩ := one
    obtain ⟨first', between', last', counted', lowest', -⟩ := another
    rw [counted] at counted'
    cases (List.cons.inj counted').1
    exact lowest.unique lowest'

theorem follows_of_none (held : wait.held = none) :
    wait.Follows onRelease looks ↔ looks.dropWhile Keypad.isIdle = [] := by
  rw [Follows, held]

theorem follows_of_some (held : wait.held = some key) :
    wait.Follows onRelease looks ↔ onRelease ∧ ∃ first between,
      looks.dropWhile Keypad.isIdle = first :: between ∧ first.Lowest key ∧
        ∀ keypad ∈ between, keypad.isDown key := by
  rw [Follows, held]

theorem Follows.not_ends (follows : wait.Follows onRelease looks) : ¬ Ends onRelease looks key := by
  intro ends
  cases held : wait.held with
  | none =>
    have uncounted := (follows_of_none held).mp follows
    cases onRelease with
    | false =>
      obtain ⟨last, counted, -⟩ := ends
      rw [uncounted] at counted
      contradiction
    | true =>
      obtain ⟨first, between, last, counted, -⟩ := ends
      rw [uncounted] at counted
      contradiction
  | some heldKey =>
    obtain ⟨rfl, first, between, counted, lowest, down⟩ := (follows_of_some held).mp follows
    obtain ⟨first', between', last, counted', lowest', -, up⟩ := ends
    rw [counted] at counted'
    obtain ⟨rfl, rfl⟩ := List.cons.inj counted'
    have stillDown := down last (by simp)
    rw [lowest.unique lowest', up] at stillDown
    contradiction

/-- A wait that no key has been seen for yet, after one more look. -/
theorem dropWhile_concat_of_lowest (uncounted : looks.dropWhile Keypad.isIdle = [])
    (lowest : keypad.Lowest key) : (looks ++ [keypad]).dropWhile Keypad.isIdle = [keypad] := by
  simp [Keypad.dropWhile_isIdle_concat, uncounted, lowest.not_isIdle]

/-- What a look makes of a wait: it ends the wait, or leaves it in the next state. -/
theorem Follows.poll (follows : wait.Follows onRelease looks) (keypad : Keypad) :
    match wait.poll onRelease keypad with
    | .waiting next => next.Follows onRelease (looks ++ [keypad])
    | .finished key => Ends onRelease (looks ++ [keypad]) key := by
  cases held : wait.held with
  | none =>
    have uncounted := (follows_of_none held).mp follows
    cases lowest : keypad.lowest? with
    | none =>
      have idle := Keypad.lowest?_eq_none_iff.mp lowest
      have uncountedStill : (looks ++ [keypad]).dropWhile Keypad.isIdle = [] := by
        simp [Keypad.dropWhile_isIdle_concat, uncounted, idle]
      cases onRelease with
      | false =>
        simp only [KeyWait.poll, lowest, Bool.false_eq_true, if_false]
        exact (follows_of_none held).mpr uncountedStill
      | true =>
        simp only [KeyWait.poll, held, lowest, if_true]
        exact (follows_of_none rfl).mpr uncountedStill
    | some key =>
      have isLowest := Keypad.lowest?_eq_some_iff.mp lowest
      have counted := dropWhile_concat_of_lowest uncounted isLowest
      cases onRelease with
      | false =>
        simp only [KeyWait.poll, lowest, Bool.false_eq_true, if_false]
        exact ⟨keypad, counted, isLowest⟩
      | true =>
        simp only [KeyWait.poll, held, lowest, if_true]
        exact (follows_of_some rfl).mpr ⟨rfl, keypad, [], counted, isLowest, by simp⟩
  | some key =>
    obtain ⟨rfl, first, between, counted, lowest, down⟩ := (follows_of_some held).mp follows
    have countedNow :
        (looks ++ [keypad]).dropWhile Keypad.isIdle = first :: (between ++ [keypad]) := by
      simp [Keypad.dropWhile_isIdle_concat, counted]
    cases isDown : keypad.isDown key with
    | true =>
      simp only [KeyWait.poll, held, isDown, if_true]
      refine (follows_of_some held).mpr ⟨rfl, first, _, countedNow, lowest, ?_⟩
      intro look member
      rcases List.mem_append.mp member with earlier | now
      · exact down look earlier
      · rw [List.mem_singleton.mp now]
        exact isDown
    | false =>
      simp only [KeyWait.poll, held, isDown, if_true, Bool.false_eq_true, if_false]
      exact ⟨first, between, keypad, countedNow, lowest, down, isDown⟩

theorem GoesOn.of_prefix {seen : List Keypad} (goesOn : GoesOn onRelease looks)
    (isPrefix : seen <+: looks) : GoesOn onRelease seen :=
  fun earlier isEarlier => goesOn earlier (isEarlier.trans isPrefix)

/-- A look that does not end a wait leaves it in the next state. -/
theorem Follows.poll_of_goesOn (follows : wait.Follows onRelease looks)
    (goesOn : GoesOn onRelease (looks ++ [keypad])) :
    ∃ next, wait.poll onRelease keypad = .waiting next ∧ next.register = wait.register ∧
      next.Follows onRelease (looks ++ [keypad]) := by
  have polled := follows.poll keypad
  cases outcome : wait.poll onRelease keypad with
  | waiting next =>
    rw [outcome] at polled
    exact ⟨next, rfl, register_of_poll outcome, polled⟩
  | finished key =>
    rw [outcome] at polled
    exact absurd polled (goesOn _ List.prefix_rfl key)

/-- A look that ends a wait delivers the key. -/
theorem Follows.poll_of_ends (follows : wait.Follows onRelease looks)
    (ends : Ends onRelease (looks ++ [keypad]) key) :
    wait.poll onRelease keypad = .finished key := by
  have polled := follows.poll keypad
  cases outcome : wait.poll onRelease keypad with
  | waiting next =>
    rw [outcome] at polled
    exact absurd ends polled.not_ends
  | finished other =>
    rw [outcome] at polled
    rw [ends.unique polled]

end KeyWait

/-! ## The machine during a wait -/

namespace Machine

variable {width height : Nat} {start machine : Machine width height} {x : Register}
  {looks : List Keypad}

theorem polled_keypad (machine : Machine width height) (wait : KeyWait) :
    (machine.polled wait).keypad = machine.keypad := by
  rw [polled]
  split <;> rfl

/-- A step does not change the keys. -/
theorem keypad_step (machine : Machine width height) :
    machine.step.machine.keypad = machine.keypad := by
  have steps := machine.steps_step
  generalize machine.step = result at steps
  cases steps with
  | waits | finishes | leaves | faults => rfl
  | @executes span next idle fetched executed =>
    revert executed
    generalize machine.instructionAt span = instruction
    intro executed
    change next.keypad = machine.keypad
    cases Machine.effects executed with
    | asks => exact (machine.fetch span).polled_keypad _
    | moves movesData keeps => exact keeps.keypad
    | clears | returns | calls | draws => rfl

theorem keypad_act_step (machine : Machine width height) :
    (machine.act .step).keypad = machine.keypad :=
  machine.keypad_step

theorem keypad_act_keys (machine : Machine width height) (change : Keypad.Change) :
    (machine.act (.keys change)).keypad = machine.keypad.change change :=
  rfl

/-- Whether a machine still waits for the key that an instruction has asked for,
after a number of looks. -/
structure Stalled (start : Machine width height) (x : Register) (looks : List Keypad)
    (machine : Machine width height) : Prop where
  pc : machine.pc = start.pc
  word : Instruction.decode machine.word = .waitKey x
  compatibility : machine.compatibility = start.compatibility
  wait : ∃ wait, machine.wait = some wait ∧ wait.register = x ∧
    wait.Follows start.compatibility.keyOnRelease looks

theorem Stalled.act_of_fromOutside (stalled : start.Stalled x looks machine) {action : Action}
    (fromOutside : action.fromOutside) : start.Stalled x looks (machine.act action) := by
  obtain ⟨memory, keypad, delay, sound, programSize, acted⟩ :=
    machine.act_of_fromOutside fromOutside
  rw [acted]
  exact ⟨stalled.pc, stalled.word, stalled.compatibility, stalled.wait⟩

/-- A step that does not end the wait changes nothing but the wait. -/
theorem Stalled.step_of_goesOn (stalled : start.Stalled x looks machine)
    (goesOn : KeyWait.GoesOn start.compatibility.keyOnRelease (looks ++ [machine.keypad])) :
    machine.step = ⟨{ machine with wait := machine.step.machine.wait }, [], .ok none⟩ ∧
      start.Stalled x (looks ++ [machine.keypad]) machine.step.machine := by
  obtain ⟨wait, pending, register_eq, follows⟩ := stalled.wait
  obtain ⟨next, polled, kept, followsNow⟩ := follows.poll_of_goesOn goesOn
  rw [← stalled.compatibility] at polled
  rw [machine.step_of_waiting pending polled]
  exact ⟨rfl, stalled.pc, stalled.word, stalled.compatibility, next, rfl,
    kept.trans register_eq, followsNow⟩

/-- A step that ends the wait delivers the key and moves on. -/
theorem Stalled.step_of_ends (stalled : start.Stalled x looks machine) {key : Key}
    (ends : KeyWait.Ends start.compatibility.keyOnRelease (looks ++ [machine.keypad]) key) :
    machine.step =
      ⟨{ machine.setRegister x (UInt8.ofNat key.val) with
          wait := none, pc := start.pc + 2, cycles := machine.cycles + 1 },
        [], .ok (some (.waitKey x))⟩ := by
  obtain ⟨wait, pending, rfl, follows⟩ := stalled.wait
  have polled := follows.poll_of_ends ends
  rw [← stalled.compatibility] at polled
  rw [machine.step_of_finished pending polled, stalled.pc, stalled.word]

/-- An action from outside is not a look; it may change what the later ones see. -/
theorem looks_of_fromOutside (machine : Machine width height) {action : Action}
    (fromOutside : action.fromOutside) (rest : List Action) :
    machine.keypad.looks (action :: rest) = (machine.act action).keypad.looks rest := by
  cases action with
  | step | reset => contradiction
  | pass | keys => rfl
  | load program =>
    obtain ⟨memory, programSize, loaded⟩ := machine.exists_act_load program
    rw [loaded]
    rfl

/-- A wait that has not ended goes on along a run. -/
theorem Stalled.run {actions : List Action} (stalled : start.Stalled x looks machine)
    (noReset : ∀ action ∈ actions, action ≠ .reset)
    (goesOn : KeyWait.GoesOn start.compatibility.keyOnRelease
      (looks ++ machine.keypad.looks actions)) :
    start.Stalled x (looks ++ machine.keypad.looks actions) (machine.run actions) := by
  induction actions generalizing machine looks with
  | nil =>
    rw [Keypad.looks, List.append_nil]
    exact stalled
  | cons first rest ih =>
    have noResetLater : ∀ action ∈ rest, action ≠ .reset :=
      fun action member => noReset action (List.mem_cons_of_mem first member)
    by_cases fromOutside : first.fromOutside
    · rw [machine.looks_of_fromOutside fromOutside] at goesOn ⊢
      exact ih (stalled.act_of_fromOutside fromOutside) noResetLater goesOn
    · cases first with
      | step =>
        rw [Keypad.looks, List.append_cons] at goesOn ⊢
        have goesOnNow := goesOn.of_prefix (List.prefix_append (looks ++ [machine.keypad]) _)
        have stalledNow := (stalled.step_of_goesOn goesOnNow).2
        have ran := ih stalledNow noResetLater
        rw [machine.keypad_step] at ran
        exact ran goesOn
      | reset => exact absurd rfl (noReset .reset List.mem_cons_self)
      | pass | keys | load => exact absurd rfl fromOutside

/-! ## The instruction that begins a wait -/

/-- The step that asks for a key looks at the keypad as well. -/
theorem step_of_asked (idle : machine.wait = none)
    (asked : machine.step.outcome = .ok (some (.waitKey x))) :
    ∃ span, machine.instructionAt span = .waitKey x ∧ machine.step.machine =
      { (machine.fetch span).polled ⟨x, none⟩ with cycles := machine.cycles + 1 } := by
  have steps := machine.steps_step
  generalize machine.step = result at steps asked ⊢
  cases steps with
  | waits | leaves | faults => cases asked
  | finishes pending polled =>
    rw [idle] at pending
    contradiction
  | @executes span next _ fetched executed =>
    have decoded := Option.some.inj (Except.ok.inj asked)
    rw [decoded] at executed
    cases Except.ok.inj executed
    refine ⟨span, decoded, ?_⟩
    rw [polled]
    split <;> rfl

/-- The wait has begun. -/
theorem stalled_of_asked (idle : machine.wait = none)
    (asked : machine.step.outcome = .ok (some (.waitKey x)))
    (goesOn : KeyWait.GoesOn machine.compatibility.keyOnRelease [machine.keypad]) :
    machine.Stalled x [machine.keypad] machine.step.machine := by
  obtain ⟨span, decoded, step_eq⟩ := step_of_asked idle asked
  have begins : KeyWait.Follows machine.compatibility.keyOnRelease [] ⟨x, none⟩ := rfl
  obtain ⟨next, poll_eq, register_eq, follows⟩ :
      ∃ next, KeyWait.poll ⟨x, none⟩ (machine.fetch span).compatibility.keyOnRelease
          (machine.fetch span).keypad = .waiting next ∧ next.register = x ∧
        next.Follows machine.compatibility.keyOnRelease [machine.keypad] :=
    begins.poll_of_goesOn goesOn
  rw [step_eq, polled, poll_eq]
  exact ⟨rfl, decoded, rfl, next, rfl, register_eq, follows⟩

/-- The wait has ended with the step that began it. -/
theorem delivered_of_asked {key : Key} (idle : machine.wait = none)
    (asked : machine.step.outcome = .ok (some (.waitKey x)))
    (ends : KeyWait.Ends machine.compatibility.keyOnRelease [machine.keypad] key) :
    machine.step.machine =
      { machine.setRegister x (UInt8.ofNat key.val) with
        word := machine.step.machine.word, wait := none, pc := machine.pc + 2
        cycles := machine.cycles + 1 } := by
  obtain ⟨span, decoded, step_eq⟩ := step_of_asked idle asked
  have begins : KeyWait.Follows machine.compatibility.keyOnRelease [] ⟨x, none⟩ := rfl
  have poll_eq : KeyWait.poll ⟨x, none⟩ (machine.fetch span).compatibility.keyOnRelease
      (machine.fetch span).keypad = .finished key := begins.poll_of_ends ends
  rw [step_eq, polled, poll_eq]
  rfl

/-- A step of a machine that waits does not look into memory. -/
theorem step_of_memory {wait : KeyWait} (pending : machine.wait = some wait) (memory : Memory) :
    { machine with memory := memory }.step =
      { machine.step with machine := { machine.step.machine with memory := memory } } := by
  cases polled : wait.poll machine.compatibility.keyOnRelease machine.keypad with
  | waiting next =>
    rw [machine.step_of_waiting pending polled]
    exact step_of_waiting { machine with memory := memory } pending polled
  | finished key =>
    rw [machine.step_of_finished pending polled]
    exact step_of_finished { machine with memory := memory } pending polled

/-- A wait for a key ends as its looks say.  If the look of the instruction itself ends
it, the key is delivered at once.  Otherwise, as long as no look has ended it, whatever
happens except a reset, the machine stays on the instruction: a step whose look does not
end the wait changes nothing but the wait, and one whose look does delivers the key,
moves on and returns the instruction; and no step looks into memory. -/
theorem wait_ends (idle : machine.wait = none)
    (asked : machine.step.outcome = .ok (some (.waitKey x))) :
    (∀ key, KeyWait.Ends machine.compatibility.keyOnRelease [machine.keypad] key →
      machine.step.machine =
        { machine.setRegister x (UInt8.ofNat key.val) with
          word := machine.step.machine.word, wait := none, pc := machine.pc + 2
          cycles := machine.cycles + 1 }) ∧
      ∀ actions, (∀ action ∈ actions, action ≠ .reset) →
        let looks := machine.keypad.looks (.step :: actions)
        let stalled := machine.run (.step :: actions)
        KeyWait.GoesOn machine.compatibility.keyOnRelease looks →
          stalled.pc = machine.pc ∧ (∃ held, stalled.wait = some ⟨x, held⟩) ∧
            (KeyWait.GoesOn machine.compatibility.keyOnRelease (looks ++ [stalled.keypad]) →
              stalled.step = ⟨{ stalled with wait := stalled.step.machine.wait }, [], .ok none⟩) ∧
            (∀ key,
              KeyWait.Ends machine.compatibility.keyOnRelease (looks ++ [stalled.keypad]) key →
              stalled.step =
                ⟨{ stalled.setRegister x (UInt8.ofNat key.val) with
                    wait := none, pc := machine.pc + 2, cycles := stalled.cycles + 1 },
                  [], .ok (some (.waitKey x))⟩) ∧
            ∀ memory, { stalled with memory := memory }.step =
              { stalled.step with machine := { stalled.step.machine with memory := memory } } := by
  refine ⟨fun key => delivered_of_asked idle asked, ?_⟩
  intro actions noReset looks stalled goesOn
  have begun : machine.Stalled x [machine.keypad] machine.step.machine :=
    stalled_of_asked idle asked (goesOn.of_prefix ⟨machine.keypad.looks actions, rfl⟩)
  have ran : machine.Stalled x looks stalled := by
    have later := begun.run noReset
    rw [machine.keypad_step] at later
    exact later goesOn
  obtain ⟨wait, pending, register_eq, -⟩ := ran.wait
  refine ⟨ran.pc, ⟨wait.held, ?_⟩, fun goesOnStill => (ran.step_of_goesOn goesOnStill).1,
    fun key => ran.step_of_ends, step_of_memory pending⟩
  rw [pending, ← register_eq]

/-- A machine about to wait for a key to come up. -/
def releaseWait : Machine 64 32 :=
  { powerOn .cosmac (.cycle #[]) with
    memory := Vector.ofFn fun place =>
      if place.val = programStart then 0xF3
      else if place.val = programStart + 1 then 0x0A
      else 0 }

theorem releaseWait_asks : releaseWait.step.outcome = .ok (some (.waitKey 3)) := by
  have fetched : Span.at? releaseWait.pc 2 = some ⟨programStart, by decide⟩ :=
    Span.at?_eq_some_iff.mpr rfl
  have word_eq : releaseWait.wordAt ⟨programStart, by decide⟩ = 0xF30A := by
    simp [wordAt, bytes, Span.read, Span.place, releaseWait, programStart, Word.ofBytes]
  have decoded : releaseWait.instructionAt ⟨programStart, by decide⟩ = .waitKey 3 := by
    rw [instructionAt, word_eq]
    decide
  rw [releaseWait.step_of_effect rfl fetched (by rw [decoded]; rfl), decoded]

/-- Key 5 goes down and is seen, key 2 goes down as well, and key 5 comes up. -/
def keysOverlap : List Action :=
  [.keys (.press 5), .step, .keys (.press 2), .keys (.release 5)]

/-- Key 5 alone. -/
def fiveDown : Keypad :=
  Keypad.released.change (.press 5)

/-- Key 2 alone, after key 5. -/
def twoDown : Keypad :=
  (fiveDown.change (.press 2)).change (.release 5)

theorem isIdle_released : Keypad.released.isIdle = true := by decide

theorem isIdle_fiveDown : fiveDown.isIdle = false := by decide

theorem looks_keysOverlap :
    releaseWait.keypad.looks (.step :: keysOverlap) = [.released, fiveDown] := rfl

theorem keypad_keysOverlap : (releaseWait.run (.step :: keysOverlap)).keypad = twoDown := by
  have released : releaseWait.keypad = .released := rfl
  rw [keysOverlap, run_cons, run_cons, run_cons, run_cons, run_cons, run_nil, keypad_act_keys,
    keypad_act_keys, keypad_act_step, keypad_act_keys, keypad_act_step, released]
  rfl

/-- The wait ends with key 5, which was seen first. -/
theorem releaseWait_ends :
    releaseWait.step.outcome = .ok (some (.waitKey 3)) ∧
      (releaseWait.run (.step :: keysOverlap)).step.machine.register 3 = 5 := by
  have goesOn : KeyWait.GoesOn true [.released, fiveDown] := by
    rintro seen isPrefix key ⟨first, between, last, counted, -⟩
    simp only [List.prefix_cons_iff, List.prefix_nil] at isPrefix
    rcases isPrefix with rfl | ⟨_, rfl, rfl | ⟨_, rfl, rfl⟩⟩ <;>
      simp [List.dropWhile, isIdle_released, isIdle_fiveDown] at counted
  have ends : KeyWait.Ends true [.released, fiveDown, twoDown] 5 := by
    have lowest : fiveDown.Lowest 5 := ⟨by decide, by decide⟩
    refine ⟨fiveDown, [], twoDown, ?_, lowest, by simp, by decide⟩
    simp [List.dropWhile, isIdle_released, isIdle_fiveDown]
  have stalls := (wait_ends rfl releaseWait_asks).2 keysOverlap (by simp [keysOverlap])
  simp only [looks_keysOverlap, keypad_keysOverlap] at stalls
  refine ⟨releaseWait_asks, ?_⟩
  rw [(stalls goesOn).2.2.2.1 5 ends]
  simp only [register, setRegister, Fin.getElem_fin, Vector.getElem_set_self]
  decide

end Machine

end ChipEight
