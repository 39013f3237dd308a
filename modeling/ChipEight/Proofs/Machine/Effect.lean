import ChipEight.Machine.Step

/-!
# Instructions as transactions

The stages of a step change the machine one action after the other.  This module
gives the effect of an instruction as a whole: a new machine, or a fault and
nothing else.  Both views agree (`run_execute`), which is where the order of
checks and writes within each instruction matters.
-/

namespace ChipEight

/-- The events of an instruction that has been executed at an address. -/
def Instruction.events (address : Int) : Instruction → List Event
  | .clear => [.drawn]
  | .draw .. => [.drawn]
  | .unknown word => [.unknown address word]
  | _ => []

namespace Machine

variable {width height : Nat}

/-! ## The effect of an instruction -/

/-- Move on to the next word. -/
def advance (machine : Machine width height) : Machine width height :=
  { machine with pc := machine.pc + 2 }

@[simp]
theorem advance_calls (machine : Machine width height) : machine.advance.calls = machine.calls :=
  rfl

/-- Move on, past one more word if a condition holds. -/
def skipIf (machine : Machine width height) (condition : Bool) : Machine width height :=
  { machine with pc := machine.pc + if condition then 4 else 2 }

/-- Move the index past the bytes of a block transfer, where the machine does. -/
def advanceIndex (machine : Machine width height) (count : Nat) : Machine width height :=
  if machine.compatibility.indexAdvances then
    { machine with index := (machine.index + count) % 65536 }
  else machine

/-- Store the result of a two-register operation, and then the flag, if any. -/
def compute (machine : Machine width height) (operation : Arithmetic) (x y : Register) :
    Machine width height :=
  let (result, flag) := operation.apply machine.compatibility.shiftUsesSecond
    (machine.register x) (machine.register y)
  match flag with
  | none => machine.setRegister x result
  | some value => (machine.setRegister x result).setFlag value

/-- Change the machine by way of a span, or fault where there is none. -/
def within (address : Int) (size : Nat) (change : Span size → Machine width height) :
    Except Fault (Machine width height) :=
  match Span.at? address size with
  | some span => .ok (change span)
  | none => .error (.memory address size)

/-- A machine after a look at the keypad for a pending wait. -/
def polled (machine : Machine width height) (wait : KeyWait) : Machine width height :=
  match wait.poll machine.compatibility.keyOnRelease machine.keypad with
  | .waiting wait => { machine with wait := some wait }
  | .finished key =>
    { machine.setRegister wait.register (UInt8.ofNat key.val) with
        wait := none, pc := machine.pc + 2 }

/-- What an instruction at the program counter does as a whole. -/
def effect (machine : Machine width height) (instruction : Instruction) :
    Except Fault (Machine width height) :=
  match instruction with
  | .clear => .ok { machine.advance with screen := .blank }
  | .return =>
    match machine.calls.top? with
    | none => .error .stackUnderflow
    | some caller =>
      within (caller + 2) 2 fun _ =>
        { machine with pc := caller + 2, calls := machine.calls.pop }
  | .jump target => within target.val 2 fun _ => { machine with pc := target.val }
  | .call target =>
    if room : machine.calls.depth < stackDepth then
      within target.val 2 fun _ =>
        { machine with pc := target.val, calls := machine.calls.push room machine.pc }
    else .error .stackOverflow
  | .skipIfByte x byte => .ok (machine.skipIf (machine.register x == byte))
  | .skipUnlessByte x byte => .ok (machine.skipIf (machine.register x != byte))
  | .skipIfEqual x y => .ok (machine.skipIf (machine.register x == machine.register y))
  | .setByte x byte => .ok (machine.advance.setRegister x byte)
  | .addByte x byte => .ok (machine.advance.setRegister x (machine.register x + byte))
  | .arithmetic operation x y => .ok (machine.advance.compute operation x y)
  | .skipUnlessEqual x y => .ok (machine.skipIf (machine.register x != machine.register y))
  | .setIndex target => .ok { machine.advance with index := target.val }
  | .jumpOffset base =>
    let offset := machine.register <|
      if machine.compatibility.offsetUsesNamed then Instruction.offsetRegister base else 0
    within (base.val + offset.toNat) 2 fun _ => { machine with pc := base.val + offset.toNat }
  | .random x mask =>
    .ok ({ machine.advance with random := machine.random.advance }.setRegister x
      (machine.random.next &&& mask))
  | .draw x y rows =>
    within machine.index rows.val fun span =>
      let sprite := (machine.bytes span).toList
      let column := (machine.register x).toNat
      let row := (machine.register y).toNat
      { machine.advance with screen := machine.screen.draw column row sprite }.setFlag
        (machine.screen.collides column row sprite).toUInt8
  | .skipIfKey x =>
    .ok (machine.skipIf (machine.keypad.isDown (Key.ofInt (machine.register x).toNat)))
  | .skipUnlessKey x =>
    .ok (machine.skipIf (!machine.keypad.isDown (Key.ofInt (machine.register x).toNat)))
  | .readDelay x => .ok (machine.advance.setRegister x machine.delay.value)
  | .waitKey x => .ok (machine.polled ⟨x, none⟩)
  | .setDelay x =>
    .ok { machine.advance with delay := machine.delay.load (machine.register x) }
  | .setSound x =>
    .ok { machine.advance with sound := machine.sound.load (machine.register x) }
  | .addIndex x =>
    let total := machine.index + (machine.register x).toNat
    .ok ({ machine.advance with index := total % 65536 }.setFlag
      (if total > 0xFFF then 1 else 0))
  | .glyph x =>
    .ok { machine.advance with index := (machine.register x).toNat * glyphBytes }
  | .decimal x =>
    within machine.index 3 fun span =>
      machine.advance.fill span (decimalDigits (machine.register x))
  | .store x =>
    within machine.index (x.val + 1) fun span =>
      (machine.advance.fill span (machine.registersTo x)).advanceIndex (x.val + 1)
  | .load x =>
    within machine.index (x.val + 1) fun span =>
      (machine.advance.setRegistersTo x (machine.bytes span)).advanceIndex (x.val + 1)
  | .unknown _ => .ok { machine.advance with unknowns := machine.unknowns + 1 }

end Machine

/-! ## Stages do all or nothing -/

namespace Stage

variable {width height : Nat} (underway : Underway width height)

/-- The end of a stage that does all or nothing. -/
def settled (underway : Underway width height) (events : List Event) :
    Except Fault (Machine width height) → EStateM.Result Fault (Underway width height) Unit
  | .ok next => .ok () ⟨next, events⟩
  | .error fault => .error fault underway

theorem run_machine_bind {α : Type} (body : Machine width height → Stage width height α) :
    (machine >>= body).run underway = (body underway.machine).run underway :=
  rfl

theorem run_update_bind {α : Type} (change : Machine width height → Machine width height)
    (body : Stage width height α) :
    (update change >>= fun _ => body).run underway =
      body.run ⟨change underway.machine, underway.events⟩ :=
  rfl

/-- How a handler ends what has ended in some way. -/
def recover {α : Type} (handler : Fault → Stage width height α) :
    EStateM.Result Fault (Underway width height) α → EStateM.Result Fault (Underway width height) α
  | .ok value underway => .ok value underway
  | .error fault underway => (handler fault).run underway

theorem run_tryCatch {α : Type} (body : Stage width height α)
    (handler : Fault → Stage width height α) :
    (tryCatch body handler).run underway = recover handler (body.run underway) := by
  change EStateM.tryCatch body handler underway = recover handler (body underway)
  delta EStateM.tryCatch
  cases body underway with
  | ok value next => rfl
  | error fault next => rfl

theorem run_require_of_some {α : Type} {address : Int} {size : Nat} {span : Span size}
    (located : Span.at? address size = some span) (body : Span size → Stage width height α) :
    (require address size >>= body).run underway = (body span).run underway := by
  simp only [EStateM.run_bind, require, located]
  rfl

theorem run_require_of_none {α : Type} {address : Int} {size : Nat}
    (outside : Span.at? address size = none) (body : Span size → Stage width height α) :
    (require address size >>= body).run underway = .error (.memory address size) underway := by
  simp only [EStateM.run_bind, require, outside]
  rfl

theorem run_require_bind (address : Int) (size : Nat)
    {body : Span size → Stage width height Unit}
    {change : Span size → Machine width height} {events : List Event}
    (agrees : ∀ span, (body span).run underway = .ok () ⟨change span, events⟩) :
    (require address size >>= body).run underway =
      settled underway events (Machine.within address size change) := by
  rw [Machine.within]
  cases located : Span.at? address size with
  | none => exact run_require_of_none underway located body
  | some span => exact (run_require_of_some underway located body).trans (agrees span)

theorem run_jump (target : Int) :
    (jump target).run underway =
      settled underway underway.events
        (Machine.within target 2 fun _ => { underway.machine with pc := target }) :=
  run_require_bind underway target 2 fun _ => rfl

theorem run_skipIf (machine : Machine width height) (condition : Bool) (events : List Event) :
    (skipIf condition).run ⟨machine.advance, events⟩ =
      .ok () ⟨machine.skipIf condition, events⟩ := by
  cases condition with
  | false => rfl
  | true =>
    have pc_eq : machine.pc + 2 + 2 = machine.pc + 4 := Int.add_assoc machine.pc 2 2
    simp only [Machine.skipIf, if_true, ← pc_eq]
    rfl

theorem run_advanceIndex (count : Nat) :
    (advanceIndex count).run underway =
      .ok () ⟨underway.machine.advanceIndex count, underway.events⟩ := by
  rw [advanceIndex, run_machine_bind, Machine.advanceIndex]
  split <;> rfl

/-- A look at the keypad overwrites whatever wait was recorded. -/
theorem run_poll (machine : Machine width height) (wait : KeyWait) (pending : Option KeyWait)
    (events : List Event) :
    ∃ ended, (poll wait).run ⟨{ machine with wait := pending }, events⟩ =
      .ok ended ⟨machine.polled wait, events⟩ := by
  rw [poll, run_machine_bind, Machine.polled]
  cases wait.poll machine.compatibility.keyOnRelease machine.keypad with
  | waiting wait => exact ⟨false, rfl⟩
  | finished key => exact ⟨true, rfl⟩

/-- An instruction makes all its checks before its first write: where it faults,
the machine is still as it was. -/
theorem run_execute (machine : Machine width height) (instruction : Instruction)
    (events : List Event) :
    (execute instruction).run ⟨machine.advance, events⟩ =
      settled ⟨machine.advance, events⟩ (events ++ instruction.events machine.pc)
        (machine.effect instruction) := by
  cases instruction <;>
    rw [execute, run_machine_bind] <;>
    simp only [Instruction.events, List.append_nil]
  case «return» =>
    rw [Machine.effect, Machine.advance_calls]
    cases machine.calls.top? with
    | none => rfl
    | some caller =>
      simp only [jump, bind_assoc]
      exact run_require_bind _ _ _ fun _ => rfl
  case jump target => exact run_jump ⟨machine.advance, events⟩ target.val
  case jumpOffset target => exact run_jump ⟨machine.advance, events⟩ _
  case call target =>
    have caller_eq : machine.advance.pc - 2 = machine.pc := Int.add_sub_cancel machine.pc 2
    rw [Machine.effect]
    by_cases room : machine.calls.depth < stackDepth
    · have advancedRoom : machine.advance.calls.depth < stackDepth := room
      rw [dif_pos advancedRoom, dif_pos room]
      refine run_require_bind _ _ _ fun span => ?_
      rw [run_update_bind, caller_eq]
      rfl
    · have advancedFull : ¬ machine.advance.calls.depth < stackDepth := room
      rw [dif_neg advancedFull, dif_neg room]
      rfl
  case skipIfByte | skipUnlessByte | skipIfEqual | skipUnlessEqual | skipIfKey | skipUnlessKey =>
    exact run_skipIf machine _ events
  case draw | decimal => exact run_require_bind _ _ _ fun _ => rfl
  case store | load =>
    refine run_require_bind _ _ _ fun span => ?_
    rw [run_update_bind]
    exact run_advanceIndex _ _
  case arithmetic operation x y =>
    simp only [Machine.effect, Machine.compute]
    rcases operation.apply machine.advance.compatibility.shiftUsesSecond
      (machine.advance.register x) (machine.advance.register y) with ⟨result, _ | value⟩
    · rfl
    · rfl
  case waitKey x =>
    have pc_eq : machine.advance.pc - 2 = machine.pc := Int.add_sub_cancel machine.pc 2
    rw [run_update_bind, run_update_bind, pc_eq]
    obtain ⟨ended, polled⟩ := run_poll machine ⟨x, none⟩ (some ⟨x, none⟩) events
    change (poll ⟨x, none⟩ >>= fun _ => pure ()).run
      ⟨{ machine with wait := some ⟨x, none⟩ }, events⟩ = _
    rw [EStateM.run_bind, polled]
    rfl
  case unknown word =>
    have pc_eq : machine.advance.pc - 2 = machine.pc := Int.add_sub_cancel machine.pc 2
    rw [run_update_bind, pc_eq]
    rfl
  all_goals rfl

/-- An attempt at an instruction either has its effect or leaves no trace. -/
theorem run_attempt (machine : Machine width height) (instruction : Instruction)
    (events : List Event) :
    (attempt instruction).run ⟨machine, events⟩ =
      settled ⟨machine, events⟩ (events ++ instruction.events machine.pc)
        (machine.effect instruction) := by
  have executed := run_execute machine instruction events
  rw [attempt, run_machine_bind, run_update_bind, run_tryCatch]
  cases effect : machine.effect instruction with
  | ok next =>
    rw [effect] at executed
    exact congrArg (recover _) executed
  | error fault =>
    rw [effect] at executed
    exact congrArg (recover _) executed

/-! ## Fetching -/

theorem run_fetch_of_some (machine : Machine width height) {span : Span 2}
    (fetched : Span.at? machine.pc 2 = some span) (events : List Event) :
    fetch.run ⟨machine, events⟩ =
      .ok (machine.wordAt span) ⟨{ machine with word := machine.wordAt span }, events⟩ := by
  rw [fetch, run_machine_bind, run_require_of_some _ fetched]
  rfl

theorem run_fetch_of_none (machine : Machine width height)
    (outside : Span.at? machine.pc 2 = none) (events : List Event) :
    fetch.run ⟨machine, events⟩ = .error (.memory machine.pc 2) ⟨machine, events⟩ := by
  rw [fetch, run_machine_bind, run_require_of_none _ outside]

theorem run_trace (machine : Machine width height) (word : Word) :
    (trace word).run ⟨machine, []⟩ =
      .ok () ⟨machine, if machine.debug then [.trace machine.pc word] else []⟩ := by
  rw [trace, run_machine_bind]
  split <;> rfl

end Stage

end ChipEight
