import ChipEight.Monitor.Execution
import ChipEight.Proofs.Console.Schedule
import ChipEight.Proofs.Machine.Fetching
import ChipEight.Proofs.Machine.Progress
import ChipEight.Proofs.Text.Hexadecimal

/-!
# The monitor keeps to the schedule of frames

The monitor runs a machine in a loop of its own.  It still does to the machine what a
schedule of frames says, step by step, and cuts the schedule short at a breakpoint, at a
fault or where the machine waits for a key (`Monitor.run_cuts`).  There is only one such
cut (`Monitor.Cut.unique`).  No instruction at a breakpoint is begun except by the first step
of a run, and the line that a run ends with tells where it stopped.

A run that is not cut short leaves the machine as frames of a console do.
-/

namespace ChipEight.Monitor

open ChipEight.Text

variable {breakpoints : List Int} {start : Machine screenWidth screenHeight}
  {past schedule done : List Action}

/-- Whether a breakpoint holds up the next step.  A schedule begins with a step, and that
one is never held up. -/
def HeldUp (breakpoints : List Int) (start : Machine screenWidth screenHeight)
    (past : List Action) : Prop :=
  past ≠ [] ∧ (start.run past).wait = none ∧ (start.run past).pc ∈ breakpoints

/-- Whether every step so far was not held up and completed an instruction. -/
def Free (breakpoints : List Int) (start : Machine screenWidth screenHeight)
    (past : List Action) : Prop :=
  ∀ front, front ++ [.step] <+: past →
    ¬ HeldUp breakpoints start front ∧
      ∃ instruction, (start.run front).step.outcome = .ok (some instruction)

/-- What is done of a schedule, and why no more.  All of it is done, or else everything
before the first step that is held up, or everything up to the first step that faults or
waits for a key. -/
inductive Cut (breakpoints : List Int) (start : Machine screenWidth screenHeight)
    (schedule : List Action) : List Action → Option Stop → Prop where
  | full (free : Free breakpoints start schedule) : Cut breakpoints start schedule schedule none
  | breakpoint {front : List Action} (next : front ++ [.step] <+: schedule)
      (free : Free breakpoints start front) (held : HeldUp breakpoints start front) :
      Cut breakpoints start schedule front (some (.breakpoint (start.run front).pc))
  | fault {front : List Action} {cause : Fault} (next : front ++ [.step] <+: schedule)
      (free : Free breakpoints start front) (passes : ¬ HeldUp breakpoints start front)
      (faulted : (start.run front).step.outcome = .error cause) :
      Cut breakpoints start schedule (front ++ [.step])
        (some (.fault (start.run (front ++ [.step])).pc cause))
  | waiting {front : List Action} (next : front ++ [.step] <+: schedule)
      (free : Free breakpoints start front) (passes : ¬ HeldUp breakpoints start front)
      (waits : (start.run front).step.outcome = .ok none) :
      Cut breakpoints start schedule (front ++ [.step])
        (some (.waiting (waitingRegister (start.run (front ++ [.step])))))

/-! ## Going on without a cut -/

theorem free_nil : Free breakpoints start [] := by
  intro front isFront
  simp at isFront

theorem Free.step (free : Free breakpoints start past) (passes : ¬ HeldUp breakpoints start past)
    {instruction : Instruction}
    (completed : (start.run past).step.outcome = .ok (some instruction)) :
    Free breakpoints start (past ++ [.step]) := by
  intro front isFront
  rcases List.prefix_concat_iff.mp isFront with whole | shorter
  · obtain rfl := List.append_inj_left' whole rfl
    exact ⟨passes, instruction, completed⟩
  · exact free front shorter

theorem Free.pass (free : Free breakpoints start past) (elapsed : Float) :
    Free breakpoints start (past ++ [.pass elapsed]) := by
  intro front isFront
  rcases List.prefix_concat_iff.mp isFront with whole | shorter
  · have last := List.append_inj_right' whole rfl
    cases last
  · exact free front shorter

theorem Free.completes (free : Free breakpoints start past) : start.Completes past := by
  intro front isFront
  obtain ⟨-, instruction, completed⟩ := free front isFront
  exact ⟨some instruction, completed⟩

/-- A cut stays where it is if the schedule goes on. -/
theorem Cut.append {stop : Stop} (cut : Cut breakpoints start schedule done (some stop))
    (rest : List Action) : Cut breakpoints start (schedule ++ rest) done (some stop) := by
  cases cut with
  | breakpoint next free held => exact .breakpoint (next.trans (List.prefix_append _ _)) free held
  | fault next free passes faulted =>
    exact .fault (next.trans (List.prefix_append _ _)) free passes faulted
  | waiting next free passes waits =>
    exact .waiting (next.trans (List.prefix_append _ _)) free passes waits

/-- Every step that is done was not held up. -/
theorem Cut.not_heldUp {stop : Option Stop} (cut : Cut breakpoints start schedule done stop)
    {front : List Action} (isFront : front ++ [.step] <+: done) :
    ¬ HeldUp breakpoints start front := by
  cases cut with
  | full free | breakpoint _ free => exact (free front isFront).1
  | fault _ free passes | waiting _ free passes =>
    rcases List.prefix_concat_iff.mp isFront with whole | shorter
    · obtain rfl := List.append_inj_left' whole rfl
      exact passes
    · exact (free front shorter).1

/-- Whether the next step is held up or does not complete an instruction. -/
def StopsAt (breakpoints : List Int) (start : Machine screenWidth screenHeight)
    (front : List Action) : Prop :=
  HeldUp breakpoints start front ∨
    ¬ ∃ instruction, (start.run front).step.outcome = .ok (some instruction)

theorem Free.not_stopsAt (free : Free breakpoints start past) {front : List Action}
    (isFront : front ++ [.step] <+: past) : ¬ StopsAt breakpoints start front := by
  obtain ⟨passes, completed⟩ := free front isFront
  exact not_or.mpr ⟨passes, not_not.mpr completed⟩

/-- There is no more than one place where a schedule stops first. -/
theorem Free.eq_of_stopsAt {front other : List Action}
    (next : front ++ [.step] <+: schedule) (otherNext : other ++ [.step] <+: schedule)
    (free : Free breakpoints start front) (otherFree : Free breakpoints start other)
    (stops : StopsAt breakpoints start front) (otherStops : StopsAt breakpoints start other) :
    front = other := by
  rcases List.prefix_or_prefix_of_prefix next otherNext with before | after
  · rcases List.prefix_concat_iff.mp before with same | shorter
    · exact List.append_inj_left' same rfl
    · exact absurd stops (otherFree.not_stopsAt shorter)
  · rcases List.prefix_concat_iff.mp after with same | shorter
    · exact (List.append_inj_left' same rfl).symm
    · exact absurd otherStops (free.not_stopsAt shorter)

theorem stopsAt_of_fault {front : List Action} {cause : Fault}
    (faulted : (start.run front).step.outcome = .error cause) :
    StopsAt breakpoints start front :=
  .inr fun ⟨_, completed⟩ => nomatch faulted.symm.trans completed

theorem stopsAt_of_waiting {front : List Action}
    (waits : (start.run front).step.outcome = .ok none) : StopsAt breakpoints start front :=
  .inr fun ⟨_, completed⟩ => nomatch waits.symm.trans completed

/-- A schedule is cut in one way only. -/
theorem Cut.unique {stop otherStop : Option Stop} {other : List Action}
    (cut : Cut breakpoints start schedule done stop)
    (otherCut : Cut breakpoints start schedule other otherStop) :
    done = other ∧ stop = otherStop := by
  cases cut with
  | full free =>
    cases otherCut with
    | full => exact ⟨rfl, rfl⟩
    | breakpoint next _ held => exact absurd (.inl held) (free.not_stopsAt next)
    | fault next _ _ faulted => exact absurd (stopsAt_of_fault faulted) (free.not_stopsAt next)
    | waiting next _ _ waits => exact absurd (stopsAt_of_waiting waits) (free.not_stopsAt next)
  | breakpoint next free held =>
    cases otherCut with
    | full otherFree => exact absurd (.inl held) (otherFree.not_stopsAt next)
    | breakpoint otherNext otherFree otherHeld =>
      obtain rfl := Free.eq_of_stopsAt next otherNext free otherFree (.inl held) (.inl otherHeld)
      exact ⟨rfl, rfl⟩
    | fault otherNext otherFree passes faulted =>
      obtain rfl := Free.eq_of_stopsAt next otherNext free otherFree (.inl held)
        (stopsAt_of_fault faulted)
      exact absurd held passes
    | waiting otherNext otherFree passes waits =>
      obtain rfl := Free.eq_of_stopsAt next otherNext free otherFree (.inl held)
        (stopsAt_of_waiting waits)
      exact absurd held passes
  | fault next free passes faulted =>
    have stops : StopsAt breakpoints start _ := stopsAt_of_fault faulted
    cases otherCut with
    | full otherFree => exact absurd stops (otherFree.not_stopsAt next)
    | breakpoint otherNext otherFree held =>
      obtain rfl := Free.eq_of_stopsAt next otherNext free otherFree stops (.inl held)
      exact absurd held passes
    | fault otherNext otherFree _ otherFaulted =>
      obtain rfl := Free.eq_of_stopsAt next otherNext free otherFree stops
        (stopsAt_of_fault otherFaulted)
      obtain rfl := Except.error.inj (faulted.symm.trans otherFaulted)
      exact ⟨rfl, rfl⟩
    | waiting otherNext otherFree _ waits =>
      obtain rfl := Free.eq_of_stopsAt next otherNext free otherFree stops
        (stopsAt_of_waiting waits)
      exact nomatch faulted.symm.trans waits
  | waiting next free passes waits =>
    have stops : StopsAt breakpoints start _ := stopsAt_of_waiting waits
    cases otherCut with
    | full otherFree => exact absurd stops (otherFree.not_stopsAt next)
    | breakpoint otherNext otherFree held =>
      obtain rfl := Free.eq_of_stopsAt next otherNext free otherFree stops (.inl held)
      exact absurd held passes
    | fault otherNext otherFree _ faulted =>
      obtain rfl := Free.eq_of_stopsAt next otherNext free otherFree stops
        (stopsAt_of_fault faulted)
      exact nomatch waits.symm.trans faulted
    | waiting otherNext otherFree _ otherWaits =>
      obtain rfl := Free.eq_of_stopsAt next otherNext free otherFree stops
        (stopsAt_of_waiting otherWaits)
      exact ⟨rfl, rfl⟩

/-! ## The loops -/

/-- Whether a loop has carried out a schedule, as far as it is not cut short. -/
def Carried (breakpoints : List Int) (start : Machine screenWidth screenHeight) (speed : Nat)
    (schedule : List Action) (result : Console × Option Stop) : Prop :=
  ∃ done, Cut breakpoints start schedule done result.2 ∧ result.1.machine = start.run done ∧
    result.1.speed = speed

theorem atBreakpoint_iff {machine : Machine screenWidth screenHeight} :
    atBreakpoint breakpoints machine ↔ machine.wait = none ∧ machine.pc ∈ breakpoints := by
  simp [atBreakpoint]

theorem heldUp_iff {machine : Machine screenWidth screenHeight}
    (machine_eq : machine = start.run past) :
    (!past.isEmpty && atBreakpoint breakpoints machine) ↔ HeldUp breakpoints start past := by
  rw [HeldUp, ← machine_eq, Bool.and_eq_true, atBreakpoint_iff, Bool.not_eq_true',
    List.isEmpty_eq_false_iff]

theorem isEmpty_concat (past : List Action) (action : Action) :
    (past ++ [action]).isEmpty = false := by
  simp

/-- The steps of a frame. -/
theorem runSteps_carried {speed : Nat} (count : Nat) {console : Console}
    (machine_eq : console.machine = start.run past) (speed_eq : console.speed = speed)
    (free : Free breakpoints start past) :
    Carried breakpoints start speed (past ++ List.replicate count .step)
      (runSteps breakpoints past.isEmpty console count) := by
  induction count generalizing past console with
  | zero =>
    rw [List.replicate_zero, List.append_nil]
    exact ⟨past, .full free, machine_eq, speed_eq⟩
  | succ count ih =>
    have next : past ++ [.step] <+: past ++ List.replicate (count + 1) .step :=
      List.prefix_append_right_inj past |>.mpr ⟨List.replicate count .step, rfl⟩
    rw [runSteps]
    by_cases held : HeldUp breakpoints start past
    · rw [if_pos ((heldUp_iff machine_eq).mpr held), machine_eq]
      exact ⟨past, .breakpoint next free held, machine_eq, speed_eq⟩
    · rw [if_neg (mt (heldUp_iff machine_eq).mp held)]
      obtain ⟨display, notices, cycled⟩ := console.cycle_eq
      have stepped : console.machine.step.machine = start.run (past ++ [.step]) := by
        rw [Machine.run_append, machine_eq]
        rfl
      rw [cycled, stepped, machine_eq]
      match ended : (start.run past).step.outcome with
      | .error cause => exact ⟨past ++ [.step], .fault next free held ended, rfl, speed_eq⟩
      | .ok none => exact ⟨past ++ [.step], .waiting next free held ended, rfl, speed_eq⟩
      | .ok (some instruction) =>
        have later := @ih (past ++ [.step])
          { console with
            machine := start.run (past ++ [.step])
            display := display, notices := console.notices ++ notices }
          rfl speed_eq (free.step held ended)
        rw [List.append_assoc] at later
        rw [isEmpty_concat] at later
        exact later

/-- The frames of a run. -/
theorem runFrames_carried {speed : Nat} (count : Nat) {console : Console}
    (machine_eq : console.machine = start.run past) (speed_eq : console.speed = speed)
    (free : Free breakpoints start past) :
    Carried breakpoints start speed (past ++ Action.frames frameTime speed count)
      (runFrames breakpoints past.isEmpty console count) := by
  induction count generalizing past console with
  | zero =>
    rw [Action.frames_zero, List.append_nil]
    exact ⟨past, .full free, machine_eq, speed_eq⟩
  | succ count ih =>
    obtain ⟨done, cut, done_eq, kept⟩ := runSteps_carried speed machine_eq speed_eq free
    rw [runFrames, speed_eq, Action.frames_succ, Action.frame, ← List.append_assoc,
      ← List.append_assoc]
    rcases ran : runSteps breakpoints past.isEmpty console speed with ⟨next, _ | stop⟩ <;>
      rw [ran] at cut done_eq kept
    · cases cut with
      | full goesOn =>
        have passed : (passFrame next).machine =
            start.run (past ++ List.replicate speed .step ++ [.pass frameTime]) := by
          rw [Machine.run_append, ← done_eq]
          rfl
        have later := @ih _ (passFrame next) passed kept (goesOn.pass frameTime)
        rw [isEmpty_concat] at later
        exact later
    · exact ⟨done, (cut.append _).append _, done_eq, kept⟩

/-! ## The last line -/

/-- What a run shows at its end. -/
def lastLine (count : Int) : Option Stop → String
  | some stop => stop.line
  | none => ranLine count

/-- Whether a line tells how a run has ended that was asked for some number of frames: why it
stopped and where the machine stands, or which register waits for a key, or else how many
frames it has run.  Numbers read back from the line; a number that is not written is
reported. -/
inductive Tells (machine : Machine screenWidth screenHeight) (count : Int) :
    Option Stop → String → Prop where
  | breakpoint (reads : Hex.read? (Hex.address machine.pc).toList = some machine.pc) :
      Tells machine count (some (.breakpoint machine.pc))
        ("Breakpoint hit at " ++ Hex.address machine.pc)
  | fault {cause : Fault} (reads : Hex.read? (Hex.address machine.pc).toList = some machine.pc) :
      Tells machine count (some (.fault machine.pc cause))
        ("Fault at " ++ Hex.address machine.pc ++ ": " ++ cause.message)
  | waiting {wait : KeyWait} (pending : machine.wait = some wait) :
      Tells machine count (some (.waiting wait.register.name))
        ("Waiting for key -> " ++ wait.register.name ++ " (use 'key press <n>')")
  | through {shown : String} (reads : readInteger .ten shown = .ok count) :
      Tells machine count none ("Stopped after " ++ shown ++ " frames.")
  | unwritten {error : IntegerError} (refused : writeInteger count = .error error) :
      Tells machine count none ("Error: " ++ error.message)

theorem ranLine_tells (machine : Machine screenWidth screenHeight) (count : Int) :
    Tells machine count none (ranLine count) := by
  unfold ranLine
  split
  case h_1 shown written => exact .through (readInteger_writeInteger written)
  case h_2 error refused => exact .unwritten refused

theorem Tells.eq_of_breakpoint {machine : Machine screenWidth screenHeight} {count pc : Int}
    {line : String} (tells : Tells machine count (some (.breakpoint pc)) line) :
    line = "Breakpoint hit at " ++ Hex.address pc := by
  cases tells with
  | breakpoint => rfl

/-- The last line of a run tells where the schedule was cut. -/
theorem Cut.tells {stop : Option Stop} (cut : Cut breakpoints start schedule done stop)
    (count : Int) : Tells (start.run done) count stop (lastLine count stop) := by
  cases cut with
  | full => exact ranLine_tells _ count
  | breakpoint => exact .breakpoint (Hex.read?_marked _ _)
  | fault => exact .fault (Hex.read?_marked _ _)
  | @waiting front next free passes waits =>
    have left : start.run (front ++ [.step]) = (start.run front).step.machine :=
      start.run_append front [.step]
    rw [left]
    obtain ⟨wait, pending⟩ := Option.ne_none_iff_exists'.mp (Machine.wait_of_waited waits)
    rw [waitingRegister, pending]
    exact .waiting pending

/-- A run with some number of frames does what the schedule of these frames says, as far
as the schedule is not cut short, and its only line tells why it stopped and where.  It begins
no instruction at a breakpoint, except by its first step.  A run that is not cut short leaves
the machine as frames of a console do that is not paused and has the same speed. -/
theorem run_cuts (monitor : Monitor) {argument : String} {count : Int}
    (read : numberOr 600 argument = .ok count) :
    let start := monitor.machine
    let schedule := Action.frames frameTime monitor.console.speed count.toNat
    ∃ outcome done stop line, monitor.run argument = .ok outcome ∧
      Cut monitor.breakpoints start schedule done stop ∧
      outcome.monitor.machine = start.run done ∧
      outcome.lines = [line] ∧ Tells outcome.monitor.machine count stop line ∧
      (∀ front, front ++ [.step] <+: done → front ≠ [] → (start.run front).wait = none →
        (start.run front).pc ∉ monitor.breakpoints) ∧
      (stop = none → ∀ console : Console, console.machine = start →
        console.speed = monitor.console.speed → ¬ console.paused →
        (console.calls (List.replicate count.toNat (.frame frameTime))).machine =
          outcome.monitor.machine) := by
  intro start schedule
  obtain ⟨done, cut, done_eq, -⟩ : Carried monitor.breakpoints start monitor.console.speed schedule
      (runFrames monitor.breakpoints true monitor.console count.toNat) :=
    runFrames_carried count.toNat rfl rfl free_nil
  rcases ran : runFrames monitor.breakpoints true monitor.console count.toNat with ⟨next, stop⟩
  rw [ran] at cut done_eq
  refine ⟨{ monitor := { monitor with console := next }, lines := [lastLine count stop] },
    done, stop, _, ?_, cut, done_eq, rfl, ?_, ?_, ?_⟩
  · rw [Monitor.run, read]
    change Except.ok _ = _
    rw [ran]
    cases stop <;> rfl
  · have tells := cut.tells count
    rw [← done_eq] at tells
    exact tells
  · intro front isFront later idle atOne
    exact cut.not_heldUp isFront ⟨later, idle, atOne⟩
  · rintro rfl console machine_eq speed_eq running
    cases cut with
    | full free =>
      have follows : console.Follows monitor.console.speed console.lastFault ⟨start, [], none⟩ :=
        ⟨machine_eq, rfl, by simpa using running, speed_eq⟩
      rw [(follows.frames frameTime count.toNat).machine,
        (Trial.run_of_completes rfl free.completes).1]
      exact done_eq.symm

/-- A program of two words. -/
def twoWords : Array UInt8 :=
  #[0x60, 0x01, 0x60, 0x02]

/-- A monitor of a machine that carries the program, with a breakpoint at its second word. -/
def halfway : Monitor where
  console := { Console.create 8 .reference (.cycle #[]) false with
    machine := (Machine.powerOn .reference (.cycle #[])).act (.load twoWords) }
  breakpoints := [0x202]

/-- The first word is executed. -/
theorem halfway_steps :
    halfway.machine.step.outcome = .ok (some (.setByte 0 1)) ∧
      halfway.machine.step.machine.pc = 0x202 ∧ halfway.machine.step.machine.wait = none := by
  have room : twoWords.size ≤ programRoom := by decide
  have loaded : halfway.machine =
      (Machine.powerOn .reference (.cycle #[])).act (.load twoWords) := by
    rw [machine, halfway]
  have reads : halfway.machine.Reads (.setByte 0 1) := by
    rw [loaded]
    exact Machine.reads_load _ room rfl rfl (by decide)
  obtain ⟨pc_eq, idle⟩ : halfway.machine.pc = 0x200 ∧ halfway.machine.wait = none := by
    rw [loaded, Machine.act_load _ room]
    exact ⟨rfl, rfl⟩
  -- What the program is does not matter any more; unfolding it is what takes time.
  obtain ⟨machine, machine_eq⟩ : ∃ machine, machine = halfway.machine := ⟨_, rfl⟩
  rw [← machine_eq] at reads pc_eq idle ⊢
  obtain ⟨completed, span, step_eq⟩ := reads.step_of_total idle fun _ => rfl
  rw [step_eq]
  refine ⟨completed, ?_, idle⟩
  change machine.pc + 2 = 0x202
  rw [pc_eq]
  rfl

/-- The run stops in front of the second word, and says so. -/
theorem halfway_cuts :
    ∃ outcome, halfway.run "" = .ok outcome ∧
      outcome.monitor.machine = halfway.machine.act .step ∧
      outcome.lines = ["Breakpoint hit at 0x202"] := by
  obtain ⟨completed, pc_eq, idle⟩ := halfway_steps
  have breakpoints_eq : halfway.breakpoints = [0x202] := rfl
  have speed_eq : halfway.console.speed = 7 + 1 := rfl
  have read : numberOr 600 "" = .ok 600 := if_pos (by decide)
  obtain ⟨monitor, monitor_eq⟩ : ∃ monitor, monitor = halfway := ⟨_, rfl⟩
  rw [← monitor_eq] at completed pc_eq idle breakpoints_eq speed_eq ⊢
  obtain ⟨outcome, done, stop, line, ran, cut, machine_eq, lines_eq, tells, -⟩ :=
    monitor.run_cuts read
  have held : HeldUp monitor.breakpoints monitor.machine [.step] := by
    refine ⟨List.cons_ne_nil _ _, idle, ?_⟩
    rw [breakpoints_eq]
    exact List.mem_singleton.mpr pc_eq
  have free : Free monitor.breakpoints monitor.machine [.step] :=
    free_nil.step (fun held => held.1 rfl) completed
  have next : [Action.step] ++ [.step] <+:
      Action.frames frameTime monitor.console.speed (600 : Int).toNat := by
    have count_eq : (600 : Int).toNat = 599 + 1 := rfl
    have steps_eq : List.replicate (7 + 1) Action.step =
        [.step] ++ [.step] ++ List.replicate 6 .step := rfl
    rw [speed_eq, count_eq, Action.frames_succ, Action.frame, steps_eq, List.append_assoc,
      List.append_assoc]
    exact List.prefix_append _ _
  obtain ⟨rfl, rfl⟩ := cut.unique (.breakpoint next free held)
  refine ⟨outcome, ran, machine_eq, ?_⟩
  rw [lines_eq, tells.eq_of_breakpoint, Machine.run_cons, Machine.run_nil, Machine.act, pc_eq]
  rfl

end ChipEight.Monitor
