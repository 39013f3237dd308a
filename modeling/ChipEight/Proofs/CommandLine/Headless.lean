import ChipEight.Proofs.CommandLine.Arguments
import ChipEight.Proofs.CommandLine.Loading
import ChipEight.Proofs.Console.Schedule
import ChipEight.Proofs.Machine.Fetching
import ChipEight.Proofs.Screen.Printing

/-!
# Runs without a window

A run without a window does to its machine what the schedule of its frames says, up to the
first fault, with no key ever down (`CommandLine.headless_run`).  It prints the screen at
the end, the frames and the instructions completed, and its exit code tells whether there
was a fault.

The reference for a run starts from a machine at power-on with any source of random bytes.
The run has a source of its own, and perhaps its trace is on; neither matters to a program
that draws no random byte.
-/

namespace ChipEight.CommandLine

/-- A machine at power-on, with a program loaded. -/
def loaded (compatibility : Compatibility) (source : RandomBytes) (program : Array UInt8) :
    Machine screenWidth screenHeight :=
  (Machine.powerOn compatibility source).act (.load program)

/-- What happens to the machine: frames of a sixtieth of a second, as many as there are to
be, with no more than 255 steps each. -/
def schedule (speed frames : Int) : List Action :=
  Action.frames frameTime (min speed 255).toNat frames.toNat

/-- The reference for a run. -/
def reference (speed frames : Int) (compatibility : Compatibility) (source : RandomBytes)
    (program : Array UInt8) : Trial screenWidth screenHeight :=
  Trial.run { machine := loaded compatibility source program } (schedule speed frames)

/-- Whether a request asks for a run without a window. -/
structure Request.AsksHeadless (request : Request) (files : Files) (speed frames : Int)
    (compatibility : Compatibility) (program : Array UInt8) : Prop where
  headless : request.options.headless = true
  listsNot : request.options.disassemble = false
  monitorsNot : request.options.monitor = false
  speed : request.options.speed = .given speed
  frames : ∃ limit, request.options.frames = .given limit ∧ limit.getD headlessFrames = frames
  compatibility : request.options.compatibility = .given compatibility
  seed : request.options.seed ≠ .blank
  keymap : ∃ keymap, loadKeymap request.options files = .ok keymap
  program : files.read (Path.ofString request.program) = .ok program

variable {request : Request} {files : Files} {speed frames : Int}
  {compatibility : Compatibility} {program : Array UInt8}

/-- The command line of a run without a window asks for one. -/
theorem asksHeadless_of_arguments {name speedText framesText preset : String}
    (bare : name.toList.head? ≠ some '-') (read : files.read (Path.ofString name) = .ok program)
    (speedWritten : Text.writeInteger speed = .ok speedText) (positive : 1 ≤ speed)
    (framesWritten : Text.writeInteger frames = .ok framesText)
    (named : Compatibility.preset? preset = some compatibility) :
    ∃ request,
      Request.ofArguments (headlessArguments name speedText framesText preset) = .ok request ∧
      request.AsksHeadless files speed frames compatibility program :=
  ⟨_, ofArguments_headless bare speedWritten positive framesWritten named,
    { headless := rfl, listsNot := rfl, monitorsNot := rfl, speed := rfl
      frames := ⟨some frames, rfl, rfl⟩
      compatibility := rfl, seed := nofun, keymap := ⟨.empty, rfl⟩, program := read }⟩

/-! ## Before the frames -/

/-- The speed of a command line that is carried out is positive. -/
theorem one_le_speed {arguments : List String}
    (parsed : Request.ofArguments arguments = .ok request)
    (given : request.options.speed = .given speed) : 1 ≤ speed := by
  obtain ⟨classified, -, ended⟩ := bind_eq_ok_iff.mp parsed
  obtain ⟨reading, -, ended⟩ := bind_eq_ok_iff.mp ended
  split at ended
  · contradiction
  · obtain ⟨_, checked, ended⟩ := bind_eq_ok_iff.mp ended
    cases ended
    obtain ⟨_, -, checked⟩ := bind_eq_ok_iff.mp checked
    obtain ⟨_, -, checked⟩ := bind_eq_ok_iff.mp checked
    rw [given] at checked
    obtain ⟨value, value_eq, checked⟩ := bind_eq_ok_iff.mp checked
    cases value_eq
    split at checked
    · contradiction
    · omega
  · contradiction

theorem clampSpeed_eq (positive : 1 ≤ speed) : clampSpeed speed = (min speed 255).toNat := by
  rw [clampSpeed]
  omega

/-- A run loads its program into a fresh console. -/
theorem loadConsole_follows
    (asks : request.AsksHeadless files speed frames compatibility program)
    (small : program.size ≤ programRoom) (generator : RandomBytes.Generator) :
    ∃ source debug console, loadConsole request files generator = .ok console ∧
      console.Follows (clampSpeed speed) none
        { machine := (Console.create speed compatibility source debug).machine.act
            (.load program) } := by
  obtain ⟨source, loads⟩ :=
    loadConsole_eq asks.speed asks.compatibility asks.seed asks.program small generator
  exact ⟨source, request.options.debug, _, loads, ⟨rfl, rfl, rfl, rfl⟩⟩

/-! ## The frames -/

/-- A session without input on a loaded console comes to what the reference comes to.  Its
machine may have another source of random bytes and its trace on. -/
theorem session_follows (positive : 1 ≤ speed) {source other : RandomBytes} {debug : Bool}
    (undrawn : ∀ instruction ∈ (reference speed frames compatibility source program).executed,
      ¬ instruction.drawsByte)
    {console : Console} (unscripted : console.Unscripted)
    (follows : console.Follows (clampSpeed speed) none
      { machine := (Console.create speed compatibility other debug).machine.act (.load program) }) :
    ∃ variation,
      (console.run frames).console.Follows (clampSpeed speed) none
        ((reference speed frames compatibility source program).vary variation) ∧
      variation.cycles = id ∧ (console.run frames).frames = frames.toNat := by
  let variation : Variation := { random := fun _ => other, debug := fun _ => debug }
  have settings : variation.OfSettings := ⟨rfl, rfl, rfl⟩
  have varied : (Console.create speed compatibility other debug).machine.act (.load program) =
      (loaded compatibility source program).vary variation :=
    Machine.act_vary settings (Machine.powerOn compatibility source) nofun
  rw [varied] at follows
  obtain ⟨ran, frames_eq⟩ := follows.runFrom unscripted 0 frames.toNat
  refine ⟨variation, ?_, rfl, frames_eq.trans (Nat.zero_add _)⟩
  have same := Trial.run_vary settings rfl undrawn
  rw [clampSpeed_eq positive] at ran ⊢
  rw [reference, ← same]
  exact ran

/-! ## The reference -/

/-- A machine with its program loaded has executed nothing, waits for nothing and has no
call pending. -/
theorem loaded_fresh (small : program.size ≤ programRoom) (source : RandomBytes) :
    (loaded compatibility source program).cycles = 0 ∧
      (loaded compatibility source program).wait = none ∧
      (loaded compatibility source program).stack = [] := by
  rw [loaded, Machine.act_load _ small]
  exact ⟨rfl, rfl, rfl⟩

theorem inFrame_of_mem_schedule : ∀ action ∈ schedule speed frames, action.inFrame :=
  fun _ => Action.inFrame_of_mem_frames

/-- The machine of the reference counts the instructions completed. -/
theorem cycles_reference (small : program.size ≤ programRoom) (source : RandomBytes) :
    (reference speed frames compatibility source program).machine.cycles =
      (reference speed frames compatibility source program).executed.length := by
  have counted := @Trial.cycles_run _ _ { machine := loaded compatibility source program }
    (schedule speed frames) inFrame_of_mem_schedule
  rw [(loaded_fresh small source).1] at counted
  simpa [reference] using counted

/-- Where the reference neither faults nor waits for a key, every step completes an
instruction. -/
theorem length_reference (small : program.size ≤ programRoom) {source : RandomBytes}
    (unfaulted : (reference speed frames compatibility source program).fault = none)
    (unasked : ∀ x,
      .waitKey x ∉ (reference speed frames compatibility source program).executed) :
    (reference speed frames compatibility source program).executed.length =
      frames.toNat * (min speed 255).toNat := by
  have counted := @Trial.length_executed _ _ { machine := loaded compatibility source program }
    (schedule speed frames) inFrame_of_mem_schedule (loaded_fresh small source).2.1 unfaulted
    unasked
  rw [reference, counted, schedule, Action.countP_isStep_frames]
  exact Nat.zero_add _

/-- A fault of the reference is the first one, and leaves the screen for good. -/
theorem first_fault_reference {source : RandomBytes} {fault : Fault}
    (faulted : (reference speed frames compatibility source program).fault = some fault) :
    ∃ front, front ++ [.step] <+: schedule speed frames ∧
      (loaded compatibility source program).Completes front ∧
      ((loaded compatibility source program).run front).step.outcome = .error fault ∧
      (reference speed frames compatibility source program).machine.screen =
        ((loaded compatibility source program).run front).step.machine.screen := by
  obtain ⟨front, isFront, completes, met, screen_eq⟩ :=
    Trial.exists_first_fault rfl inFrame_of_mem_schedule faulted
  exact ⟨front, isFront, completes, met,
    screen_eq.trans (Machine.screen_step_of_error met).symm⟩

/-! ## The whole run -/

theorem run_of_asksHeadless {arguments : List String}
    (parsed : Request.ofArguments arguments = .ok request)
    (asks : request.AsksHeadless files speed frames compatibility program) (input : String)
    (generator : RandomBytes.Generator) (toolkit : Host.Toolkit) {console : Console}
    (started : loadConsole request files generator = .ok console) :
    run arguments files input generator toolkit = runHeadless request.options console := by
  obtain ⟨keymap, mapped⟩ := asks.keymap
  simp only [run, plan, parsed, Request.plan, mapped, started, asks.listsNot, asks.monitorsNot,
    asks.headless]
  rfl

/-- A run without a window shows where a session without input gets. -/
theorem runHeadless_eq (asks : request.AsksHeadless files speed frames compatibility program)
    (console : Console) :
    ∃ (quiet : Console) (earlier : String), quiet.Unscripted ∧
      (∀ {pace trial}, console.Follows pace none trial → quiet.Follows pace none trial) ∧
      let session := quiet.run frames
      (runHeadless request.options console).output = earlier ++
        unlines [session.console.machine.screen.print,
          s!"Ran {session.frames} frames, {session.console.machine.cycles} instructions."] ∧
      (runHeadless request.options console).ending =
        .exit (if session.console.lastFault.isSome then 2 else 0) := by
  obtain ⟨limit, given, limit_eq⟩ := asks.frames
  let quiet : Console :=
    { console with display := some (.recorder {}), audio := some (.silent {}) }
  refine ⟨quiet, outputOf (quiet.run frames).console.takeNotices.1, ⟨{}, rfl, rfl, rfl⟩,
    fun follows => ⟨follows.machine, follows.lastFault, follows.paused, follows.speed⟩, ?_⟩
  rw [← limit_eq, runHeadless, given]
  exact ⟨rfl, rfl⟩

/-- A run without a window, of a program that fits and draws no random byte in the
reference, prints the screen of the reference at its end, and then the frames and the
instructions that the reference completes.  The exit code is 2 if there is a fault and 0 if
there is none.  Without a fault and without a wait for a key every step completes an
instruction; and with a fault the screen is the one of the step that faults first. -/
theorem headless_run {arguments : List String}
    (parsed : Request.ofArguments arguments = .ok request)
    (asks : request.AsksHeadless files speed frames compatibility program)
    (small : program.size ≤ programRoom) (source : RandomBytes)
    (undrawn : ∀ instruction ∈ (reference speed frames compatibility source program).executed,
      ¬ instruction.drawsByte)
    (input : String) (generator : RandomBytes.Generator) (toolkit : Host.Toolkit) :
    let start := loaded compatibility source program
    let reference := reference speed frames compatibility source program
    let outcome := run arguments files input generator toolkit
    (∃ earlier shown,
      outcome.output = earlier ++ unlines [shown,
        s!"Ran {frames.toNat} frames, {reference.executed.length} instructions."] ∧
      Framebuffer.read? shown = some reference.machine.screen.cells) ∧
    outcome.ending = .exit (if reference.fault.isSome then 2 else 0) ∧
    (reference.fault = none → (∀ x, .waitKey x ∉ reference.executed) →
      reference.executed.length = frames.toNat * (min speed 255).toNat) ∧
    ∀ fault, reference.fault = some fault →
      ∃ front, front ++ [.step] <+: schedule speed frames ∧ start.Completes front ∧
        (start.run front).step.outcome = .error fault ∧
        reference.machine.screen = (start.run front).step.machine.screen := by
  intro start reference outcome
  obtain ⟨other, debug, console, started, loads⟩ := loadConsole_follows asks small generator
  obtain ⟨quiet, earlier, unscripted, same, output_eq, ending_eq⟩ := runHeadless_eq asks console
  obtain ⟨variation, follows, uncounted, frames_eq⟩ :=
    session_follows (one_le_speed parsed asks.speed) undrawn unscripted (same loads)
  have ran : outcome = runHeadless request.options console :=
    run_of_asksHeadless parsed asks input generator toolkit started
  have cycles_eq : (quiet.run frames).console.machine.cycles = reference.executed.length := by
    rw [follows.machine, ← cycles_reference small source]
    exact congrFun uncounted _
  have screen_eq : (quiet.run frames).console.machine.screen = reference.machine.screen :=
    congrArg (·.screen) follows.machine
  refine ⟨⟨earlier, reference.machine.screen.print, ?_, reference.machine.screen.read?_print ?_⟩,
    ?_, length_reference small, fun _ => first_fault_reference⟩
  · rw [ran, output_eq, frames_eq, cycles_eq, screen_eq]
  · decide
  · rw [ran, ending_eq, follows.lastFault, Option.or_none]
    rfl

/-- A program that draws the glyph of zero and then returns from no call. -/
def glyphThenReturn : Array UInt8 :=
  #[0xD0, 0x05, 0x00, 0xEE]

/-- A machine with that program loaded. -/
def glyphMachine : Machine screenWidth screenHeight :=
  loaded .reference (.cycle #[]) glyphThenReturn

/-- The files of a run of it. -/
def glyphFiles : Files :=
  .ofList [("glyph.ch8", .file glyphThenReturn)]

theorem read_glyph : glyphFiles.read (Path.ofString "glyph.ch8") = .ok glyphThenReturn :=
  Files.read_eq_ok (by decide +kernel) (by decide +kernel) (by decide +kernel)

theorem glyphMachine_reads {offset : Nat} {instruction : Instruction}
    (inside : offset + 2 ≤ programRoom)
    (decoded : Instruction.decode (.ofBytes (glyphThenReturn[offset]?.getD 0)
      (glyphThenReturn[offset + 1]?.getD 0)) = instruction) :
    { glyphMachine with pc := (programStart + offset : Nat) }.Reads instruction :=
  Machine.reads_load_at _ (by decide) inside decoded

theorem glyphMachine_parts :
    glyphMachine.pc = programStart ∧ glyphMachine.wait = none ∧ glyphMachine.stack = [] ∧
      glyphMachine.screen = .blank ∧ glyphMachine.register 0 = 0 ∧
      ∃ span : Span 5, Span.at? glyphMachine.index 5 = some span ∧
        (glyphMachine.bytes span).toList = [0xF0, 0x90, 0x90, 0x90, 0xF0] := by
  rw [glyphMachine, loaded, Machine.act_load _ (by decide)]
  refine ⟨rfl, rfl, rfl, rfl, rfl, ⟨0, by decide⟩, Span.at?_eq_some_iff.mpr rfl, ?_⟩
  simp [Machine.bytes, Span.read, Span.place, Machine.powerOn, programStart, glyphs,
    Vector.toList_ofFn, List.ofFn_succ]

/-- The first step draws the glyph, and the return comes up next. -/
theorem glyphMachine_draws :
    glyphMachine.step.outcome = .ok (some (.draw 0 0 5)) ∧
      glyphMachine.step.machine.screen =
        (Framebuffer.blank : Framebuffer screenWidth screenHeight).draw 0 0
          [0xF0, 0x90, 0x90, 0x90, 0xF0] ∧
      glyphMachine.step.machine.stack = [] ∧
      glyphMachine.step.machine.upcoming? = some .return := by
  obtain ⟨pc_eq, idle, stack_eq, screen_eq, register_eq, span, located, sprite_eq⟩ :=
    glyphMachine_parts
  have draws : glyphMachine.Reads (.draw 0 0 5) :=
    (@glyphMachine_reads 0 _ (by decide) (by decide)).congr pc_eq rfl
  have returns : { glyphMachine with pc := (programStart + 2 : Nat) }.Reads .return :=
    glyphMachine_reads (by decide) (by decide)
  generalize glyphMachine = machine at *
  obtain ⟨drawn, word, registers, machine_eq⟩ := draws.draws idle located
  have corner : (((0 : UInt8).toNat : Nat) : Int) = 0 := rfl
  rw [register_eq, screen_eq, sprite_eq, corner] at machine_eq
  refine ⟨drawn, ?_, ?_, ?_⟩
  · rw [machine_eq]
  · rw [Machine.stack, machine_eq]
    exact stack_eq
  · rw [Machine.upcoming?_eq_some_iff, machine_eq]
    refine ⟨idle, returns.congr ?_ rfl⟩
    simp only [pc_eq]
    rfl

/-- A run that faults at its second step. -/
theorem reference_of_second_fault {instruction : Instruction} {fault : Fault}
    (drawn : (loaded compatibility source program).step.outcome = .ok (some instruction))
    (ended : (loaded compatibility source program).step.machine.step.outcome = .error fault)
    (fast : 2 ≤ speed) (long : 1 ≤ frames) :
    let reference := reference speed frames compatibility source program
    reference.fault = some fault ∧ reference.executed = [instruction] ∧
      reference.machine.screen = (loaded compatibility source program).step.machine.screen := by
  obtain ⟨steps, speed_eq⟩ : ∃ steps, (min speed 255).toNat = steps + 2 :=
    ⟨(min speed 255).toNat - 2, by omega⟩
  obtain ⟨count, frames_eq⟩ : ∃ count, frames.toNat = count + 1 :=
    ⟨frames.toNat - 1, by omega⟩
  obtain ⟨rest, schedule_eq⟩ := Action.frames_eq_cons_cons frameTime steps count
  have inFrames : ∀ action ∈ rest, action.inFrame := by
    intro action member
    apply @Action.inFrame_of_mem_frames frameTime (steps + 2) (count + 1)
    rw [schedule_eq]
    exact List.mem_cons_of_mem _ (List.mem_cons_of_mem _ member)
  rw [reference, schedule, speed_eq, frames_eq, schedule_eq, Trial.run_step_of_ok rfl drawn]
  exact Trial.run_step_of_error rfl ended inFrames

/-- A run of it shows the glyph at the top left, counts one instruction and ends with exit
code 2. -/
theorem glyphThenReturn_exits :
    let outcome := run (headlessArguments "glyph.ch8" "8" "5" "default") glyphFiles ""
      (fun _ => .cycle #[]) {}
    (∃ earlier shown cells,
      outcome.output = earlier ++ unlines [shown, "Ran 5 frames, 1 instructions."] ∧
      Framebuffer.read? shown = some cells ∧
      (cells.take 5).map (·.take 4) =
        [[true, true, true, true], [true, false, false, true], [true, false, false, true],
          [true, false, false, true], [true, true, true, true]]) ∧
    outcome.ending = .exit 2 := by
  intro outcome
  obtain ⟨drawn, shown_eq, stack_eq, upcoming⟩ := glyphMachine_draws
  obtain ⟨fault_eq, executed_eq, screen_eq⟩ := reference_of_second_fault drawn
    (Machine.outcome_of_stray_return upcoming stack_eq) (by decide : (2 : Int) ≤ 8)
    (by decide : (1 : Int) ≤ 5)
  have speedWritten : Text.writeInteger 8 = .ok "8" := by decide +kernel
  have framesWritten : Text.writeInteger 5 = .ok "5" := by decide +kernel
  have asked : ∃ request,
      Request.ofArguments (headlessArguments "glyph.ch8" "8" "5" "default") = .ok request ∧
      request.AsksHeadless glyphFiles 8 5 .reference glyphThenReturn :=
    asksHeadless_of_arguments (by decide) read_glyph speedWritten (by decide) framesWritten
      (by decide)
  obtain ⟨request, parsed, asks⟩ := asked
  obtain ⟨⟨earlier, shown, output_eq, read⟩, ending_eq, -⟩ :=
    headless_run parsed asks (by decide) (.cycle #[])
      (by simp [executed_eq, Instruction.drawsByte]) "" (fun _ => .cycle #[]) {}
  rw [← glyphMachine, shown_eq] at screen_eq
  rw [fault_eq] at ending_eq
  rw [executed_eq] at output_eq
  rw [screen_eq] at read
  exact ⟨⟨earlier, shown, _, output_eq, read, by decide +kernel⟩, ending_eq⟩

end ChipEight.CommandLine
