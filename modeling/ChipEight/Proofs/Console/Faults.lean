import ChipEight.Proofs.Console.Calls
import ChipEight.Proofs.Machine.Surroundings

/-!
# Faults stay where they are

A fault never leaves a console: the console pauses and keeps it.  And a faulting step
leaves its machine where it was, with a cause that nothing outside the machine can take
away.  So until the console is reset or loaded, its machine stays put, and every frame
that runs the machine again meets the same fault again (`Console.faults_stick`).

While the machine stays put its keys, its timers and its trace switch may change, and it
may latch the faulting word.
-/

namespace ChipEight

namespace Machine

variable {width height : Nat} {machine next : Machine width height} {fault : Fault}

/-- Whether two machines differ at most in the latch of the fetched word and in the parts
that the surroundings own. -/
def Unmoved (machine next : Machine width height) : Prop :=
  ∃ word keypad delay sound debug, next =
    { machine with word := word, keypad := keypad, delay := delay, sound := sound, debug := debug }

theorem Unmoved.refl (machine : Machine width height) : machine.Unmoved machine :=
  ⟨machine.word, machine.keypad, machine.delay, machine.sound, machine.debug, rfl⟩

theorem Unmoved.trans {last : Machine width height} (first : machine.Unmoved next)
    (second : next.Unmoved last) : machine.Unmoved last := by
  rcases first with ⟨_, _, _, _, _, rfl⟩
  rcases second with ⟨word, keypad, delay, sound, debug, rfl⟩
  exact ⟨word, keypad, delay, sound, debug, rfl⟩

theorem Unmoved.pc (unmoved : machine.Unmoved next) : next.pc = machine.pc := by
  rcases unmoved with ⟨_, _, _, _, _, rfl⟩
  rfl

/-- The instructions that use what the surroundings own do not fault. -/
theorem unused_of_effect_eq_error {instruction : Instruction}
    (faulted : machine.effect instruction = .error fault) :
    ¬ instruction.usesTimers ∧ ¬ instruction.usesKeys := by
  cases instruction with
  | skipIfKey | skipUnlessKey | readDelay | waitKey | setDelay | setSound =>
    rw [effect] at faulted
    contradiction
  | _ => exact ⟨Bool.false_ne_true, Bool.false_ne_true⟩

theorem unmoved_step (faulted : machine.step.outcome = .error fault) :
    machine.Unmoved machine.step.machine := by
  have steps := machine.steps_step
  generalize machine.step = result at steps faulted ⊢
  cases steps with
  | waits | finishes | executes => contradiction
  | leaves => exact .refl machine
  | @faults span =>
    exact ⟨machine.wordAt span, machine.keypad, machine.delay, machine.sound, machine.debug, rfl⟩

/-- What does not move a machine does not take its fault away. -/
theorem Unmoved.outcome (unmoved : machine.Unmoved next)
    (faulted : machine.step.outcome = .error fault) : next.step.outcome = .error fault := by
  obtain ⟨word, keypad, delay, sound, debug, next_eq⟩ := unmoved
  have wait_eq : next.wait = machine.wait := by rw [next_eq]
  have pc_eq : next.pc = machine.pc := by rw [next_eq]
  have steps := machine.steps_step
  generalize machine.step = result at steps faulted
  cases steps with
  | waits | finishes | executes => contradiction
  | leaves idle outside =>
    rw [next.step_of_outside (wait_eq.trans idle) (by rw [pc_eq, outside]), pc_eq]
    exact faulted
  | @faults span _ idle fetched suffered =>
    cases faulted
    obtain ⟨untimed, unkeyed⟩ := unused_of_effect_eq_error suffered
    -- The fetched machines differ by what the surroundings have set since.
    have again := (machine.fetch span).effect_disturb
      ⟨fun _ => keypad, fun _ => delay, fun _ => sound, fun _ => debug⟩
      (fun uses => absurd uses untimed) (fun uses => absurd uses unkeyed)
    rw [suffered] at again
    have suffered_again : (next.fetch span).effect (next.instructionAt span) = .error fault := by
      rw [next_eq]
      exact again
    rw [next.step_of_fault (wait_eq.trans idle) (by rw [pc_eq, fetched]) suffered_again]

end Machine

namespace Console

variable {console : Console} {fault : Fault}

/-- A step that meets a fault keeps it, reports it and pauses. -/
theorem step_eq_of_fault (faulted : console.machine.step.outcome = .error fault) :
    ∃ display notices, console.step =
      ({ console with
          machine := console.machine.step.machine, display := display
          lastFault := some fault, paused := true
          notices := (console.notices ++ notices).push (.fault console.machine.pc fault) },
        false) := by
  obtain ⟨display, notices, cycled⟩ := console.cycle_eq
  refine ⟨display, notices, ?_⟩
  rw [step_of_error faulted, cycled, ← (Machine.unmoved_step faulted).pc]
  rfl

/-- Steps end with the first one that meets a fault. -/
theorem steps_of_fault (faulted : console.machine.step.outcome = .error fault) (count : Nat) :
    console.steps (count + 1) = (console.step.1, 0) ∧
      console.stepsDeeds (count + 1) = [.step console.machine] := by
  obtain ⟨display, notices, stepped⟩ := step_eq_of_fault faulted
  constructor
  · rw [steps, stepped]
  · rw [stepsDeeds, stepped]

/-! ## A console that is stuck -/

variable {machine : Machine screenWidth screenHeight}

/-- Whether a console has met a fault of a machine and is where it met it. -/
structure Stuck (machine : Machine screenWidth screenHeight) (fault : Fault) (console : Console) :
    Prop where
  unmoved : machine.Unmoved console.machine
  lastFault : console.lastFault = some fault

/-- After a step that meets a fault, a console is stuck with it. -/
theorem stuck_step (faulted : console.machine.step.outcome = .error fault) :
    console.step.1.Stuck console.machine fault ∧ console.step.1.paused := by
  obtain ⟨display, notices, stepped⟩ := step_eq_of_fault faulted
  rw [stepped]
  exact ⟨⟨Machine.unmoved_step faulted, rfl⟩, rfl⟩

theorem Stuck.step (stuck : console.Stuck machine fault)
    (faulted : machine.step.outcome = .error fault) : console.step.1.Stuck machine fault := by
  obtain ⟨again, -⟩ := stuck_step (stuck.unmoved.outcome faulted)
  exact ⟨stuck.unmoved.trans again.unmoved, again.lastFault⟩

theorem Stuck.burst (stuck : console.Stuck machine fault)
    (faulted : machine.step.outcome = .error fault) : console.burst.1.Stuck machine fault := by
  rw [Console.burst]
  split
  · exact stuck
  · cases console.speed with
    | zero => exact stuck
    | succ count =>
      rw [(steps_of_fault (stuck.unmoved.outcome faulted) count).1]
      exact stuck.step faulted

theorem Stuck.pass (stuck : console.Stuck machine fault) (elapsed : Float) :
    (console.pass elapsed).Stuck machine fault := by
  obtain ⟨tone, audio, toolkit, reportElapsed, reportFrames, notices, passed⟩ :=
    console.pass_eq elapsed
  rw [passed]
  exact ⟨stuck.unmoved.trans ⟨_, _, _, _, _, rfl⟩, stuck.lastFault⟩

theorem Stuck.runFrame (stuck : console.Stuck machine fault)
    (faulted : machine.step.outcome = .error fault) (elapsed : Float) :
    (console.runFrame elapsed).1.Stuck machine fault :=
  (stuck.burst faulted).pass elapsed

theorem Stuck.handle (stuck : console.Stuck machine fault) {command : Command}
    (noReset : command ≠ .reset) : (console.handle command).1.Stuck machine fault := by
  cases command with
  | reset => contradiction
  | debug => exact ⟨stuck.unmoved.trans ⟨_, _, _, _, _, rfl⟩, stuck.lastFault⟩
  | _ => exact ⟨stuck.unmoved, stuck.lastFault⟩

/-- Whether a call neither loads nor resets, nor runs a session, which may do so. -/
def Call.isQuiet : Call → Bool
  | .step | .frame _ | .keys _ | .queue _ => true
  | .command given => given != .reset
  | .load _ _ | .run _ | .reset => false

/-- A quiet call does not move the machine. -/
theorem Stuck.call (stuck : console.Stuck machine fault)
    (faulted : machine.step.outcome = .error fault) {call : Call} (quiet : call.isQuiet) :
    (console.call call).Stuck machine fault := by
  cases call with
  | step => exact stuck.step faulted
  | frame elapsed => exact stuck.runFrame faulted elapsed
  | keys change => exact ⟨stuck.unmoved.trans ⟨_, _, _, _, _, rfl⟩, stuck.lastFault⟩
  | queue commands =>
    rw [Console.call, queue]
    split <;> exact ⟨stuck.unmoved, stuck.lastFault⟩
  | command given =>
    rw [Call.isQuiet] at quiet
    exact stuck.handle (bne_iff_ne.mp quiet)
  | load | run | reset =>
    rw [Call.isQuiet] at quiet
    contradiction

theorem Stuck.calls (stuck : console.Stuck machine fault)
    (faulted : machine.step.outcome = .error fault) {calls : List Call}
    (quiet : ∀ call ∈ calls, call.isQuiet) : (console.calls calls).Stuck machine fault := by
  induction calls generalizing console with
  | nil => exact stuck
  | cons first rest ih =>
    exact ih (stuck.call faulted (quiet first List.mem_cons_self))
      fun call member => quiet call (List.mem_cons_of_mem first member)

/-! ## Meeting a fault -/

/-- Steps end with the one that meets a fault. -/
theorem stuck_of_mem_stepsDeeds {count : Nat} (taken : .step machine ∈ console.stepsDeeds count)
    (faulted : machine.step.outcome = .error fault) :
    (console.steps count).1.Stuck machine fault ∧ (console.steps count).1.paused := by
  induction count generalizing console with
  | zero => contradiction
  | succ count ih =>
    cases ended : console.machine.step.outcome with
    | ok executed =>
      have stepped : console.step = (console.cycle.1, true) := step_of_ok ended
      rw [stepsDeeds, stepped] at taken
      rw [Console.steps, stepped]
      rcases List.mem_cons.mp taken with this_step | later
      · cases this_step
        rw [ended] at faulted
        contradiction
      · exact ih later
    | error met =>
      obtain ⟨ran, deeds⟩ := steps_of_fault ended count
      rw [deeds] at taken
      cases List.mem_singleton.mp taken
      rw [ran]
      exact stuck_step faulted

theorem stuck_of_mem_frameDeeds (taken : .step machine ∈ console.frameDeeds)
    (faulted : machine.step.outcome = .error fault) (elapsed : Float) :
    (console.runFrame elapsed).1.Stuck machine fault ∧ (console.runFrame elapsed).1.paused := by
  rw [frameDeeds] at taken
  rw [runFrame_eq, burst]
  split at taken
  · contradiction
  · rename_i running
    obtain ⟨stuck, paused⟩ := stuck_of_mem_stepsDeeds taken faulted
    rw [if_neg running]
    refine ⟨stuck.pass elapsed, ?_⟩
    rw [pass_paused]
    exact paused

/-- A call that meets a fault keeps it and pauses. -/
theorem stuck_of_mem_callDeeds {call : Call} (single : ∀ budget, call ≠ .run budget)
    (taken : .step machine ∈ console.callDeeds call)
    (faulted : machine.step.outcome = .error fault) :
    (console.call call).Stuck machine fault ∧ (console.call call).paused := by
  cases call with
  | step =>
    cases List.mem_singleton.mp taken
    exact stuck_step faulted
  | frame elapsed => exact stuck_of_mem_frameDeeds taken faulted elapsed
  | command given => cases given <;> simp [callDeeds, commandDeeds] at taken
  | run budget => exact absurd rfl (single budget)
  | load | keys | queue | reset => simp [callDeeds] at taken

/-! ## Meeting it again -/

/-- Whether a frame takes a single step, which meets a fault where a machine met it, and
then pauses. -/
structure FaultsAgain (machine : Machine screenWidth screenHeight) (fault : Fault)
    (console : Console) (elapsed : Float) : Prop where
  deeds : console.frameDeeds = [.step console.machine]
  outcome : console.machine.step.outcome = .error fault
  executed : (console.runFrame elapsed).2 = 0
  paused : (console.runFrame elapsed).1.paused
  reported : ∃ before after, (console.runFrame elapsed).1.notices =
    (console.notices ++ before).push (.fault machine.pc fault) ++ after

theorem Stuck.faultsAgain (stuck : console.Stuck machine fault)
    (faulted : machine.step.outcome = .error fault) (running : ¬ console.paused)
    (moves : 1 ≤ console.speed) (elapsed : Float) :
    FaultsAgain machine fault console elapsed := by
  have again := stuck.unmoved.outcome faulted
  obtain ⟨count, speed_eq⟩ := Nat.exists_eq_add_of_le' moves
  obtain ⟨stepped, deeds⟩ := steps_of_fault again count
  have ran : console.runFrame elapsed = (console.step.1.pass elapsed, 0) := by
    rw [runFrame_eq, Console.burst, if_neg running, speed_eq, stepped]
  obtain ⟨display, before, step_eq⟩ := step_eq_of_fault again
  obtain ⟨tone, audio, toolkit, reportElapsed, reportFrames, after, passed⟩ :=
    console.step.1.pass_eq elapsed
  refine ⟨?_, again, ?_, ?_, before, after, ?_⟩
  · rw [frameDeeds, if_neg running, speed_eq, deeds]
  · rw [ran]
  · rw [ran, pass_paused]
    exact (stuck_step again).2
  · rw [ran, passed, step_eq, ← stuck.unmoved.pc]

/-- A frame that is run while the console pauses runs nothing and does not end the pause. -/
theorem runFrame_of_paused (paused : console.paused) (elapsed : Float) :
    console.frameDeeds = [] ∧ (console.runFrame elapsed).2 = 0 ∧
      (console.runFrame elapsed).1.paused := by
  rw [frameDeeds, runFrame_eq, burst, if_pos paused, if_pos paused, pass_paused]
  exact ⟨rfl, rfl, paused⟩

/-- A call that meets a fault, in whichever step, keeps the fault and pauses; none can
escape.  However quiet calls follow one another after it, the machine does not move.  A
frame runs nothing while the console pauses, and meets the same fault again once it does
not. -/
theorem faults_stick (console : Console) {call : Call} (single : ∀ budget, call ≠ .run budget)
    {machine : Machine screenWidth screenHeight} (taken : .step machine ∈ console.callDeeds call)
    {fault : Fault} (faulted : machine.step.outcome = .error fault) :
    ((console.call call).paused ∧ (console.call call).lastFault = some fault) ∧
      ∀ calls : List Call, (∀ other ∈ calls, other.isQuiet) →
        let later := (console.call call).calls calls
        machine.Unmoved later.machine ∧ later.lastFault = some fault ∧
          ∀ elapsed,
            (later.paused → later.frameDeeds = [] ∧ (later.runFrame elapsed).2 = 0 ∧
              (later.runFrame elapsed).1.paused) ∧
            (¬ later.paused → console.Paced → FaultsAgain machine fault later elapsed) := by
  obtain ⟨met, paused⟩ := stuck_of_mem_callDeeds single taken faulted
  refine ⟨⟨paused, met.lastFault⟩, ?_⟩
  intro calls quiet later
  have stuck : later.Stuck machine fault := met.calls faulted quiet
  refine ⟨stuck.unmoved, stuck.lastFault, ?_⟩
  intro elapsed
  refine ⟨fun pauses => runFrame_of_paused pauses elapsed, ?_⟩
  intro running paced
  have laterPaced : later.Paced := paced.calls (call :: calls)
  exact stuck.faultsAgain faulted running laterPaced.1 elapsed

/-- A console about to return while no call is pending. -/
def strayReturn : Console :=
  { create 8 .reference (.cycle #[]) false with machine := .strayReturn }

/-- The frame meets the fault, and so does the next one that is not paused. -/
theorem strayReturn_sticks :
    (strayReturn.call (.frame frameTime)).lastFault = some .stackUnderflow ∧
      FaultsAgain .strayReturn .stackUnderflow
        ((strayReturn.call (.frame frameTime)).calls [.keys (.press 5), .command .unpause])
        frameTime := by
  have taken : .step .strayReturn ∈ strayReturn.callDeeds (.frame frameTime) := by
    have speed_eq : strayReturn.speed = 7 + 1 := rfl
    have running : ¬ strayReturn.paused := Bool.false_ne_true
    rw [callDeeds, frameDeeds, if_neg running, speed_eq, stepsDeeds]
    exact List.mem_cons_self
  obtain ⟨⟨-, kept⟩, after⟩ :=
    strayReturn.faults_stick (by simp) taken Machine.strayReturn_underflows
  have quiet : ∀ other ∈ [Call.keys (.press 5), .command .unpause], other.isQuiet := by
    simp [Call.isQuiet]
  obtain ⟨-, -, frames⟩ := after _ quiet
  have running (console : Console) :
      ¬ (console.calls [.keys (.press 5), .command .unpause]).paused := Bool.false_ne_true
  have paced : 1 ≤ clampSpeed 8 ∧ clampSpeed 8 ≤ 255 :=
    paced_create 8 .reference (.cycle #[]) false
  exact ⟨kept, (frames frameTime).2 (running _) paced⟩

end Console

end ChipEight
