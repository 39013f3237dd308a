import ChipEight.Proofs.Console.Source

/-!
# What a session does

A session is made of rounds, and then it ends.  A round polls the display once, carries
out all commands of the poll in order, asks the display once for the time and runs a frame
that takes it.  A session ends with its last frame, with a poll that has a command to quit,
of which only the commands before that one take effect, or with a failure of the window
(`Console.runFrom_follows`).

Without a window it is known from the start which rounds there will be: those that the
recorder has been given, up to the first one with a command to quit.

A session that has finished can be carried on, and the two come to one longer session
(`Console.runFrom_add`).
-/

namespace ChipEight

namespace Console

/-! ## Rounds -/

/-- From one console to another by rounds, in each of which the display is polled and
asked for the time once, and no command is to quit. -/
inductive Rounds : Console → List Round → Console → Prop where
  | none (console : Console) : Rounds console [] console
  | one {console polled ticked last : Console} {round : Round} {later : List Round}
      (polls : console.poll = (polled, .ok round.commands))
      (stays : .quit ∉ round.commands)
      (ticks : (polled.carryOut round.commands).tick = (ticked, .ok round.elapsed))
      (rest : Rounds (ticked.runFrame round.elapsed).1 later last) :
      Rounds console (round :: later) last

/-- How a session ends that has come to a console by rounds, and the console that it
leaves. -/
inductive Ends : Console → Ending → Console → Prop where
  /-- Nothing follows the last frame. -/
  | finished (console : Console) : Ends console .finished console
  /-- The commands before the first one to quit take effect, and nothing follows them. -/
  | quit {console polled : Console} {before after : List Command}
      (polls : console.poll = (polled, .ok (before ++ .quit :: after)))
      (stays : .quit ∉ before) :
      Ends console .quit (polled.carryOut before)
  /-- The poll fails. -/
  | unpolled {console ended : Console} {error : Host.WindowError}
      (fails : console.poll = (ended, .error error)) :
      Ends console (.failed error) ended
  /-- The display cannot tell the time. -/
  | unticked {console polled ended : Console} {commands : List Command}
      {error : Host.WindowError}
      (polls : console.poll = (polled, .ok commands))
      (stays : .quit ∉ commands)
      (fails : (polled.carryOut commands).tick = (ended, .error error)) :
      Ends console (.failed error) ended

/-! ## Sessions are rounds -/

/-- What precedes a frame begins a round or ends the session. -/
theorem turn_cases (console : Console) :
    (∃ polled ticked, ∃ round : Round, console.poll = (polled, .ok round.commands) ∧
      .quit ∉ round.commands ∧
      (polled.carryOut round.commands).tick = (ticked, .ok round.elapsed) ∧
      console.turn = (ticked, .frame round.elapsed)) ∨
    (∃ ended, console.Ends .quit ended ∧ console.turn = (ended, .quit)) ∨
    ∃ ended error, console.Ends (.failed error) ended ∧
      console.turn = (ended, .failed error) := by
  rcases poll_eq : console.poll with ⟨polled, error | commands⟩
  · exact .inr (.inr ⟨polled, error, .unpolled poll_eq, by simp only [turn, poll_eq]⟩)
  · by_cases quits : .quit ∈ commands
    · obtain ⟨before, after, rfl, stays⟩ := List.eq_append_cons_of_mem quits
      refine .inr (.inl ⟨polled.carryOut before, .quit poll_eq stays, ?_⟩)
      simp only [turn, poll_eq, handleAll_eq, heeded_append_quit stays, quits, not_true,
        decide_false, carryOut]
    · rcases tick_eq : (polled.carryOut commands).tick with ⟨ticked, error | elapsed⟩
      · refine .inr (.inr ⟨ticked, error, .unticked poll_eq quits tick_eq, ?_⟩)
        rw [carryOut] at tick_eq
        simp only [turn, poll_eq, handleAll_eq, heeded_of_stays quits, quits, not_false_iff,
          decide_true, tick_eq]
      · refine .inl ⟨polled, ticked, ⟨commands, elapsed⟩, rfl, quits, tick_eq, ?_⟩
        rw [carryOut] at tick_eq
        simp only [turn, poll_eq, handleAll_eq, heeded_of_stays quits, quits, not_false_iff,
          decide_true, tick_eq]

/-- A session is made of rounds, one for each of its frames, and then ends.  It finishes
exactly if it has run all its frames. -/
theorem runFrom_follows (console : Console) (count budget : Nat) :
    ∃ rounds reached, console.Rounds rounds reached ∧
      reached.Ends (console.runFrom count budget).ending
        (console.runFrom count budget).console ∧
      (console.runFrom count budget).frames = count + rounds.length ∧
      rounds.length ≤ budget ∧
      ((console.runFrom count budget).ending = .finished ↔ rounds.length = budget) := by
  induction budget generalizing console count with
  | zero =>
    refine ⟨[], console, .none console, .finished console, rfl, Nat.le_refl 0, ?_⟩
    simp [runFrom]
  | succ budget ih =>
    rcases console.turn_cases with
      ⟨polled, ticked, round, polls, stays, ticks, turned⟩ | ⟨ended, ends, turned⟩ |
        ⟨ended, error, ends, turned⟩
    · obtain ⟨later, reached, rounds, ends, frames_eq, within, finished_iff⟩ :=
        ih (ticked.runFrame round.elapsed).1 (count + 1)
      rw [runFrom, turned]
      refine ⟨round :: later, reached, .one polls stays ticks rounds, ends, ?_, ?_, ?_⟩
      · rw [frames_eq, List.length_cons]
        omega
      · rw [List.length_cons]
        omega
      · rw [finished_iff, List.length_cons]
        omega
    · rw [runFrom, turned]
      exact ⟨[], console, .none console, ends, rfl, Nat.zero_le _, by simp⟩
    · rw [runFrom, turned]
      exact ⟨[], console, .none console, ends, rfl, Nat.zero_le _, by simp⟩

/-- A session counts on from the frames that were run before it. -/
theorem runFrom_count (console : Console) (count budget : Nat) :
    console.runFrom count budget =
      { console.runFrom 0 budget with frames := count + (console.runFrom 0 budget).frames } := by
  suffices shifted : ∀ before, console.runFrom (count + before) budget =
      { console.runFrom before budget with
        frames := count + (console.runFrom before budget).frames } from shifted 0
  induction budget generalizing console with
  | zero =>
    intro before
    rfl
  | succ budget ih =>
    intro before
    rw [runFrom, runFrom]
    rcases console.turn with ⟨ready, elapsed | _ | error⟩
    · exact ih (ready.runFrame elapsed).1 (before + 1)
    · rfl
    · rfl

/-- A session that finished is carried on by another one as by one that is longer. -/
theorem runFrom_add (console : Console) (count budget more : Nat)
    (finished : (console.runFrom count budget).ending = .finished) :
    (console.runFrom count budget).console.runFrom (count + budget) more =
      console.runFrom count (budget + more) := by
  induction budget generalizing console count with
  | zero =>
    rw [Nat.zero_add]
    rfl
  | succ budget ih =>
    rw [Nat.succ_add, runFrom, runFrom]
    rw [runFrom] at finished
    rcases turn_eq : console.turn with ⟨ready, elapsed | _ | error⟩ <;>
      rw [turn_eq] at finished
    · have carriedOn := ih (ready.runFrame elapsed).1 (count + 1) finished
      rw [Nat.add_right_comm, Nat.add_assoc] at carriedOn
      exact carriedOn
    · contradiction
    · contradiction

/-- The same of sessions that are asked for a number of frames. -/
theorem run_add (console : Console) {budget more : Int} (started : 0 ≤ budget)
    (further : 0 ≤ more) (finished : (console.run budget).ending = .finished) :
    let rest := (console.run budget).console.run more
    console.run (budget + more) = { rest with frames := budget.toNat + rest.frames } := by
  intro rest
  have carriedOn := console.runFrom_add 0 budget.toNat more.toNat finished
  rw [runFrom_count, Nat.zero_add, ← Int.toNat_add started further] at carriedOn
  exact carriedOn.symm

/-! ## Frames are counted -/

/-- Whether an operation ends a frame. -/
def Operation.endsFrame : Operation → Bool
  | .pass _ => true
  | _ => false

theorem frames_operate (console : Console) (operation : Operation) :
    (console.operate operation).frames = console.frames + operation.endsFrame.toNat := by
  cases operation with
  | step =>
    obtain ⟨display, lastFault, paused, notices, stepped⟩ := console.step_eq
    rw [operate, stepped]
    rfl
  | pass elapsed =>
    obtain ⟨tone, audio, toolkit, reportElapsed, reportFrames, notices, passed⟩ :=
      console.pass_eq elapsed
    rw [operate, passed]
    rfl
  | command command =>
    cases command with
    | reset =>
      obtain ⟨display, tone, audio, toolkit, reset_eq⟩ := console.reset_eq
      rw [operate, Console.handle, reset_eq]
      rfl
    | _ => rfl
  | poll =>
    obtain ⟨display, toolkit, keypad, polled⟩ := console.poll_eq
    rw [operate, polled]
    rfl
  | tick =>
    obtain ⟨display, toolkit, ticked⟩ := console.tick_eq
    rw [operate, ticked]
    rfl
  | load program name =>
    obtain ⟨programName, loaded⟩ := console.call_load_eq program name
    rw [operate, loaded]
    rfl
  | keys change => rfl
  | queue commands =>
    obtain ⟨display, queued⟩ := console.queue_eq commands
    rw [operate, queued]
    rfl

theorem frames_operateAll (console : Console) (operations : List Operation) :
    (console.operateAll operations).frames =
      console.frames + operations.countP Operation.endsFrame := by
  induction operations generalizing console with
  | nil => rfl
  | cons first rest ih =>
    rw [operateAll_cons, ih, frames_operate, List.countP_cons]
    cases first.endsFrame with
    | false => rfl
    | true => exact Nat.add_right_comm _ _ _

theorem frames_carryOut (console : Console) (commands : List Command) :
    (console.carryOut commands).frames = console.frames := by
  rw [carryOut, frames_operateAll, List.countP_map]
  simp [Function.comp_def, Operation.endsFrame]

theorem frames_runFrame (console : Console) (elapsed : Float) :
    (console.runFrame elapsed).1.frames = console.frames + 1 := by
  rw [runFrame_eq_operateAll, frames_operateAll, frameOperations]
  simp [List.countP_replicate, Operation.endsFrame]

variable {console polled ticked last : Console} {rounds : List Round} {ending : Ending}

theorem frames_of_poll {outcome : Except Host.WindowError (List Command)}
    (polls : console.poll = (polled, outcome)) : polled.frames = console.frames := by
  have counted := console.frames_operate .poll
  rwa [operate, polls] at counted

theorem frames_of_tick {outcome : Except Host.WindowError Float}
    (ticks : console.tick = (ticked, outcome)) : ticked.frames = console.frames := by
  have counted := console.frames_operate .tick
  rwa [operate, ticks] at counted

/-- Every round counts as a frame. -/
theorem Rounds.frames (follows : console.Rounds rounds last) :
    last.frames = console.frames + rounds.length := by
  induction follows with
  | none console => rfl
  | one polls stays ticks rest ih =>
    rw [ih, frames_runFrame, frames_of_tick ticks, frames_carryOut, frames_of_poll polls,
      List.length_cons]
    omega

/-- Nothing that ends a session counts as a frame. -/
theorem Ends.frames (ends : console.Ends ending last) : last.frames = console.frames := by
  cases ends with
  | finished => rfl
  | quit polls stays => rw [frames_carryOut, frames_of_poll polls]
  | unpolled fails => exact frames_of_poll fails
  | unticked polls stays fails =>
    rw [frames_of_tick fails, frames_carryOut, frames_of_poll polls]

/-! ## Sessions without a window -/

/-- Without a window the rounds of a session are the first of those to come. -/
theorem Rounds.scripted (follows : console.Rounds rounds last)
    (scripted : console.source ≠ .window) :
    last.source = Source.next^[rounds.length] console.source ∧
      rounds = (List.range rounds.length).map console.source.round ∧
      ∀ round ∈ rounds, .quit ∉ round.commands := by
  induction follows with
  | none console => exact ⟨rfl, rfl, by simp⟩
  | @one console polled ticked last round later polls stays ticks rest ih =>
    have poll_eq := (poll_of_scripted scripted).1
    obtain ⟨ready_source, tick_eq⟩ := tick_carryOut_poll scripted round.commands
    simp only [polls, Prod.mk.injEq, Except.ok.injEq] at poll_eq ready_source tick_eq
    rw [ticks, Prod.mk.injEq, Except.ok.injEq] at tick_eq
    obtain ⟨-, commands_eq⟩ := poll_eq
    obtain ⟨rfl, elapsed_eq⟩ := tick_eq
    have round_eq : round = console.source.round 0 := Round.ext commands_eq elapsed_eq
    have framed : ((polled.carryOut round.commands).runFrame round.elapsed).1.source =
        console.source.next := (source_runFrame _ _).trans ready_source
    obtain ⟨last_source, later_eq, all_stay⟩ := ih (framed ▸ Source.next_ne_window scripted)
    have shifted : console.source.next.round = console.source.round ∘ Nat.succ :=
      funext console.source.round_next
    rw [framed] at last_source later_eq
    refine ⟨last_source, ?_, List.forall_mem_cons.mpr ⟨stays, all_stay⟩⟩
    rw [List.length_cons, List.range_succ_eq_map, List.map_cons, List.map_map, ← round_eq,
      ← shifted]
    exact congrArg (round :: ·) later_eq

/-- Without a window a session ends with its last frame, or in a round that has a command
to quit. -/
theorem Ends.scripted (ends : console.Ends ending last) (scripted : console.source ≠ .window) :
    ending = .finished ∧ last.source = console.source ∨
      ending = .quit ∧ last.source = console.source.next ∧
        .quit ∈ (console.source.round 0).commands := by
  obtain ⟨poll_eq, polled_source⟩ := poll_of_scripted scripted
  cases ends with
  | finished => exact .inl ⟨rfl, rfl⟩
  | quit polls stays =>
    simp only [polls, Prod.mk.injEq, Except.ok.injEq, true_and] at poll_eq polled_source
    refine .inr ⟨rfl, (source_carryOut _ _).trans polled_source, ?_⟩
    rw [← poll_eq]
    simp
  | unpolled fails => simp [fails] at poll_eq
  | @unticked polled _ commands _ polls stays fails =>
    have tick_eq := (tick_carryOut_poll scripted commands).2
    simp [polls, fails] at tick_eq

/-- The rounds up to the first one with a command to quit. -/
theorem takeWhile_rounds (round : Nat → Round) {count budget : Nat} (within : count ≤ budget)
    (all_stay : ∀ given ∈ (List.range count).map round, .quit ∉ given.commands)
    (stops : count < budget → .quit ∈ (round count).commands) :
    ((List.range budget).map round).takeWhile (fun given => .quit ∉ given.commands) =
      (List.range count).map round := by
  obtain ⟨more, rfl⟩ := Nat.exists_eq_add_of_le within
  rw [List.range_add, List.map_append, List.takeWhile_append_of_pos (by simpa using all_stay)]
  cases more with
  | zero => simp
  | succ more =>
    have quits : .quit ∈ (round count).commands := stops (by omega)
    rw [List.range_succ_eq_map]
    simp [quits]

variable {reached : Console}

/-- Without a window there is a round for every poll up to the first one with a command to
quit, as far as the session is asked to go. -/
theorem Ends.rounds_eq (ends : reached.Ends ending last) (follows : console.Rounds rounds reached)
    (scripted : console.source ≠ .window) {budget : Nat} (within : rounds.length ≤ budget)
    (finished_iff : ending = .finished ↔ rounds.length = budget) :
    rounds = ((List.range budget).map console.source.round).takeWhile
      fun round => .quit ∉ round.commands := by
  obtain ⟨reached_source, rounds_eq, all_stay⟩ := follows.scripted scripted
  have stops : rounds.length < budget →
      .quit ∈ (console.source.round rounds.length).commands := by
    intro early
    rcases ends.scripted (reached_source ▸ Source.iterate_ne_window scripted _) with
      ⟨finished, -⟩ | ⟨-, -, quits⟩
    · exact absurd (finished_iff.mp finished) (Nat.ne_of_lt early)
    · rwa [reached_source, Source.round_iterate, Nat.zero_add] at quits
  rw [takeWhile_rounds console.source.round within (rounds_eq ▸ all_stay) stops]
  exact rounds_eq

/-- Without a window the display has been polled once for each round, and once more if the
session ends with a command to quit. -/
theorem Ends.source_eq (ends : reached.Ends ending last) (follows : console.Rounds rounds reached)
    (scripted : console.source ≠ .window) :
    ending = .finished ∧ last.source = Source.next^[rounds.length] console.source ∨
      ending = .quit ∧ last.source = Source.next^[rounds.length + 1] console.source := by
  obtain ⟨reached_source, -⟩ := follows.scripted scripted
  rcases ends.scripted (reached_source ▸ Source.iterate_ne_window scripted _) with
    ⟨finished, last_source⟩ | ⟨quit, last_source, -⟩
  · exact .inl ⟨finished, last_source.trans reached_source⟩
  · refine .inr ⟨quit, ?_⟩
    rw [last_source, reached_source, Function.iterate_succ_apply']

/-! ## The accounts of a session -/

/-- A session is made of rounds, one for each of its frames, and then ends.  All frames are
run unless there is a command to quit, or a window that fails.  Without a window, the rounds
are those to come up to the first one with a command to quit, and the display has been
polled once for each of them and for that one.  A session that has run all its frames and
another one after it come to one longer session. -/
theorem run_accounts (console : Console) (budget : Int) :
    let session := console.run budget
    (∃ rounds reached, console.Rounds rounds reached ∧
      reached.Ends session.ending session.console ∧
      session.frames = rounds.length ∧
      session.console.frames = console.frames + rounds.length ∧
      (console.source ≠ .window →
        rounds = ((List.range budget.toNat).map console.source.round).takeWhile
          fun round => .quit ∉ round.commands)) ∧
    (session.frames : Int) ≤ max 0 budget ∧
    (session.ending = .finished ↔ (session.frames : Int) = max 0 budget) ∧
    (console.source ≠ .window →
      session.ending = .finished ∧
          session.console.source = Source.next^[session.frames] console.source ∨
        session.ending = .quit ∧
          session.console.source = Source.next^[session.frames + 1] console.source) ∧
    ∀ more : Int, 0 ≤ budget → 0 ≤ more → (session.frames : Int) = budget →
      let rest := session.console.run more
      let whole := console.run (budget + more)
      rest.console = whole.console ∧ rest.ending = whole.ending ∧
        session.frames + rest.frames = whole.frames := by
  intro session
  obtain ⟨rounds, reached, follows, ends, frames_eq, within, finished_iff⟩ :=
    console.runFrom_follows 0 budget.toNat
  have session_frames : session.frames = rounds.length := by
    rw [Nat.zero_add] at frames_eq
    exact frames_eq
  have finished_iff_frames :
      session.ending = .finished ↔ (session.frames : Int) = max 0 budget := by
    rw [session_frames]
    apply finished_iff.trans
    omega
  refine ⟨⟨rounds, reached, follows, ends, session_frames, ends.frames.trans follows.frames, ?_⟩,
    ?_, finished_iff_frames, ?_, ?_⟩
  · intro scripted
    exact ends.rounds_eq follows scripted within finished_iff
  · rw [session_frames]
    omega
  · intro scripted
    rw [session_frames]
    exact ends.source_eq follows scripted
  · intro more started further all_run rest whole
    have finished : session.ending = .finished := finished_iff_frames.mpr (by omega)
    have whole_eq : whole = { rest with frames := budget.toNat + rest.frames } :=
      console.run_add started further finished
    rw [whole_eq]
    refine ⟨rfl, rfl, ?_⟩
    change session.frames + rest.frames = budget.toNat + rest.frames
    omega

/-- A console whose user pauses and quits in the second frame. -/
def leaving : Console :=
  { create 8 .reference (.cycle #[]) false with
    display := some (.recorder { script := [{}, { commands := [.pause, .quit, .unpause] }] }) }

/-- Its sessions end after the first frame, also one that is carried on there. -/
theorem leaving_accounts :
    leaving.source ≠ .window ∧ (leaving.run 5).frames = 1 ∧ (leaving.run 5).ending = .quit ∧
      (leaving.run 1).frames = 1 ∧
      ((leaving.run 1).console.run 4).console = (leaving.run 5).console ∧
      ((leaving.run 1).console.run 4).frames = 0 := by
  have scripted : leaving.source ≠ .window := nofun
  obtain ⟨⟨rounds, -, -, -, long_frames, -, rounds_eq⟩, -, finished_iff, ended, -⟩ :=
    leaving.run_accounts 5
  obtain ⟨⟨shortRounds, -, -, -, short_frames, -, shortRounds_eq⟩, -, -, -, carriedOn⟩ :=
    leaving.run_accounts 1
  have long_one : (leaving.run 5).frames = 1 := by
    rw [long_frames, rounds_eq scripted]
    rfl
  have short_one : (leaving.run 1).frames = 1 := by
    rw [short_frames, shortRounds_eq scripted]
    rfl
  have unfinished : (leaving.run 5).ending ≠ .finished := by
    rw [Ne, finished_iff, long_one]
    decide
  have quit : (leaving.run 5).ending = .quit := by
    rcases ended scripted with ⟨finished, -⟩ | ⟨quit, -⟩
    · exact absurd finished unfinished
    · exact quit
  have frames_one : ((leaving.run 1).frames : Int) = 1 := congrArg Nat.cast short_one
  obtain ⟨console_eq, -, total⟩ := carriedOn 4 (by decide) (by decide) frames_one
  refine ⟨scripted, long_one, quit, short_one, console_eq, ?_⟩
  change _ = (leaving.run 5).frames at total
  omega

end Console

end ChipEight
