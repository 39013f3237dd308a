import ChipEight.Proofs.CommandLine.Arguments
import ChipEight.Proofs.CommandLine.Loading
import ChipEight.Proofs.Console.Calls
import ChipEight.Proofs.Instruction.Listing

/-!
# Listing a program

A listing loses nothing of memory, and a run that lists its program loses nothing of the
program (`CommandLine.listing_lossless`): what its lines show, read back, spells out the
program, with a zero behind it if its size is odd.  What was in memory before the program was
loaded does not show, since loading clears what follows the program.
-/

namespace ChipEight.Listing

/-! ## Reading a listing back -/

/-- The lines of a text, if each of them has its end. -/
def linesOf? (text : String) : Option (List String) :=
  let pieces := text.toList.splitOn '\n'
  if pieces.getLast? = some [] then some (pieces.dropLast.map String.ofList) else none

/-- Read what the lines of a text show. -/
def read? (text : String) : Option (List Entry) := do
  (← linesOf? text).mapM Entry.read?

theorem splitOn_unlines {lines : List String} (single : ∀ line ∈ lines, '\n' ∉ line.toList) :
    (unlines lines).toList.splitOn '\n' = lines.map String.toList ++ [[]] := by
  induction lines with
  | nil => rfl
  | cons first rest ih =>
    have newline : "\n".toList = ['\n'] := rfl
    have text_eq : (unlines (first :: rest)).toList =
        first.toList ++ '\n' :: (unlines rest).toList := by
      simp [unlines, String.join_cons, newline]
    rw [text_eq, List.splitOn_append_cons_self, List.splitOn_eq_singleton (single first (.head _)),
      ih fun line member => single line (.tail _ member)]
    rfl

theorem linesOf?_unlines {lines : List String} (single : ∀ line ∈ lines, '\n' ∉ line.toList) :
    linesOf? (unlines lines) = some lines := by
  have same : String.ofList ∘ String.toList = id := funext fun _ => String.ofList_toList
  rw [linesOf?, splitOn_unlines single, List.getLast?_concat, if_pos rfl, List.dropLast_concat,
    List.map_map, same, List.map_id]

/-- What rows show reads back from their lines. -/
theorem read?_unlines (rows : List Row) :
    read? (unlines (rows.map Row.line)) = some (rows.map Row.entry) := by
  have single : ∀ line ∈ rows.map Row.line, '\n' ∉ line.toList := by
    intro line member
    obtain ⟨row, -, rfl⟩ := List.mem_map.mp member
    exact Entry.newline_not_mem_line row
  have shown : ∀ row ∈ rows, (Entry.read? ∘ Row.line) row = pure row.entry :=
    fun row _ => Entry.read?_line row
  rw [read?, linesOf?_unlines single]
  simp only [bind, Option.bind_some, List.mapM_map, mapM_eq_pure_map shown]
  rfl

end ChipEight.Listing

namespace ChipEight.CommandLine

open ChipEight.Text

/-! ## Loaded programs -/

/-- What is at and past the start of the program area is the program, and then zeros. -/
theorem getElem?_act_load {width height : Nat} (machine : Machine width height)
    {program : Array UInt8} (small : program.size ≤ programRoom) {offset : Nat}
    (inside : offset < programRoom) :
    (machine.act (.load program)).memory.toArray[programStart + offset]?.getD 0 =
      program[offset]?.getD 0 := by
  have inMemory : programStart + offset < memorySize := by
    simp only [programRoom, memorySize, programStart] at inside ⊢
    omega
  have after : ¬ programStart + offset < programStart := by omega
  rw [machine.act_load small, Vector.getElem?_toArray, Vector.getElem?_eq_getElem inMemory,
    Vector.getElem_ofFn, Option.getD_some, if_neg after, Nat.add_sub_cancel_left]

/-- A listing as long as the loaded program spells it out. -/
theorem rows_load {width height : Nat} (machine : Machine width height) {program : Array UInt8}
    (small : program.size ≤ programRoom) :
    ∃ rows, Listing.rows (machine.act (.load program)).memory.toArray programStart
        (((machine.act (.load program)).programSize + 1) / 2) = .ok rows ∧
      rows.length = (program.size + 1) / 2 ∧
      Listing.Spells programStart program.toList (rows.map Listing.Row.entry) := by
  have size_eq : (machine.act (.load program)).programSize = program.size := by
    rw [machine.act_load small]
  obtain ⟨rows, listed, length_eq, spells⟩ :=
    Listing.rows_spell (machine.act (.load program)).memory.toArray programStart
      (((machine.act (.load program)).programSize + 1) / 2)
  have whole : rows.length = (program.size + 1) / 2 := by
    rw [length_eq, size_eq, Vector.size_toArray]
    simp only [programRoom, memorySize, programStart] at small ⊢
    omega
  refine ⟨rows, listed, whole, ?_⟩
  constructor
  · exact spells.addresses
  · exact spells.texts
  · -- Byte by byte, memory holds the program and then zeros.
    have programBytes := Listing.map_range_getD program 0 (2 * rows.length)
    have all_taken : program.extract 0 (0 + 2 * rows.length) = program := by
      apply Array.extract_eq_self_of_le
      omega
    rw [all_taken] at programBytes
    rw [spells.spelled, List.length_map, ← Listing.map_range_getD, ← programBytes]
    apply List.map_congr_left
    intro offset asked
    have inside : offset < programRoom := by
      have := List.mem_range.mp asked
      simp only [programRoom, memorySize, programStart] at small ⊢
      omega
    rw [getElem?_act_load machine small inside, Nat.zero_add]
  · have size_eq : program.toList.length = program.size := Array.length_toList
    rw [List.length_map]
    omega

/-- A console lists the program that was loaded last, whatever it has held before. -/
theorem list_load (console : Console) {program : Array UInt8} (small : program.size ≤ programRoom)
    {loaded : Console} (loads : loaded.machine = console.machine.act (.load program)) :
    ∃ listing entries, Listing.read? listing = some entries ∧
      entries.length = (program.size + 1) / 2 ∧
      Listing.Spells programStart program.toList entries ∧
      list loaded = Outcome.after loaded { output := listing, ending := .exit 0 } := by
  obtain ⟨rows, listed, whole, spells⟩ := rows_load console.machine small
  refine ⟨_, _, Listing.read?_unlines rows, ?_, spells, ?_⟩
  · rw [List.length_map, whole]
  · simp only [list, loads, listed]

/-! ## Command lines -/

/-- Whether a request asks for a listing of a program. -/
structure Request.AsksListing (request : Request) (files : Files) (program : Array UInt8) :
    Prop where
  lists : request.options.disassemble = true
  speed : ∃ speed, request.options.speed = .given speed
  compatibility : ∃ compatibility, request.options.compatibility = .given compatibility
  seed : request.options.seed ≠ .blank
  keymap : ∃ keymap, loadKeymap request.options files = .ok keymap
  program : files.read (Path.ofString request.program) = .ok program

variable {request : Request} {files : Files} {program : Array UInt8}

/-- The command line that names a program and asks for a listing is read as such. -/
theorem ofArguments_listing {name : String} (bare : name.toList.head? ≠ some '-') :
    Request.ofArguments [name, "--disasm"] =
      .ok { program := name, options := { disassemble := true } } := by
  have flag : Argument.classify "--disasm" = .ok (.setting (.flag .disassemble) false none) := by
    decide +kernel
  have classified : Argument.classifyAll [name, "--disasm"] =
      .ok [.word name, .setting (.flag .disassemble) false none] :=
    Argument.classifyAll_cons (Argument.classify_of_bare bare) (Argument.classifyAll_cons flag rfl)
  refine bind_eq_ok_iff.mpr ⟨_, congrArg _ classified, ?_⟩
  refine bind_eq_ok_iff.mpr ⟨{ program := some name, options := { disassemble := true } }, rfl, ?_⟩
  exact bind_eq_ok_iff.mpr ⟨(), check_eq_ok rfl rfl rfl (by decide), rfl⟩

theorem outputOf_loaded (path : Path) (size : Nat) :
    outputOf [.loaded path size] = "Loaded ROM: " ++ path.text ++ s!" ({size} bytes)\n" := by
  have line : Notice.outputLine? (.loaded path size) =
      some ("Loaded ROM: " ++ path.text ++ s!" ({size} bytes)") := rfl
  have ended : toString " bytes)" ++ "\n" = toString " bytes)\n" := rfl
  rw [outputOf, List.filterMap_cons_some line, List.filterMap_nil]
  simp only [unlines, List.map_cons, List.map_nil, String.join_cons, String.join_nil,
    String.append_empty, String.append_assoc, ended]

/-- A run that asks for a listing shows the program it loads and nothing else. -/
theorem run_of_asksListing {arguments : List String}
    (parsed : Request.ofArguments arguments = .ok request)
    (asks : request.AsksListing files program) (small : program.size ≤ programRoom)
    (input : String) (generator : RandomBytes.Generator) (toolkit : Host.Toolkit) :
    ∃ listing entries, Listing.read? listing = some entries ∧
      entries.length = (program.size + 1) / 2 ∧
      Listing.Spells programStart program.toList entries ∧
      run arguments files input generator toolkit =
        { output := "Loaded ROM: " ++ (Path.ofString request.program).text ++
            s!" ({program.size} bytes)\n" ++ listing
          ending := .exit 0 } := by
  obtain ⟨speed, paced⟩ := asks.speed
  obtain ⟨compatibility, switches⟩ := asks.compatibility
  obtain ⟨keymap, mapped⟩ := asks.keymap
  obtain ⟨source, loads⟩ := loadConsole_eq paced switches asks.seed asks.program small generator
  obtain ⟨listing, entries, reads, whole, spells, listed⟩ :=
    list_load (Console.create speed compatibility source request.options.debug) small
      (withProgram_machine _ request.program program)
  refine ⟨listing, entries, reads, whole, spells, ?_⟩
  simp only [run, plan, parsed, Request.plan, mapped, loads, asks.lists, if_true, listed]
  rw [← outputOf_loaded]
  rfl

/-- A listing of memory from a place on has a row for every two bytes, as far as it is
asked to go, and a last one for an odd byte; what its rows show spells out those bytes.  A
console lists the program that was loaded last, whatever it held before, and so does a run
whose command line asks for a listing.  Read back, its lines show an address, a word and the
text of the word for every two bytes of the program, and the bytes of these words are the
program, with a zero behind it if its size is odd. -/
theorem listing_lossless :
    (∀ (memory : Array UInt8) (start count : Nat), ∃ rows,
      Listing.rows memory start count = .ok rows ∧
      rows.length = min count ((memory.size - start + 1) / 2) ∧
      Listing.Spells start (memory.extract start (start + 2 * rows.length)).toList
        (rows.map Listing.Row.entry)) ∧
    (∀ (console : Console) (program : Array UInt8) (name : Option String),
      program.size ≤ programRoom →
      ∃ listing entries, Listing.read? listing = some entries ∧
        entries.length = (program.size + 1) / 2 ∧
        Listing.Spells programStart program.toList entries ∧
        list (console.call (.load program name)) =
          Outcome.after (console.call (.load program name))
            { output := listing, ending := .exit 0 }) ∧
    ∀ (arguments : List String) (request : Request) (files : Files) (program : Array UInt8)
      (input : String) (generator : RandomBytes.Generator) (toolkit : Host.Toolkit),
      Request.ofArguments arguments = .ok request → request.AsksListing files program →
      program.size ≤ programRoom →
      ∃ listing entries, Listing.read? listing = some entries ∧
        entries.length = (program.size + 1) / 2 ∧
        Listing.Spells programStart program.toList entries ∧
        run arguments files input generator toolkit =
          { output := "Loaded ROM: " ++ (Path.ofString request.program).text ++
              s!" ({program.size} bytes)\n" ++ listing
            ending := .exit 0 } := by
  constructor
  · exact Listing.rows_spell
  constructor
  · intro console program name small
    obtain ⟨programName, loaded⟩ := console.call_load_eq program name
    exact list_load console small (by rw [loaded])
  · intro arguments request files program input generator toolkit parsed asks small
    exact run_of_asksListing parsed asks small input generator toolkit

/-- A program of three bytes. -/
def oddProgram : Array UInt8 :=
  #[0x00, 0xE0, 0x12]

/-- The files of a run that lists it. -/
def oddFiles : Files :=
  .ofList [("odd.ch8", .file oddProgram)]

theorem read_oddProgram : oddFiles.read (Path.ofString "odd.ch8") = .ok oddProgram :=
  Files.read_eq_ok (by decide +kernel) (by decide +kernel) (by decide +kernel)

/-- Its listing has two rows, and a zero behind its last byte. -/
theorem oddProgram_listed :
    oddProgram.size ≤ programRoom ∧
      ∃ listing, Listing.read? listing =
          some [⟨0x200, 0x00E0, "CLS"⟩, ⟨0x202, 0x1200, "JP 0x200"⟩] ∧
        run ["odd.ch8", "--disasm"] oddFiles "" (fun _ => .cycle #[]) {} =
          { output := "Loaded ROM: odd.ch8 (3 bytes)\n" ++ listing
            ending := .exit 0 } := by
  have small : oddProgram.size ≤ programRoom := by decide
  have asks : Request.AsksListing
      { program := "odd.ch8", options := { disassemble := true } } oddFiles oddProgram :=
    { lists := rfl, speed := ⟨_, rfl⟩, compatibility := ⟨_, rfl⟩, seed := nofun
      keymap := ⟨.empty, rfl⟩, program := read_oddProgram }
  obtain ⟨listing, entries, reads, whole, spells, ran⟩ :=
    listing_lossless.2.2 _ _ _ _ "" (fun _ => .cycle #[]) {} (ofArguments_listing (by decide))
      asks small
  have shown : "Loaded ROM: " ++ (Path.ofString "odd.ch8").text ++
      s!" ({oddProgram.size} bytes)\n" = "Loaded ROM: odd.ch8 (3 bytes)\n" := by decide +kernel
  have entries_eq : entries = [⟨0x200, 0x00E0, "CLS"⟩, ⟨0x202, 0x1200, "JP 0x200"⟩] :=
    spells.unique ⟨rfl, by decide +kernel, by decide +kernel, by decide⟩ whole
  refine ⟨small, listing, ?_, ?_⟩
  · rw [reads, entries_eq]
  · rw [ran, shown]

end ChipEight.CommandLine
