import ChipEight.CommandLine.Options

/-!
# Arguments of the command line

Every argument is classified on its own before anything is carried out: it is a
word, an option, something that looks like an option, or two dashes, behind which
all arguments are words.  A long option may be cut short as long as it stays
unambiguous, and may hold its value behind an equals sign.  A short parameter can
be followed by its value directly.  What follows a short flag, directly or behind
an equals sign, is the letter of another short option with what belongs to it.  A
negative number is a word, and so is an unknown option with a space in it.

Then the arguments are read from left to right.  The first word that is no value
of a parameter names the program; all other words, and what looks like an option
but is none, are left over.
-/

namespace ChipEight.CommandLine

/-- An argument as it is classified. -/
inductive Argument where
  /-- A word. -/
  | word (text : String)
  /-- The two dashes behind which all arguments are words. -/
  | separator
  /-- An option, by a short name or a long one, perhaps with a text attached. -/
  | setting (setting : Setting) (short : Bool) (attached : Option (List Char))
  /-- What looks like an option but is none. -/
  | stranger (text : String)
  deriving DecidableEq, Repr

namespace Argument

/-- Whether the name of an option is a short one. -/
def isShort : List Char → Bool
  | '-' :: '-' :: _ => false
  | _ => true

/-- What stands before the first equals sign and what stands behind it. -/
def splitAtEquals? (text : List Char) : Option (List Char × List Char) :=
  match text.dropWhile (· != '=') with
  | _ :: value => some (text.takeWhile (· != '='), value)
  | [] => none

/-- The option that a text names in full, perhaps with a value behind an equals
sign. -/
def inFull? (text : List Char) : Option Argument :=
  match Setting.ofName? text with
  | some named => some (.setting named (isShort text) none)
  | none => do
    let (name, value) ← splitAtEquals? text
    return .setting (← Setting.ofName? name) (isShort name) (some value)

/-- The long options that a text may be short for, and the short option it may
begin with. -/
def candidates : List Char → List (String × Argument)
  | '-' :: '-' :: rest =>
    let text := '-' :: '-' :: rest
    let (stem, attached) : List Char × Option (List Char) :=
      match splitAtEquals? text with
      | some (stem, value) => (stem, some value)
      | none => (text, none)
    (Setting.names.filter fun entry => stem.isPrefixOf entry.1.toList).map fun entry =>
      (entry.1, .setting entry.2 false attached)
  | '-' :: letter :: rest =>
    match Setting.ofName? ['-', letter] with
    | some named => [(String.ofList ['-', letter], .setting named true (some rest))]
    | none => []
  | _ => []

/-- Whether a character is a decimal digit of any script. -/
def isDigit (c : Char) : Bool :=
  (Text.decimalDigit? c).isSome

/-- Whether a text is a negative number: a dash and digits, or a dash and a decimal
fraction.  The end of a line may follow. -/
def isNegativeNumber : List Char → Bool
  | '-' :: body =>
    let body := if body.getLast? == some '\n' then body.dropLast else body
    match body.dropWhile isDigit with
    | [] => !body.isEmpty
    | '.' :: fraction => !fraction.isEmpty && fraction.all isDigit
    | _ => false
  | _ => false

/-- Classify an argument that is not two dashes. -/
def classify (argument : String) : Except UsageError Argument :=
  match argument.toList with
  | '-' :: c :: rest =>
    let text := '-' :: c :: rest
    match inFull? text with
    | some found => .ok found
    | none =>
      match candidates text with
      | [] =>
        if isNegativeNumber text || text.contains ' ' then .ok (.word argument)
        else .ok (.stranger argument)
      | [(_, found)] => .ok found
      | several => .error (.ambiguous argument (several.map (·.1)))
  | _ => .ok (.word argument)

/-- Classify all arguments. -/
def classifyAll : List String → Except UsageError (List Argument)
  | [] => .ok []
  | argument :: rest =>
    if argument == "--" then .ok (.separator :: rest.map .word)
    else do return (← classify argument) :: (← classifyAll rest)

end Argument

/-- What one argument asks for. -/
structure Group where
  /-- The flags, in order. -/
  flags : List Flag := []
  /-- The parameter behind them, and its value if the argument holds it. -/
  parameter : Option (Parameter × Option String) := none
  deriving DecidableEq, Repr

namespace Group

/-- An option without an attached text. -/
def single : Setting → Group
  | .flag flag => { flags := [flag] }
  | .parameter parameter => { parameter := some (parameter, none) }

/-- An option with an attached text.  It is the value of a parameter; behind a
short flag it has to begin with the letter of another short option. -/
def withText (setting : Setting) (short : Bool) (text : List Char) : Except UsageError Group :=
  match setting with
  | .parameter parameter => .ok { parameter := some (parameter, some (String.ofList text)) }
  | .flag flag =>
    match text with
    | [] => .error (.needlessValue flag "")
    | letter :: rest =>
      match if short then Setting.ofName? ['-', letter] else none with
      | none => .error (.needlessValue flag (String.ofList (letter :: rest)))
      | some next => do
        let others ← if rest.isEmpty then .ok (single next) else withText next true rest
        return { others with flags := flag :: others.flags }

/-- What an option asks for. -/
def ofSetting (setting : Setting) (short : Bool) : Option (List Char) → Except UsageError Group
  | none => .ok (single setting)
  | some text => withText setting short text

end Group

/-- What has been read so far. -/
structure Reading where
  /-- The name of the program file. -/
  program : Option String := none
  /-- The options. -/
  options : Options := {}
  /-- What is left over. -/
  strays : List String := []
  deriving DecidableEq, Repr

namespace Reading

/-- Leave something over. -/
def leave (reading : Reading) (text : String) : Reading :=
  { reading with strays := reading.strays ++ [text] }

/-- Give flags, up to a call for help. -/
def raiseAll (reading : Reading) : List Flag → Except Stop Reading
  | [] => .ok reading
  | .help :: _ => .error .help
  | flag :: rest => raiseAll { reading with options := reading.options.raise flag } rest

/-- Give what an argument asks for, with the value of its parameter. -/
def give (reading : Reading) (group : Group) (value : Option (Parameter × String)) :
    Except Stop Reading := do
  let raised ← reading.raiseAll group.flags
  let options ← match value with
    | some (parameter, text) => (raised.options.assign parameter text).mapError .usage
    | none => pure raised.options
  return { raised with options }

/-- Read arguments.  Two dashes count as an argument themselves where the program
has been named already, but not directly behind its name. -/
def readAll (reading : Reading) : List Argument → Except Stop Reading
  | [] => .ok reading
  | .word text :: rest =>
    match reading.program with
    | some _ => readAll (reading.leave text) rest
    | none =>
      let named := { reading with program := some text }
      match rest with
      | .separator :: rest => readAll named rest
      | rest => readAll named rest
  | .separator :: rest =>
    readAll (if reading.program.isSome then reading.leave "--" else reading) rest
  | .stranger text :: rest => readAll (reading.leave text) rest
  | .setting setting short attached :: rest =>
    match Group.ofSetting setting short attached with
    | .error error => .error (.usage error)
    | .ok group =>
      match group.parameter with
      | none => do readAll (← reading.give group none) rest
      | some (parameter, some text) => do
        readAll (← reading.give group (some (parameter, text))) rest
      | some (parameter, none) =>
        match rest with
        | .word text :: rest => do
          readAll (← reading.give group (some (parameter, text))) rest
        | _ => .error (.usage (.missingValue parameter))

end Reading

/-- What a command line asks for. -/
structure Request where
  /-- The name of the program file. -/
  program : String
  /-- The options. -/
  options : Options
  deriving DecidableEq, Repr

/-- Read a command line. -/
def Request.ofArguments (arguments : List String) : Except Stop Request := do
  let classified ← (Argument.classifyAll arguments).mapError .usage
  let reading ← Reading.readAll {} classified
  match reading.program, reading.strays with
  | none, _ => .error (.usage .missingProgram)
  | some program, [] =>
    reading.options.check
    return ⟨program, reading.options⟩
  | some _, strays => .error (.usage (.unrecognized strays))

end ChipEight.CommandLine
