import ChipEight.Files
import ChipEight.Json.Reader
import ChipEight.Text.LowerCase
import ChipEight.Text.Utf8

/-!
# Keymaps

A keymap binds the names of host keys to the keys of the keypad.  The default
layout puts the pad on the left of the keyboard.  A keymap file is a JSON list of
objects with a `name` and a `key`; it is merged over the default layout, where
its bindings take the place of all default bindings of the same keypad keys.
-/

namespace ChipEight

/-- Bindings of key names to keypad keys, in the order in which the names were
first bound.  No name is bound twice. -/
structure Keymap where
  /-- The bindings. -/
  bindings : List (String × Int)
  deriving DecidableEq, Repr

namespace Keymap

/-- No bindings. -/
def empty : Keymap := ⟨[]⟩

/-- The key a name is bound to. -/
def key? (keymap : Keymap) (name : String) : Option Int :=
  keymap.bindings.lookup name

/-- Bind a name.  A name that is bound already keeps its place. -/
def bind (keymap : Keymap) (name : String) (key : Int) : Keymap :=
  ⟨if (keymap.key? name).isSome then
    keymap.bindings.map fun entry => if entry.1 == name then (name, key) else entry
  else keymap.bindings ++ [(name, key)]⟩

/-- The keymap of bindings made one after the other. -/
def ofList (bindings : List (String × Int)) : Keymap :=
  bindings.foldl (fun keymap entry => keymap.bind entry.1 entry.2) empty

/-- The default layout. -/
def layout : Keymap := ⟨[
  ("1", 0x1), ("2", 0x2), ("3", 0x3), ("4", 0xC),
  ("q", 0x4), ("w", 0x5), ("e", 0x6), ("r", 0xD),
  ("a", 0x7), ("s", 0x8), ("d", 0x9), ("f", 0xE),
  ("z", 0xA), ("x", 0x0), ("c", 0xB), ("v", 0xF)]⟩

/-- The bindings in the order of their names, by code points. -/
def sorted (keymap : Keymap) : List (String × Int) :=
  let key (entry : String × Int) : List Nat := Text.codePoints entry.1.toList
  keymap.bindings.mergeSort fun first second => !(key second).lex (key first)

/-- Bindings laid over others.  A key that the upper keymap binds loses all its
bindings in the lower one. -/
def merge (overrides base : Keymap) : Keymap :=
  let kept := base.bindings.filter fun entry =>
    !overrides.bindings.any fun override => override.2 == entry.2
  overrides.bindings.foldl (fun keymap entry => keymap.bind entry.1 entry.2) ⟨kept⟩

/-- What is wrong with a keymap. -/
inductive Malformed where
  /-- The file is not a list. -/
  | notList
  /-- An entry is not an object but a value of another kind. -/
  | notObject (index : Nat) (kind : String)
  /-- An entry has no name. -/
  | badName (index : Nat)
  /-- An entry has no key of the keypad. -/
  | badKey (index : Nat)
  /-- The file is not JSON. -/
  | notJson (path : Path) (error : Json.SyntaxError)
  /-- The keyboard has no key of a name. -/
  | unknownName (name : String)
  deriving DecidableEq, Repr

/-- The report on a keymap that is wrong. -/
def Malformed.message : Malformed → String
  | .notList => "Keymap must be a JSON list of entries"
  | .notObject index kind => s!"Entry {index}: expected an object, got {kind}"
  | .badName index => s!"Entry {index}: 'name' must be a non-empty string"
  | .badKey index => s!"Entry {index}: 'key' must be an integer 0-15"
  | .notJson path error =>
    "Failed to parse keymap file: " ++ path.text ++ ": " ++ error.message
  | .unknownName name => "Unknown key name in keymap: " ++ Text.quoted name

/-- The binding an entry of a keymap file makes. -/
def entry (index : Nat) (value : Json.Value) : Except Malformed (String × Int) :=
  match value with
  | .object _ =>
    match value.member? "name" with
    | some (.string name) =>
      if name.isEmpty then .error (.badName index)
      else match value.member? "key" with
        | some (.int key) =>
          if 0 ≤ key ∧ key < 16 then .ok (Text.lowerCase name, key)
          else .error (.badKey index)
        | _ => .error (.badKey index)
    | _ => .error (.badName index)
  | other => .error (.notObject index other.kind)

/-- The bindings of the entries from an index on. -/
def entries (index : Nat) : List Json.Value → Except Malformed (List (String × Int))
  | [] => .ok []
  | value :: rest => do
    let first ← entry index value
    let others ← entries (index + 1) rest
    return first :: others

/-- The keymap that a JSON value describes.  Names are bound in lower case, and
the last entry of a name counts. -/
def ofJson : Json.Value → Except Malformed Keymap
  | .array values => do return ofList (← entries 0 values)
  | _ => .error .notList

/-- Why a keymap file was not loaded. -/
inductive LoadError where
  /-- The file was not read. -/
  | file (error : FileError)
  /-- Its bytes are no text. -/
  | encoding (error : Text.Utf8.DecodeError)
  /-- It holds a number with too many digits to convert. -/
  | tooManyDigits (count : Nat)
  /-- Its values are nested too deeply; the flag tells whether the one too many is
  an object. -/
  | tooDeep (object : Bool)
  /-- It is no keymap. -/
  | malformed (error : Malformed)
  deriving DecidableEq, Repr

/-- How many levels of lists and objects are granted to a keymap file. -/
abbrev levelLimit : Nat := 992

/-- The JSON value in a keymap file, within a number of levels. -/
def fileValue (levels : Nat) (path : Path) (content : Array UInt8) :
    Except LoadError Json.Value :=
  match Text.decodeUtf8 content with
  | .error error => .error (.encoding error)
  | .ok text =>
    let characters := Text.unifyLineEnds text.toList
    match Json.read levels (String.ofList characters) with
    | .ok value => .ok value
    | .error (.malformed violation rest) =>
      .error (.malformed (.notJson path (violation.within characters rest)))
    | .error (.tooManyDigits count) => .error (.tooManyDigits count)
    | .error (.tooDeep object) => .error (.tooDeep object)

/-- Load a keymap file over the default layout, within a number of levels. -/
def load (files : Files) (name : String) (levels : Nat) :
    Except LoadError Keymap := do
  let path := Path.ofString name
  let content ← (files.read path).mapError .file
  let value ← fileValue levels path content
  let overrides ← (ofJson value).mapError .malformed
  return overrides.merge layout

end Keymap

end ChipEight
