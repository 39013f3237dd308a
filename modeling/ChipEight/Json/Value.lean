/-!
# JSON values

A value as it is read from a file.  Whole numbers and numbers with a fraction or
an exponent are kept apart, since only the former can name a key.  An object
keeps its members in the order in which they were written; where a name occurs
more than once, the last member counts.
-/

namespace ChipEight.Json

/-- A JSON value. -/
inductive Value where
  /-- `null`. -/
  | null
  /-- `true` or `false`. -/
  | bool (value : Bool)
  /-- A number without fraction and exponent. -/
  | int (value : Int)
  /-- A number with a fraction or an exponent, or one that is not finite. -/
  | float (value : Float)
  /-- A text. -/
  | string (text : String)
  /-- A list. -/
  | array (items : List Value)
  /-- An object, member by member. -/
  | object (members : List (String × Value))
  deriving Inhabited

namespace Value

/-- The member of an object with a name: the last one, if there are several. -/
def member? (name : String) : Value → Option Value
  | .object members => (members.reverse.find? fun entry => entry.1 == name).map (·.2)
  | _ => none

/-- Whether a value counts as true: neither null, nor false, nor zero, nor empty. -/
def truth : Value → Bool
  | .null => false
  | .bool value => value
  | .int value => value != 0
  | .float value => value != 0.0
  | .string text => !text.isEmpty
  | .array items => !items.isEmpty
  | .object members => !members.isEmpty

/-- The name of the kind of a value, as reports show it. -/
def kind : Value → String
  | .null => "NoneType"
  | .bool _ => "bool"
  | .int _ => "int"
  | .float _ => "float"
  | .string _ => "str"
  | .array _ => "list"
  | .object _ => "dict"

end Value

end ChipEight.Json
