import CheckedSql.Binary64.Basic

/-!
# JSON values

The values that requests and rows are made of.  A number is an integer of at
most 64 bits or a double, and the members of an object have different names.
-/

namespace CheckedSql

/-- A JSON number. -/
inductive JsonNumber where
  | integer (value : Int)
  | float (value : Binary64)
  deriving DecidableEq, Repr

/-- A JSON value. -/
inductive Json where
  | null
  | bool (value : Bool)
  | number (value : JsonNumber)
  | string (value : String)
  | array (items : List Json)
  | object (members : List (String × Json))
  deriving Inhabited

namespace Json

/-- An integer as a JSON value. -/
def int (value : Int) : Json := .number (.integer value)

/-- A list of texts. -/
def strings (texts : List String) : Json := .array (texts.map .string)

/-- The text of a string. -/
def string? : Json → Option String
  | string value => some value
  | _ => none

/-- The truth value. -/
def bool? : Json → Option Bool
  | bool value => some value
  | _ => none

/-- The integer. -/
def int? : Json → Option Int
  | number (.integer value) => some value
  | _ => none

/-- The items of an array. -/
def array? : Json → Option (List Json)
  | array items => some items
  | _ => none

/-- The member of a name. -/
def member? (value : Json) (name : String) : Option Json :=
  match value with
  | object members => (members.find? fun member => member.1 == name).map Prod.snd
  | _ => none

/-- The single member of an object, or a bare name with `null`. -/
def variant? : Json → Option (String × Json)
  | string name => some (name, null)
  | object [member] => some member
  | _ => none

end Json

end CheckedSql
