import CheckedSql.Calendar.Reader
import CheckedSql.Dialect.Basic
import CheckedSql.Json.Number
import CheckedSql.Value

/-!
# Interchange forms

How values, types and dialects stand in JSON.  A choice is an object with one
member, named for the alternative, and an alternative without content is also
its bare name.  Writing uses the bare name, and reading accepts both.

A type with a data type needs both of its members and ignores others.
-/

namespace CheckedSql

/-- An alternative with its content. -/
def Json.choice (name : String) (content : Json) : Json := .object [(name, content)]

/-! ## Values -/

namespace Value

/-- The signed integer of a number. -/
def ofSigned? (number : Int) : Option Value :=
  if -0x8000000000000000 ≤ number ∧ number < 0x8000000000000000 then some (.int (Int64.ofInt number)) else none

/-- The unsigned integer of a number. -/
def ofUnsigned? (number : Int) : Option Value :=
  if 0 ≤ number ∧ number < 0x10000000000000000 then some (.uint (UInt64.ofNat number.toNat)) else none

/-- The double of a JSON number. -/
def ofNumber : JsonNumber → Value
  | .integer value => .float (Binary64.ofRatio (value < 0) value.natAbs 1)
  | .float value => .float value

/-- A byte. -/
def byte? (value : Json) : Option UInt8 := do
  let number ← value.int?
  if 0 ≤ number ∧ number < 256 then some (UInt8.ofNat number.toNat) else none

/-- The interchange form of a value. -/
def toJson : Value → Json
  | null => .string "Null"
  | bool value => .choice "Bool" (.bool value)
  | int value => .choice "Int" (.int value.toInt)
  | uint value => .choice "UInt" (.int value.toNat)
  | float value =>
      .choice "Float" (if value.isFinite then .number (.float value) else .null)
  | text value => .choice "Text" (.string value)
  | blob bytes => .choice "Blob" (.array (bytes.map fun byte => .int byte.toNat))
  | date value => .choice "Date" (.string (String.ofList value.text))
  | time value => .choice "Time" (.string (String.ofList value.text))
  | timestamp value => .choice "Timestamp" (.string (String.ofList (value.text 'T')))

/-- The value of the content of an alternative. -/
def ofContent? (name : String) (content : Json) : Option Value :=
  match name, content with
  | "Null", .null => some .null
  | "Bool", .bool value => some (.bool value)
  | "Int", .number (.integer value) => ofSigned? value
  | "UInt", .number (.integer value) => ofUnsigned? value
  | "Float", .number value => some (ofNumber value)
  | "Text", .string value => some (.text value)
  | "Blob", .array items => (items.mapM byte?).map .blob
  | "Date", .string value => (Date.ofText? value).map .date
  | "Time", .string value => (TimeOfDay.ofText? value).map .time
  | "Timestamp", .string value => (Timestamp.ofText? value).map .timestamp
  | _, _ => none

/-- The value of an interchange form. -/
def ofJson? (value : Json) : Option Value := do
  let (name, content) ← value.variant?
  ofContent? name content

end Value

/-! ## Types -/

/-- The data type of an interchange form. -/
def DataType.ofJson? (value : Json) : Option DataType :=
  match value.variant? with
  | some (name, .null) => ofName? name
  | _ => none

namespace ValueType

/-- The interchange form of a type. -/
def toJson : ValueType → Json
  | noValue => .string "no_value"
  | null => .string "null"
  | .data dataType optional =>
      .choice "data" (.object
        [("data_type", .string dataType.name), ("optional", .bool optional)])

/-- The type of an interchange form. -/
def ofJson? (value : Json) : Option ValueType :=
  match value.variant? with
  | some ("no_value", .null) => some noValue
  | some ("null", .null) => some null
  | some ("data", content) => do
      let dataType ← (← content.member? "data_type") |> DataType.ofJson?
      let optional ← (← content.member? "optional").bool?
      some (.data dataType optional)
  | _ => none

/-- A type reads back from its interchange form. -/
theorem ofJson?_toJson (type : ValueType) : ofJson? type.toJson = some type := by
  match type with
  | noValue => rfl
  | null => rfl
  | .data dataType optional => cases dataType <;> cases optional <;> rfl

end ValueType

/-! ## Dialects -/

/-- The dialect of an interchange form. -/
def Dialect.ofJson? (value : Json) : Option Dialect :=
  match value.variant? with
  | some (name, .null) => ofName? name
  | _ => none

/-- A dialect reads back from its interchange form. -/
theorem Dialect.ofJson?_name (dialect : Dialect) :
    ofJson? (.string dialect.name) = some dialect := by
  cases dialect <;> rfl

end CheckedSql
