/-!
# Value types

Every SQL expression has a *value type*: a data type together with whether the
value may be NULL.  Two more types stand outside that scheme.  `null` is the
type of the bare `NULL` literal, which fits wherever a value fits, and
`noValue` is the type of what yields no value at all.

The rules in this file say which types may meet.  `ValueType.comparable` is the
relation behind comparisons, assignments, `IN` lists and `CASE` results, and
`arithmeticResult` and `booleanResult` are the types operators give back.  A
result may be NULL as soon as one operand may.
-/

namespace CheckedSql

/-! ## Data types -/

/-- The kind of a value, without nullability. -/
inductive DataType where
  | boolean
  | integral
  | unsignedIntegral
  | floatingPoint
  /-- What arithmetic over mixed numeric types gives. -/
  | numeric
  | text
  | blob
  | dayPoint
  | timeOfDay
  | timePoint
  deriving DecidableEq, Repr, Inhabited

namespace DataType

/-- All data types. -/
def all : List DataType :=
  [boolean, integral, unsignedIntegral, floatingPoint, numeric, text, blob, dayPoint, timeOfDay,
    timePoint]

/-- The name of a data type in messages and interchange forms. -/
def name : DataType → String
  | boolean => "boolean"
  | integral => "integral"
  | unsignedIntegral => "unsigned_integral"
  | floatingPoint => "floating_point"
  | numeric => "numeric"
  | text => "text"
  | blob => "blob"
  | dayPoint => "day_point"
  | timeOfDay => "time_of_day"
  | timePoint => "time_point"

/-- The data type of a name. -/
def ofName? (name : String) : Option DataType :=
  all.find? fun dataType => dataType.name == name

/-- Data types that arithmetic accepts.  Booleans count as numbers. -/
def isNumeric : DataType → Bool
  | boolean | integral | unsignedIntegral | floatingPoint | numeric => true
  | _ => false

/-- Days and points in time may be compared with each other. -/
def isDayOrTimePoint : DataType → Bool
  | dayPoint | timePoint => true
  | _ => false

/-- A data type is found under its own name. -/
theorem ofName?_name (dataType : DataType) : ofName? dataType.name = some dataType := by
  cases dataType <;> decide

end DataType

/-! ## Value types -/

/-- The type of an expression. -/
inductive ValueType where
  /-- Comparable with nothing. -/
  | noValue
  /-- The `NULL` literal, comparable with every value. -/
  | null
  | data (dataType : DataType) (optional : Bool)
  deriving DecidableEq, Repr, Inhabited

namespace ValueType

/-- A value that is never NULL. -/
abbrev of (dataType : DataType) : ValueType := .data dataType false

/-- A value that may be NULL. -/
abbrev optional (dataType : DataType) : ValueType := .data dataType true

/-- The data type, where there is one. -/
def dataType? : ValueType → Option DataType
  | .data dataType _ => some dataType
  | _ => none

/-- Whether an expression of this type can stand where a value is needed. -/
def hasValue : ValueType → Bool
  | noValue => false
  | _ => true

/-- Whether the value may be NULL. -/
def isOptional : ValueType → Bool
  | noValue => false
  | null => true
  | .data _ optional => optional

/-- The same type, never NULL. -/
def removeOptional : ValueType → ValueType
  | .data dataType _ => of dataType
  | type => type

/-- The same type, possibly NULL. -/
def forceOptional : ValueType → ValueType
  | .data dataType _ => optional dataType
  | type => type

/-- The type, possibly NULL if `nullable` holds. -/
def optionalIf (type : ValueType) (nullable : Bool) : ValueType :=
  if nullable then type.forceOptional else type

/-- Whether a value of this type can be used as one of `expected`. -/
def fits (type : ValueType) (expected : DataType) : Bool :=
  match type with
  | noValue => false
  | null => true
  | .data dataType _ => dataType == expected

/-- Whether the value can serve as a condition. -/
def isBoolean (type : ValueType) : Bool := type.fits .boolean

/-- Whether the value can serve as a text. -/
def isText (type : ValueType) : Bool := type.fits .text

/-- Whether the value can serve as an integer, signed or unsigned. -/
def isInteger (type : ValueType) : Bool := type.fits .integral || type.fits .unsignedIntegral

/-- Whether arithmetic accepts the value. -/
def isNumeric : ValueType → Bool
  | noValue => false
  | null => true
  | .data dataType _ => dataType.isNumeric

/-- Whether the value is a day or a point in time. -/
def isDayOrTimePoint (type : ValueType) : Bool := type.fits .dayPoint || type.fits .timePoint

/-- The names of the roles that a value can stand in. -/
def roles (type : ValueType) : List String :=
  let standsIn := [("boolean", type.isBoolean), ("integral", type.fits .integral),
    ("unsigned_integral", type.fits .unsignedIntegral),
    ("floating_point", type.fits .floatingPoint), ("numeric", type.isNumeric),
    ("text", type.isText), ("blob", type.fits .blob), ("day_point", type.fits .dayPoint),
    ("time_point", type.fits .timePoint), ("day_or_time_point", type.isDayOrTimePoint),
    ("time_of_day", type.fits .timeOfDay)]
  (standsIn.filter Prod.snd).map Prod.fst

/-- The spelling of a type in messages. -/
def text : ValueType → String
  | noValue => "no value"
  | null => "null"
  | .data dataType false => dataType.name
  | .data dataType true => "optional<" ++ dataType.name ++ ">"

/-- All types with a value or without one. -/
def all : List ValueType :=
  [noValue, null] ++ DataType.all.map of ++ DataType.all.map optional

/-- The type of a spelling. -/
def ofText? (text : String) : Option ValueType :=
  all.find? fun type => type.text == text

@[simp] theorem forceOptional_optionalIf (type : ValueType) (nullable : Bool) :
    (type.optionalIf nullable).forceOptional = type.forceOptional := by
  cases type <;> cases nullable <;> rfl

/-! ## Meeting types -/

/-- Whether two values may be compared, assigned to each other, or stand in one `IN` list or one
`CASE`. -/
def comparable : ValueType → ValueType → Bool
  | noValue, _ => false
  | _, noValue => false
  | null, _ => true
  | _, null => true
  | .data left _, .data right _ =>
      left == right || (left.isNumeric && right.isNumeric)
        || (left.isDayOrTimePoint && right.isDayOrTimePoint)

/-- The type of `+`, `-`, `*` and `%`: one numeric type keeps itself, anything else widens. -/
def arithmeticResult (left right : ValueType) : ValueType :=
  let dataType : DataType :=
    match left.dataType?, right.dataType? with
    | some l, some r => if l = r ∧ l ≠ .boolean then l else .numeric
    | some l, none => if l ≠ .boolean then l else .numeric
    | none, some r => if r ≠ .boolean then r else .numeric
    | none, none => .numeric
  (of dataType).optionalIf (left.isOptional || right.isOptional)

/-- The type of a comparison or of a logical operator. -/
def booleanResult (left right : ValueType) : ValueType :=
  (of .boolean).optionalIf (left.isOptional || right.isOptional)

end ValueType

end CheckedSql
