import CheckedSql.Binary64.Shortest
import CheckedSql.Dialect.Quoting
import CheckedSql.Hex
import CheckedSql.Value

/-!
# Literals

How each dialect writes a value.  Most dialects can write every value.  The
generic dialect and MySQL have no text for a NaN or an infinity, and SQLite has
none for an integer beyond the signed 64 bit range.
-/

namespace CheckedSql

/-- Numbers are written without an exponent from 0.0001 up to sixteen digits before the point, and
a whole number keeps its `.0`. -/
def floatLayout : Binary64.Layout where
  firstPositional := -4
  lastPositional := 15
  wholeSuffix := ['.', '0']
  exponentMark := 'e'

namespace Dialect

/-- A text literal. -/
def textLiteral (text : String) : String := String.ofList (quotedBy '\'' text.toList)

/-- A truth value. -/
def booleanLiteral (dialect : Dialect) (value : Bool) : String :=
  match dialect, value with
  | postgres, true => "true"
  | postgres, false => "false"
  | _, true => "1"
  | _, false => "0"

/-- A number without a sign. -/
def unsignedLiteral (dialect : Dialect) (value : UInt64) : Except Error String :=
  if dialect = sqlite ∧ 0x8000000000000000 ≤ value.toNat then
    .error (.sqlGeneration ("unsigned value " ++ toString value.toNat
      ++ " exceeds the integer range of this connector"))
  else .ok (toString value.toNat)

/-- The text of a NaN, where there is one. -/
def nanLiteral? : Dialect → Option String
  | postgres | sqlite => some "'NaN'"
  | _ => none

/-- The text of an infinity, where there is one. -/
def infinityLiteral? : Dialect → Bool → Option String
  | postgres, false => some "'Infinity'"
  | postgres, true => some "'-Infinity'"
  | sqlite, false => some "'Inf'"
  | sqlite, true => some "'-Inf'"
  | _, _ => none

/-- A literal that the dialect may lack. -/
def orUnsupported (what : String) : Option String → Except Error String
  | some text => .ok text
  | none => .error (.sqlGeneration
      ("Serialization of " ++ what ++ " is not supported by this connector"))

/-- A floating point number. -/
def floatLiteral (dialect : Dialect) (value : Binary64) : Except Error String :=
  if value.isNaN then orUnsupported "NaN" dialect.nanLiteral?
  else if value.isInfinite then
    orUnsupported "Infinity" (dialect.infinityLiteral? value.isNegative)
  else .ok (String.ofList (floatLayout.write value))

/-- A byte string. -/
def blobLiteral (dialect : Dialect) (bytes : List UInt8) : String :=
  match dialect with
  | postgres => "'\\x" ++ String.ofList (hexLower bytes) ++ "'"
  | _ => "x'" ++ String.ofList (hexUpper bytes) ++ "'"

/-- A date. -/
def dateLiteral (dialect : Dialect) (date : Date) : String :=
  match dialect with
  | sqlite => "DATE('" ++ String.ofList date.text ++ "')"
  | _ => "DATE '" ++ String.ofList date.text ++ "'"

/-- A time of day. -/
def timeLiteral (time : TimeOfDay) : String := "'" ++ String.ofList time.text ++ "'"

/-- A point in time. -/
def timestampLiteral (dialect : Dialect) (timestamp : Timestamp) : String :=
  match dialect with
  | sqlite =>
      "STRFTIME('%Y-%m-%d %H:%M:%f', '" ++ String.ofList (timestamp.text ' ') ++ "')"
  | _ => "TIMESTAMP '" ++ String.ofList (timestamp.text 'T') ++ "'"

/-- A value as it is written in a statement. -/
def literal (dialect : Dialect) : Value → Except Error String
  | .null => .ok "NULL"
  | .bool value => .ok (dialect.booleanLiteral value)
  | .int value => .ok (toString value.toInt)
  | .uint value => dialect.unsignedLiteral value
  | .float value => dialect.floatLiteral value
  | .text value => .ok (textLiteral value)
  | .blob bytes => .ok (dialect.blobLiteral bytes)
  | .date value => .ok (dialect.dateLiteral value)
  | .time value => .ok (timeLiteral value)
  | .timestamp value => .ok (dialect.timestampLiteral value)

example : textLiteral "it's" = "'it''s'" := by decide

example : blobLiteral generic [0, 171] = "x'00AB'" := by decide

example : (floatLiteral generic ⟨0x4341c37937e08000⟩).toOption = some "1e16" := by decide +kernel

example : (floatLiteral generic ⟨0x3fb999999999999a⟩).toOption = some "0.1" := by decide +kernel

end Dialect

end CheckedSql
