import CheckedSql.Binary64.Basic
import CheckedSql.Calendar.Basic
import CheckedSql.ValueType

/-!
# Literal values

The values that stand in statements and that bind to parameters.  Integers have
64 bits, with or without a sign.

`==` is equality of values as the elements of a list are compared.  It follows
`Binary64` on floating point numbers, so a NaN differs from itself.
-/

namespace CheckedSql

/-- A literal value. -/
inductive Value where
  | null
  | bool (value : Bool)
  | int (value : Int64)
  | uint (value : UInt64)
  | float (value : Binary64)
  | text (value : String)
  | blob (bytes : List UInt8)
  | date (value : Date)
  | time (value : TimeOfDay)
  | timestamp (value : Timestamp)
  deriving DecidableEq

namespace Value

instance : Inhabited Value := ⟨null⟩

/-- Whether the value is NULL. -/
def isNull : Value → Bool
  | null => true
  | _ => false

/-- The type of a value. -/
def type : Value → ValueType
  | null => .null
  | bool _ => .of .boolean
  | int _ => .of .integral
  | uint _ => .of .unsignedIntegral
  | float _ => .of .floatingPoint
  | text _ => .of .text
  | blob _ => .of .blob
  | date _ => .of .dayPoint
  | time _ => .of .timeOfDay
  | timestamp _ => .of .timePoint

/-- The SQL name of the column type that holds such a value. -/
def typeName : Value → String
  | null => "NULL"
  | bool _ => "BOOLEAN"
  | int _ => "BIGINT"
  | uint _ => "BIGINT UNSIGNED"
  | float _ => "DOUBLE PRECISION"
  | text _ => "TEXT"
  | blob _ => "BLOB"
  | date _ => "DATE"
  | time _ => "TIME"
  | timestamp _ => "TIMESTAMP"

/-- Equality of values. -/
protected def beq : Value → Value → Bool
  | float x, float y => x == y
  | x, y => decide (x = y)

instance : BEq Value := ⟨Value.beq⟩

/-- A value equals itself unless it is a NaN. -/
theorem beq_self (value : Value) (h : ∀ x, value = float x → x.isNaN = false) :
    (value == value) = true := by
  show Value.beq value value = true
  cases value with
  | float x => exact (Binary64.beq_self x).trans (by rw [h x rfl]; rfl)
  | _ => simp [Value.beq]

end Value

end CheckedSql
