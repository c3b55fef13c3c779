import CheckedSql.Ascii
import CheckedSql.Failure

/-!
# Dialects

The four flavours of SQL that statements are written in, their names, and the
small choices that need no context: placeholders, concatenation and the keyword
of a union.
-/

namespace CheckedSql

/-- The SQL flavour a statement is written for. -/
inductive Dialect where
  /-- The flavour used when none is asked for. -/
  | generic
  | postgres
  | mysql
  | sqlite
  deriving DecidableEq, Repr

namespace Dialect

instance : Inhabited Dialect := ⟨generic⟩

/-- All dialects. -/
def all : List Dialect := [generic, postgres, mysql, sqlite]

/-- The name of a dialect. -/
def name : Dialect → String
  | generic => "default"
  | postgres => "postgres"
  | mysql => "mysql"
  | sqlite => "sqlite"

/-- The dialect with exactly this name. -/
def ofName? (name : String) : Option Dialect := all.find? fun dialect => dialect.name == name

/-- The dialect of a name or of one of the other common names, in any case. -/
def ofText (text : String) : Except Error Dialect :=
  let lower := asciiLower text
  if lower = "generic" then .ok generic
  else if lower = "postgresql" then .ok postgres
  else if lower = "mariadb" then .ok mysql
  else match ofName? lower with
    | some dialect => .ok dialect
    | none => .error (.invalidQuery ("unknown dialect '" ++ lower ++ "'"))

theorem ofName?_name (dialect : Dialect) : ofName? dialect.name = some dialect := by
  cases dialect <;> decide

/-- The placeholder of the parameter at a position, counted from 1. -/
def placeholder (dialect : Dialect) (position : Nat) : String :=
  match dialect with
  | postgres => "$" ++ toString position
  | _ => "?"

/-- What stands before, between and after two concatenated texts. -/
def concatFrame : Dialect → String × String × String
  | sqlite => ("", " || ", "")
  | _ => ("CONCAT(", ", ", ")")

/-- The keyword between two united selects. -/
def unionKeyword (dialect : Dialect) (distinct : Bool) : String :=
  match dialect, distinct with
  | _, false => "UNION ALL"
  | sqlite, true => "UNION"
  | _, true => "UNION DISTINCT"

/-- Two written texts, concatenated. -/
def concat (dialect : Dialect) (lhs rhs : String) : String :=
  let (before, between, after) := dialect.concatFrame
  before ++ lhs ++ between ++ rhs ++ after

end Dialect

end CheckedSql
