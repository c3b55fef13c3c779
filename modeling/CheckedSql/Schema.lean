import CheckedSql.Failure

/-!
# Tables and columns

A `Table` is a name with column declarations, under its own name or under an
alias.  The name it goes by inside a statement is its *identity*, and a
`Column` is a declaration together with the identity it is read from.

Common table expressions and sub-selects are tables too, but their columns are
derived from a row of `ResultField`s and cannot be assigned.
-/

namespace CheckedSql

/-! ## Declarations -/

/-- The declaration of a column. -/
structure ColumnSpec where
  name : String
  type : ValueType
  /-- Whether rows that do not assign the column get a value of their own. -/
  hasDefault : Bool
  /-- Whether statements may not assign the column. -/
  readOnly : Bool
  deriving DecidableEq, Repr

namespace ColumnSpec

/-- A column that is never NULL, has no default and can be assigned. -/
def new (name : String) (dataType : DataType) : ColumnSpec :=
  { name, type := .of dataType, hasDefault := false, readOnly := false }

/-- A column of a derived table. -/
def derived (name : String) (type : ValueType) : ColumnSpec :=
  { name, type, hasDefault := false, readOnly := true }

/-- The column, possibly NULL. -/
def nullable (spec : ColumnSpec) : ColumnSpec := { spec with type := spec.type.forceOptional }

/-- The column, with a default. -/
def withDefault (spec : ColumnSpec) : ColumnSpec := { spec with hasDefault := true }

/-- The column, closed to assignments. -/
def asReadOnly (spec : ColumnSpec) : ColumnSpec := { spec with readOnly := true }

/-- Whether the column may be NULL. -/
def isNullable (spec : ColumnSpec) : Bool := spec.type.isOptional

/-- Whether every INSERT has to assign the column. -/
def isRequiredForInsert (spec : ColumnSpec) : Bool :=
  !spec.isNullable && !spec.hasDefault && !spec.readOnly

end ColumnSpec

/-- A column as one table of a statement offers it. -/
structure Column where
  /-- The identity of the table. -/
  qualifier : String
  spec : ColumnSpec
  deriving DecidableEq, Repr

namespace Column

/-- The name of a column. -/
def name (column : Column) : String := column.spec.name

/-- The type of a column. -/
def type (column : Column) : ValueType := column.spec.type

/-- What tells columns of one statement apart. -/
def key (column : Column) : String × String := (column.qualifier, column.name)

end Column

/-- The columns of a table that goes by `identity`. -/
def columnsOf (identity : String) (specs : List ColumnSpec) : List Column :=
  specs.map fun spec => ⟨identity, spec⟩

/-- The first column of a name, or the failure to find one. -/
def findColumn (identity : String) (specs : List ColumnSpec) (name : String) :
    Except Error Column :=
  match specs.find? fun spec => spec.name == name with
  | some spec => .ok ⟨identity, spec⟩
  | none => .error (.columnNotFound identity name)

/-! ## Tables -/

/-- A declared table, possibly under an alias. -/
structure Table where
  name : String
  alias? : Option String
  specs : List ColumnSpec
  deriving DecidableEq, Repr

namespace Table

/-- A table under its own name. -/
def new (name : String) (specs : List ColumnSpec) : Table := { name, alias? := none, specs }

/-- The same table under another name. -/
def as (table : Table) (name : String) : Table := { table with alias? := some name }

/-- The name the table goes by inside a statement. -/
def identity (table : Table) : String := table.alias?.getD table.name

/-- All columns, in their order. -/
def columns (table : Table) : List Column := columnsOf table.identity table.specs

/-- The column of a name. -/
def column (table : Table) (name : String) : Except Error Column :=
  findColumn table.identity table.specs name

/-- The columns that every INSERT has to assign. -/
def requiredColumns (table : Table) : List Column :=
  columnsOf table.identity (table.specs.filter ColumnSpec.isRequiredForInsert)

end Table

/-! ## Result rows -/

/-- One column of a result row. -/
structure ResultField where
  name : String
  type : ValueType
  deriving DecidableEq, Repr

/-- The declarations that a result row gives to a derived table. -/
def derivedSpecs (fields : List ResultField) : List ColumnSpec :=
  fields.map fun field => .derived field.name field.type

/-! ## Parameters -/

/-- A named placeholder, which gets its value when the statement runs. -/
structure Parameter where
  name : String
  type : ValueType
  deriving DecidableEq, Repr

end CheckedSql
