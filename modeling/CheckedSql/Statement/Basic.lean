import CheckedSql.Scope
import CheckedSql.Syntax.Tokens

/-!
# Statements

A statement is a list of clauses with a kind.  The four kinds are types of
their own, so that each has only the building calls that make sense for it.
-/

namespace CheckedSql

/-- An `INSERT` statement. -/
structure Insert where
  clauses : List Clause

/-- An `UPDATE` statement. -/
structure Update where
  clauses : List Clause

/-- A `DELETE` statement. -/
structure Delete where
  clauses : List Clause

/-- A statement. -/
inductive Statement where
  | select (select : Select)
  | insert (insert : Insert)
  | update (update : Update)
  | delete (delete : Delete)

namespace Statement

/-- The name of the kind of a statement. -/
def kind : Statement → String
  | select _ => "select"
  | insert _ => "insert"
  | update _ => "update"
  | delete _ => "delete"

/-- The clauses of a statement. -/
def clauses : Statement → List Clause
  | select statement => statement.clauses
  | insert statement => statement.clauses
  | update statement => statement.clauses
  | delete statement => statement.clauses

/-- The result row of a statement.  A statement that changes a table has one if it has a
`RETURNING` clause. -/
def fields : Statement → List ResultField
  | select statement => statement.fields
  | insert statement => fieldsOf Clause.returned? statement.clauses
  | update statement => fieldsOf Clause.returned? statement.clauses
  | delete statement => fieldsOf Clause.returned? statement.clauses

/-- The scope of a statement. -/
def scope (statement : Statement) : Scope := .ofClauses statement.clauses

/-- The tokens of a statement. -/
def tokens (dialect : Dialect) (statement : Statement) : List Token :=
  Clause.listTokens dialect statement.clauses

/-- Statements of one kind are equal if their clauses are. -/
protected def beq : Statement → Statement → Bool
  | select a, select b => a == b
  | insert a, insert b => a.clauses == b.clauses
  | update a, update b => a.clauses == b.clauses
  | delete a, delete b => a.clauses == b.clauses
  | _, _ => false

instance : BEq Statement := ⟨Statement.beq⟩

end Statement

end CheckedSql
