import CheckedSql.Aggregation
import CheckedSql.Names
import CheckedSql.Typing

/-!
# Scopes

The clauses of a statement share one `Scope`: the names they provide and read,
the entries of `GROUP BY`, and the table that the statement changes.  A clause
may rely on what a later one provides, as the selected columns rely on `FROM`.

The result row of a statement follows from its result columns and its scope.
A column may be NULL if its expression may, if the column is dynamic, or if it
reads a table that an outer join may fill with NULL.
-/

namespace CheckedSql

/-- What the clauses of a statement know together. -/
structure Scope where
  names : Names
  /-- Whether rows are grouped. -/
  hasGroupBy : Bool
  /-- The grouped expressions. -/
  groupBy : OrderedSet Expr
  /-- The expressions that are grouped in any case. -/
  staticGroupBy : OrderedSet Expr
  /-- The table that is changed. -/
  target? : Option Table

/-! ## Parts of a clause -/

/-- The entries of a `GROUP BY` clause. -/
def Clause.groupEntries? : Clause → Option (List (Entry Expr))
  | .groupBy entries => some entries
  | _ => none

/-- The table of a target clause. -/
def Clause.target? : Clause → Option Table
  | .target _ table => some table
  | _ => none

/-- The selected columns. -/
def Clause.selected? : Clause → Option (List (Entry SelectColumn))
  | .columns _ entries => some entries
  | _ => none

/-- The columns of a `RETURNING` clause. -/
def Clause.returned? : Clause → Option (List (Entry SelectColumn))
  | .returning entries => some entries
  | _ => none

/-- The values of an `INSERT`. -/
def Clause.inserted? : Clause → Option InsertValues
  | .values content => some content
  | _ => none

/-- Whether the clause is a `WHERE` clause or stands for the decision to affect every row. -/
def Clause.isWhere : Clause → Bool
  | .where _ => true
  | _ => false

/-- Whether the clause holds the assignments of an `UPDATE`. -/
def Clause.isSet : Clause → Bool
  | .set _ => true
  | _ => false

/-! ## The scope of clauses -/

/-- What clauses know together. -/
def Scope.ofClauses (clauses : List Clause) : Scope :=
  let groups := clauses.filterMap Clause.groupEntries?
  { names := Clause.listNames clauses
    hasGroupBy := !groups.isEmpty
    groupBy := .ofList (groups.flatten.map Entry.value)
    staticGroupBy := .ofList (staticValues groups.flatten)
    target? := (clauses.filterMap Clause.target?).getLast? }

/-! ## Result rows -/

/-- The result row of columns, given the tables that may be filled with NULL. -/
def resultFields (optionalTables : NameSet) (columns : List (Entry SelectColumn)) :
    List ResultField :=
  columns.map fun ⟨presence, column⟩ =>
    let filled := !column.expr.needs.tables.isDisjoint optionalTables
    ⟨column.name, column.expr.type.optionalIf (!presence.isStatic || filled)⟩

/-- The result row that clauses give with the columns that `pick` finds. -/
def fieldsOf (pick : Clause → Option (List (Entry SelectColumn))) (clauses : List Clause) :
    List ResultField :=
  resultFields (Clause.listNames clauses).optionalTables ((clauses.findSome? pick).getD [])

/-- The result row of a select. -/
def Select.fields (select : Select) : List ResultField :=
  fieldsOf Clause.selected? select.clauses

end CheckedSql
