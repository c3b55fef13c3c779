import CheckedSql.Building.Select

/-!
# Building statements that change a table

`INSERT`, `UPDATE` and `DELETE` start with their target table and grow like
selects.  An `INSERT` takes its rows one by one after its columns, and the
condition of an `ON CONFLICT` update after the update.
-/

namespace CheckedSql

/-- The first clauses of a statement with a target table. -/
def targetClauses (definitions : Option With) (kind : TargetKind) (table : Table) : List Clause :=
  With.clauses definitions ++ [.target kind table]

/-! ## INSERT -/

namespace Insert

/-- Starts an `INSERT` into a table. -/
def start (definitions : Option With) (table : Table) : Insert :=
  ⟨targetClauses definitions .insertInto table⟩

/-- The statement with one more clause. -/
def append (insert : Insert) (clause : Clause) : Except Error Insert := do
  return ⟨← appendClause insert.clauses clause⟩

/-- Inserts one row, given by assignments. -/
def set (insert : Insert) (assignments : List (Entry Assignment)) : Except Error Insert := do
  insert.append (← Clause.mkInsertSet assignments)

/-- Inserts one row of defaults. -/
def defaultValues (insert : Insert) : Except Error Insert :=
  insert.append (.values .defaultValues)

/-- Names the columns of the rows that follow. -/
def columns (insert : Insert) (columns : List Column) : Except Error Insert := do
  insert.append (← Clause.mkInsertColumns columns)

/-- The call that failed to follow the last clause. -/
def failAfterLast {α : Type} (insert : Insert) (origin : Origin) : Except Error α :=
  fail origin (.clauseOrder origin ((insert.clauses.getLast?.map Clause.origin).getD .insertInto))

/-- Fails unless a row has a value for each column, and each column can hold its value. -/
def requireRow (columns : List Column) (row : List Expr) : Except Error Unit := do
  require (row.length == columns.length) .values (.rowWidth columns.length row.length)
  (columns.zip row).forM fun (column, value) => column.requireHolds value

/-- Inserts one more row.  The columns are fixed, so no value may be dynamic. -/
def values (insert : Insert) (row : List (Entry Expr)) : Except Error Insert := do
  require (row.all Entry.isStatic) .values .dynamicRowValue
  let row := row.map Entry.value
  match insert.clauses.getLast? with
  | some (.values (.rows columns rows)) =>
      requireRow columns row
      return ⟨replaceLast insert.clauses (.values (.rows columns (rows ++ [row])))⟩
  | _ => insert.failAfterLast .values

/-- Leaves a row alone that is there already. -/
def onConflictDoNothing (insert : Insert) (columns : List Column) : Except Error Insert := do
  insert.append (← Clause.mkDoNothing columns)

/-- Updates a row that is there already. -/
def onConflictDoUpdate (insert : Insert) (columns : List Column)
    (assignments : List (Entry Assignment)) : Except Error Insert := do
  insert.append (← Clause.mkDoUpdate columns assignments)

/-- Gives the update of `onConflictDoUpdate` its condition. -/
def «where» (insert : Insert) (condition : Entry Expr) : Except Error Insert :=
  match insert.clauses.getLast? with
  | some (.onConflict columns (.doUpdate assignments none)) => do
      requireWhere condition.value
      let action := ConflictAction.doUpdate assignments (some condition)
      return ⟨replaceLast insert.clauses (.onConflict columns action)⟩
  | _ => insert.failAfterLast .where

/-- Returns columns of the inserted rows. -/
def returning (insert : Insert) (columns : List (Entry SelectColumn)) : Except Error Insert := do
  insert.append (← Clause.mkReturning columns)

end Insert

/-! ## UPDATE -/

namespace Update

/-- Starts an `UPDATE` of a table. -/
def start (definitions : Option With) (table : Table) : Update :=
  ⟨targetClauses definitions .update table⟩

/-- The statement with one more clause. -/
def append (update : Update) (clause : Clause) : Except Error Update := do
  return ⟨← appendClause update.clauses clause⟩

/-- Assigns columns. -/
def set (update : Update) (assignments : List (Entry Assignment)) : Except Error Update := do
  update.append (← Clause.mkSet assignments)

/-- Updates the rows that fulfil a condition. -/
def «where» (update : Update) (condition : Entry Expr) : Except Error Update := do
  update.append (← Clause.mkWhere condition)

/-- Updates every row. -/
def unconditionally (update : Update) : Except Error Update := update.append (.where none)

/-- Returns columns of the updated rows. -/
def returning (update : Update) (columns : List (Entry SelectColumn)) : Except Error Update := do
  update.append (← Clause.mkReturning columns)

end Update

/-! ## DELETE -/

namespace Delete

/-- Starts a `DELETE` from a table. -/
def start (definitions : Option With) (table : Table) : Delete :=
  ⟨targetClauses definitions .deleteFrom table⟩

/-- The statement with one more clause. -/
def append (delete : Delete) (clause : Clause) : Except Error Delete := do
  return ⟨← appendClause delete.clauses clause⟩

/-- Names tables that the condition may read. -/
def «using» (delete : Delete) (table : TableRef) : Except Error Delete :=
  delete.append (.source .using table)

/-- Deletes the rows that fulfil a condition. -/
def «where» (delete : Delete) (condition : Entry Expr) : Except Error Delete := do
  delete.append (← Clause.mkWhere condition)

/-- Deletes every row. -/
def unconditionally (delete : Delete) : Except Error Delete := delete.append (.where none)

/-- Returns columns of the deleted rows. -/
def returning (delete : Delete) (columns : List (Entry SelectColumn)) : Except Error Delete := do
  delete.append (← Clause.mkReturning columns)

end Delete

end CheckedSql
