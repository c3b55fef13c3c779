import CheckedSql.Building.TableRef
import CheckedSql.Statement.Verdict

/-!
# Building clauses

Each `mk` function checks the arguments of one clause and builds it.  These are
the checks that need nothing but the clause itself.
-/

namespace CheckedSql

/-! ## Checks of arguments -/

/-- The result columns of entries have different names. -/
def requireUniqueNames (origin : Origin) (columns : List (Entry SelectColumn)) :
    Except Error Unit :=
  require (!hasDuplicates (columns.map fun column => column.value.name)) origin
    .duplicateArguments

/-- Assigned columns are there, are different, and belong to one table. -/
def requireAssignedColumns (origin : Origin) : List Column → Except Error Unit
  | [] => fail origin .noArguments
  | first :: rest => do
      require (!hasDuplicates ((first :: rest).map Column.key)) origin .duplicateColumns
      require (rest.all fun column => column.qualifier == first.qualifier) origin .multipleTables

/-- Columns of a conflict target are different. -/
def requireConflictTarget (columns : List Column) : Except Error Unit :=
  require (!hasDuplicates (columns.map Column.key)) .onConflict .duplicateColumns

/-- The condition of a `WHERE` is a condition without aggregate functions. -/
def requireWhere (condition : Expr) : Except Error Unit := do
  requireBoolean .where condition
  require (!condition.containsAggregate) .where .aggregateNotAllowed

/-- Whether an expression can be a `GROUP BY` entry. -/
def Expr.isGroupEntry : Expr → Bool
  | .column _ | .groupKey _ => true
  | _ => false

/-- Whether an expression is a literal or a placeholder. -/
def Expr.isLiteral : Expr → Bool
  | .value _ | .parameter _ => true
  | _ => false

/-! ## Common table expressions -/

/-- What the definitions of a `WITH` clause have in common, going through them in order: all names
that are defined before, and those among them that may be absent. -/
structure Definitions where
  all : NameSet
  dynamic : NameSet

/-- Fails unless a definition reads only earlier definitions of its clause, and a static one only
static ones.  Names that the clause does not define are left to the statement. -/
def Definitions.requireDefined (defined : Definitions) (names : List String) (cte : Entry Cte) :
    Except Error Unit := do
  let required := cte.value.needs.ctes
  let missing := (required \ defined.all).toList.filter names.contains
  require missing.isEmpty .with (.cteDependency cte.value.name missing)
  let dynamic := required ∩ defined.dynamic
  require (!cte.isStatic || dynamic.isEmpty) .with
    (.cteDynamicDependency cte.value.name dynamic.toList)

/-- The definitions together with one more. -/
def Definitions.add (defined : Definitions) (cte : Entry Cte) : Definitions where
  all := defined.all.insert cte.value.name
  dynamic := if cte.isStatic then defined.dynamic else defined.dynamic.insert cte.value.name

/-- Fails at the first definition that reads what it may not. -/
def Definitions.requireAll (names : List String) : Definitions → List (Entry Cte) →
    Except Error Unit
  | _, [] => .ok ()
  | defined, cte :: ctes => do
      defined.requireDefined names cte
      Definitions.requireAll names (defined.add cte) ctes

/-- A checked `WITH` clause, before the statement it starts. -/
structure With where
  ctes : List (Entry Cte)

/-- The definitions of a `WITH` clause. -/
def With.mkWith (ctes : List (Entry Cte)) : Except Error With := do
  require (!ctes.isEmpty) .with .noArguments
  let names := ctes.map fun cte => cte.value.name
  requireEmpty (duplicates names) .with .duplicateCtes
  Definitions.requireAll names ⟨∅, ∅⟩ ctes
  return { ctes }

namespace Clause

/-! ## Result columns -/

/-- The columns of a `SELECT`. -/
def mkColumns (columns : List (Entry SelectColumn)) : Except Error Clause := do
  requireUniqueNames .select columns
  return .columns false columns

/-- The columns of a `RETURNING`. -/
def mkReturning (columns : List (Entry SelectColumn)) : Except Error Clause := do
  require (!columns.isEmpty) .returning .noArguments
  requireUniqueNames .returning columns
  require (!columns.any fun column => column.value.expr.containsAggregate) .returning
    .aggregateNotAllowed
  return .returning columns

/-! ## Conditions -/

/-- A `WHERE`. -/
def mkWhere (condition : Entry Expr) : Except Error Clause := do
  requireWhere condition.value
  return .where (some condition)

/-- A `HAVING`. -/
def mkHaving (condition : Entry Expr) : Except Error Clause := do
  requireBoolean .having condition.value
  return .having condition

/-! ## Groups and order -/

/-- A `GROUP BY`. -/
def mkGroupBy (entries : List (Entry Expr)) : Except Error Clause := do
  require (!entries.isEmpty) .groupBy .noArguments
  require (entries.all fun entry => entry.value.isGroupEntry) .groupBy .notAGroupByColumn
  require (!hasDuplicates (entries.map Entry.value)) .groupBy .duplicateArguments
  return .groupBy entries

/-- An `ORDER BY`. -/
def mkOrderBy (orders : List (Entry SortOrder)) : Except Error Clause := do
  require (!orders.isEmpty) .orderBy .noArguments
  require (!hasDuplicates (orders.map fun order => order.value.expr)) .orderBy
    .duplicateArguments
  return .orderBy orders

/-- A `LIMIT` or an `OFFSET`, with a literal or a placeholder that is an integer and not
negative. -/
def mkLimit (kind : LimitKind) (count : Expr) : Except Error Clause := do
  let isInteger := count.type != .null && count.type.isInteger
  require (count.isLiteral && isInteger) kind.origin (.operandType kind.keyword count.type)
  match count with
  | .value (.int number) =>
      require (0 ≤ number.toInt) kind.origin (.negativeCount kind.keyword number.toInt)
  | _ => .ok ()
  return .limit kind count

/-- Fails unless two selects give rows of one shape. -/
def requireSameFields (left right : List ResultField) : Except Error Unit :=
  require (left == right) .union .unionResultMismatch

/-- A union of a select that gives `fields` with another select. -/
def mkUnion (fields : List ResultField) (distinct : Bool) (arm : Entry Select) :
    Except Error Clause := do
  requireSameFields fields arm.value.fields
  return .union distinct arm

/-! ## Assigned values -/

/-- The assignments of an `UPDATE`. -/
def mkSet (assignments : List (Entry Assignment)) : Except Error Clause := do
  requireAssignedColumns .set (assignedColumns assignments)
  return .set assignments

/-- The single row of an `INSERT`, given by assignments. -/
def mkInsertSet (assignments : List (Entry Assignment)) : Except Error Clause := do
  requireAssignedColumns .set (assignedColumns assignments)
  return .values (.set assignments)

/-- The columns of an `INSERT`, before its rows. -/
def mkInsertColumns (columns : List Column) : Except Error Clause := do
  requireAssignedColumns .columns columns
  columns.forM fun column => column.requireAssignable .columns
  return .values (.rows columns [])

/-- An `ON CONFLICT` that leaves the row as it is.  Without columns it covers every conflict. -/
def mkDoNothing (columns : List Column) : Except Error Clause := do
  requireConflictTarget columns
  return .onConflict columns .doNothing

/-- An `ON CONFLICT` that updates the row, before its condition. -/
def mkDoUpdate (columns : List Column) (assignments : List (Entry Assignment)) :
    Except Error Clause := do
  require (!columns.isEmpty) .doUpdate .conflictTargetRequired
  requireConflictTarget columns
  requireAssignedColumns .doUpdate (assignedColumns assignments)
  return .onConflict columns (.doUpdate assignments none)

end Clause

end CheckedSql
