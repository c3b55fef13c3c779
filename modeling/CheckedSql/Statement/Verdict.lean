import CheckedSql.Statement.Basic

/-!
# Verdicts

A statement is checked twice.  `Statement.checkConsistency` looks at the rules
of the statement itself:

* each clause is checked in the scope of the whole statement
  (`Clause.checkConsistency`);
* what a clause always reads is not provided dynamically only;
* the statement is complete: a `SELECT` has columns, an `INSERT` has values, and
  an `UPDATE` or `DELETE` says which rows it affects.

`Statement.checkPrepare` also asks that the statement provides every name it
reads, so that it can run by itself.  A select inside another statement may
read names of the statement around it, so only the first check applies to it.

Checks run in this order, and the first failure is the verdict.
-/

namespace CheckedSql

/-! ## Checks of a clause -/

/-- Fails unless every column belongs to the target table. -/
def requireOwnColumns (origin : Origin) (target? : Option Table) (columns : List Column) :
    Except Error Unit :=
  match target? with
  | none => .ok ()
  | some target =>
      match columns.find? fun column => column.qualifier != target.identity with
      | none => .ok ()
      | some column => fail origin
          (.foreignColumn (column.qualifier ++ "." ++ column.name) target.identity)

/-- Fails unless an expression reads nothing but aggregate functions, constants and `GROUP BY`
entries.  A static expression has to manage with the static entries. -/
def requireGrouped (origin : Origin) (scope : Scope) (isStatic : Bool) (expr : Expr) :
    Except Error Unit := do
  require (expr.isAggregateOver scope.groupBy) origin .notAggregate
  require (!isStatic || expr.isAggregateOver scope.staticGroupBy) origin .notStaticAggregate

/-- The columns that assignments assign. -/
def assignedColumns (assignments : List (Entry Assignment)) : List Column :=
  assignments.map fun assignment => assignment.value.column

namespace InsertValues

/-- The columns that the values may assign. -/
def columns : InsertValues → List Column
  | defaultValues => []
  | set assignments => assignedColumns assignments
  | rows listed _ => listed

/-- The columns that the values assign in any case. -/
def staticColumns : InsertValues → List Column
  | defaultValues => []
  | set assignments => (staticValues assignments).map Assignment.column
  | rows listed _ => listed

/-- Whether there is something to insert. -/
def isComplete : InsertValues → Bool
  | rows _ given => !given.isEmpty
  | _ => true

/-- The columns of the target that have to be assigned and are not. -/
def missingColumns (content : InsertValues) (target : Table) : List String :=
  (target.requiredColumns.map Column.name).filter fun name =>
    !(content.staticColumns.map Column.name).contains name

end InsertValues

/-- Checks a clause in the scope of its statement. -/
def Clause.checkConsistency (scope : Scope) : Clause → Except Error Unit
  | .columns _ entries =>
      if scope.hasGroupBy then
        entries.forM fun ⟨presence, column⟩ =>
          requireGrouped .select scope presence.isStatic column.expr
      else
        let kinds := entries.map fun ⟨_, column⟩ => column.expr.aggregateKind
        require (kinds.foldl AggregateKind.combine .neutral != .mixed) .select .mixedAggregates
  | .set assignments => do
      requireOwnColumns .set scope.target? (assignedColumns assignments)
      require (assignments.any Entry.isActive) .set .assignmentsRequired
  | .values content =>
      match scope.target? with
      | none => .ok ()
      | some table => do
          requireOwnColumns content.origin scope.target? content.columns
          let missing := content.missingColumns table
          require missing.isEmpty content.origin (.missingRequiredColumns missing)
  | .having ⟨presence, condition⟩ =>
      if scope.hasGroupBy then requireGrouped .having scope presence.isStatic condition
      else require (condition.isAggregateOver ∅) .having .notAggregate
  | .orderBy orders =>
      if scope.hasGroupBy then
        orders.forM fun ⟨presence, order⟩ =>
          requireGrouped .orderBy scope presence.isStatic order.expr
      else
        require (!orders.any fun order => order.value.expr.containsAggregate) .orderBy
          .orderByAggregates
  | .onConflict keys .doNothing => requireOwnColumns .onConflict scope.target? keys
  | .onConflict keys (.doUpdate assignments condition?) => do
      requireOwnColumns .onConflict scope.target? keys
      requireOwnColumns .doUpdate scope.target? (assignedColumns assignments)
      require (assignments.any Entry.isActive) .doUpdate .assignmentsRequired
      require condition?.isSome .doUpdate .onConflictWhereRequired
  | _ => .ok ()

/-- Checks that what a clause always reads is not provided dynamically only. -/
def Clause.checkStatics (names : Names) (clause : Clause) : Except Error Unit := do
  let needs := clause.names.needs
  requireEmpty (needs.staticTables ∩ (names.tables \ names.staticTables)) clause.origin
    .unknownStaticTables
  requireEmpty (needs.staticCtes ∩ (names.ctes \ names.staticCtes)) clause.origin
    .unknownStaticCtes

/-- Checks that everything a clause reads is provided. -/
def Clause.checkProvided (names : Names) (clause : Clause) : Except Error Unit := do
  let needs := clause.names.needs
  requireEmpty (needs.tables \ names.tables) clause.origin .unknownTables
  requireEmpty (needs.ctes \ names.ctes) clause.origin .unknownCtes

/-! ## Checks of a statement -/

namespace Statement

/-- Checks that a statement has all the clauses it must have. -/
def checkComplete : Statement → Except Error Unit
  | select statement =>
      let columns := (statement.clauses.findSome? Clause.selected?).getD []
      require (!columns.isEmpty) .select .noColumnsSelected
  | insert statement =>
      let complete :=
        match statement.clauses.findSome? Clause.inserted? with
        | some content => content.isComplete
        | none => false
      require complete .insertInto .insertValuesRequired
  | update statement => do
      require (statement.clauses.any Clause.isSet) .update .assignmentsRequired
      require (statement.clauses.any Clause.isWhere) .update .whereRequired
  | delete statement => require (statement.clauses.any Clause.isWhere) .deleteFrom .whereRequired

/-- The first failure of a statement's own rules. -/
def checkConsistency (statement : Statement) : Except Error Unit := do
  let scope := statement.scope
  statement.clauses.forM (Clause.checkConsistency scope)
  statement.clauses.forM (Clause.checkStatics scope.names)
  statement.checkComplete

/-- The first failure that keeps a statement from running by itself. -/
def checkPrepare (statement : Statement) : Except Error Unit := do
  statement.checkConsistency
  statement.clauses.forM (Clause.checkProvided statement.scope.names)

end Statement

/-- The first failure of a select's own rules. -/
def Select.checkConsistency (select : Select) : Except Error Unit :=
  (Statement.select select).checkConsistency

/-! ## Writing -/

/-- A written statement with the parameters of its placeholders, in their order. -/
structure Written where
  sql : String
  parameters : List Parameter
  deriving DecidableEq, Repr

/-- Writes a statement that is consistent. -/
def Statement.serialize (dialect : Dialect) (statement : Statement) : Except Error Written := do
  statement.checkConsistency
  let tokens := statement.tokens dialect
  let sql ← dialect.write tokens
  return { sql, parameters := parametersOf tokens }

/-- The text of a consistent statement in the generic dialect. -/
def Statement.text (statement : Statement) : Except Error String :=
  Written.sql <$> statement.serialize .generic

end CheckedSql
