import CheckedSql.ValueType

/-!
# Failures

A build-time problem is a `Failure`, one of a closed set of causes.  An `Error`
attributes a failure to the call it came from, its `Origin`, or is one of the
three problems that have no failure: text that cannot be generated, a statement
that cannot be used in the requested way, and a column that does not exist.

The wording is in `Failure.message` and `Error.message` and nowhere else.
-/

namespace CheckedSql

/-! ## Where a failure comes from -/

/-- The clause or the building call a failure is attributed to. -/
inductive Origin where
  | operator
  | expression
  | case
  | count
  | sum
  | avg
  | min
  | max
  | window
  | as
  | subSelect
  | join
  | cte
  | with
  | select
  | distinct
  | insertInto
  | update
  | deleteFrom
  | set
  | defaultValues
  | columns
  | values
  | from
  | using
  | where
  | groupBy
  | having
  | union
  | orderBy
  | limit
  | offset
  | onConflict
  | doUpdate
  | returning
  deriving DecidableEq, Repr, Inhabited

/-- The spelling of an origin in messages. -/
def Origin.text : Origin → String
  | operator => "operator"
  | expression => "expression"
  | case => "case"
  | count => "count"
  | sum => "sum"
  | avg => "avg"
  | min => "min"
  | max => "max"
  | window => "over"
  | as => "as"
  | subSelect => "sub-select"
  | join => "join"
  | cte => "cte"
  | .with => "with"
  | select => "select"
  | distinct => "distinct"
  | insertInto => "insert_into"
  | update => "update"
  | deleteFrom => "delete_from"
  | set => "set"
  | defaultValues => "default_values"
  | columns => "columns"
  | values => "values"
  | .from => "from"
  | .using => "using"
  | .where => "where"
  | groupBy => "group_by"
  | having => "having"
  | union => "union"
  | orderBy => "order_by"
  | limit => "limit"
  | offset => "offset"
  | onConflict => "on_conflict"
  | doUpdate => "do_update"
  | returning => "returning"

/-! ## Failures -/

/-- Why an expression, a clause or a statement is refused. -/
inductive Failure where
  | operandTypes (operator : String) (left right : ValueType)
  | operandType (operator : String) (operand : ValueType)
  | negativeCount (operator : String) (value : Int)
  | unknownOperator (symbol : String)
  | notBoolean (found : ValueType)
  | missingName
  | noArguments
  | duplicateArguments
  | notAGroupByColumn
  | aggregateNotAllowed
  | nestedAggregates
  | overRequiresAggregate
  | scalarSubquery
  | clauseOrder (clause after : Origin)
  | unknownTables (tables : List String)
  | unknownStaticTables (tables : List String)
  | unknownCtes (ctes : List String)
  | unknownStaticCtes (ctes : List String)
  | duplicateTableNames (tables : List String)
  | joinTableDependencies (tables : List String)
  | joinConditionTables
  | joinConditionDynamicTables
  | foreignColumn (column table : String)
  | mixedAggregates
  | notAggregate
  | notStaticAggregate
  | orderByAggregates
  | duplicateColumns
  | multipleTables
  | readOnlyColumn (column : String)
  | assignmentTypes (column : String) (columnType value : ValueType)
  | rowWidth (expected found : Nat)
  | dynamicRowValue
  | duplicateCtes (ctes : List String)
  | cteDependency (cte : String) (missing : List String)
  | cteDynamicDependency (cte : String) (dynamic : List String)
  | noColumnsSelected
  | whereRequired
  | assignmentsRequired
  | insertValuesRequired
  | missingRequiredColumns (columns : List String)
  | conflictTargetRequired
  | onConflictWhereRequired
  | unionResultMismatch
  | cteSelfReference
  deriving DecidableEq, Repr

/-- The name of a failure, for programs that react to it. -/
def Failure.name : Failure → String
  | operandTypes .. => "OperandTypes"
  | operandType .. => "OperandType"
  | negativeCount .. => "NegativeCount"
  | unknownOperator .. => "UnknownOperator"
  | notBoolean .. => "NotBoolean"
  | missingName => "MissingName"
  | noArguments => "NoArguments"
  | duplicateArguments => "DuplicateArguments"
  | notAGroupByColumn => "NotAGroupByColumn"
  | aggregateNotAllowed => "AggregateNotAllowed"
  | nestedAggregates => "NestedAggregates"
  | overRequiresAggregate => "OverRequiresAggregate"
  | scalarSubquery => "ScalarSubquery"
  | clauseOrder .. => "ClauseOrder"
  | unknownTables .. => "UnknownTables"
  | unknownStaticTables .. => "UnknownStaticTables"
  | unknownCtes .. => "UnknownCtes"
  | unknownStaticCtes .. => "UnknownStaticCtes"
  | duplicateTableNames .. => "DuplicateTableNames"
  | joinTableDependencies .. => "JoinTableDependencies"
  | joinConditionTables => "JoinConditionTables"
  | joinConditionDynamicTables => "JoinConditionDynamicTables"
  | foreignColumn .. => "ForeignColumn"
  | mixedAggregates => "MixedAggregates"
  | notAggregate => "NotAggregate"
  | notStaticAggregate => "NotStaticAggregate"
  | orderByAggregates => "OrderByAggregates"
  | duplicateColumns => "DuplicateColumns"
  | multipleTables => "MultipleTables"
  | readOnlyColumn .. => "ReadOnlyColumn"
  | assignmentTypes .. => "AssignmentTypes"
  | rowWidth .. => "RowWidth"
  | dynamicRowValue => "DynamicRowValue"
  | duplicateCtes .. => "DuplicateCtes"
  | cteDependency .. => "CteDependency"
  | cteDynamicDependency .. => "CteDynamicDependency"
  | noColumnsSelected => "NoColumnsSelected"
  | whereRequired => "WhereRequired"
  | assignmentsRequired => "AssignmentsRequired"
  | insertValuesRequired => "InsertValuesRequired"
  | missingRequiredColumns .. => "MissingRequiredColumns"
  | conflictTargetRequired => "ConflictTargetRequired"
  | onConflictWhereRequired => "OnConflictWhereRequired"
  | unionResultMismatch => "UnionResultMismatch"
  | cteSelfReference => "CteSelfReference"

/-- Names as a message lists them. -/
def commaSeparated (names : List String) : String := ", ".intercalate names

/-- The wording of a failure. -/
def Failure.message : Failure → String
  | operandTypes operator left right =>
      "operator " ++ operator ++ " cannot be applied to " ++ left.text ++ " and " ++ right.text
  | operandType operator operand => operator ++ " cannot be applied to " ++ operand.text
  | negativeCount operator value =>
      operator ++ " must not be negative, found " ++ toString value
  | unknownOperator symbol => "unknown operator '" ++ symbol ++ "'"
  | notBoolean found => "expression must be boolean, found " ++ found.text
  | missingName => "each column must have a name"
  | noArguments => "at least one argument required"
  | duplicateArguments => "at least one duplicate argument detected"
  | notAGroupByColumn => "arguments must be columns or declared group_by columns"
  | aggregateNotAllowed => "argument must not contain aggregate functions"
  | nestedAggregates => "aggregate functions must not be nested"
  | overRequiresAggregate => "over() requires an aggregate function"
  | scalarSubquery => "a sub-select used as a value must select exactly one column"
  | clauseOrder clause after => clause.text ++ " cannot follow " ++ after.text
  | unknownTables tables =>
      "at least one expression requires a table which is otherwise not known in the statement: "
        ++ commaSeparated tables
  | unknownStaticTables tables =>
      "at least one expression statically requires a table which is only known dynamically in "
        ++ "the statement: " ++ commaSeparated tables
  | unknownCtes ctes =>
      "at least one common table expression is not defined in the statement: "
        ++ commaSeparated ctes
  | unknownStaticCtes ctes =>
      "at least one expression statically requires a common table expression which is only "
        ++ "defined dynamically: " ++ commaSeparated ctes
  | duplicateTableNames tables => "duplicate table names detected: " ++ commaSeparated tables
  | joinTableDependencies tables =>
      "table dependencies detected in join: " ++ commaSeparated tables
  | joinConditionTables => "on() condition of a join must only use tables provided in that join"
  | joinConditionDynamicTables =>
      "on() condition of a static join must not use tables provided only dynamically in that join"
  | foreignColumn column table => "column " ++ column ++ " does not belong to table " ++ table
  | mixedAggregates => "selected columns must not mix aggregates and non-aggregates"
  | notAggregate => "expressions must be aggregates of the group_by columns"
  | notStaticAggregate =>
      "statically added expressions must be aggregates of the static group_by columns"
  | orderByAggregates =>
      "order_by() must not contain aggregate functions without group_by()"
  | duplicateColumns => "at least one duplicate column detected in set()"
  | multipleTables => "set() contains assignments for columns from more than one table"
  | readOnlyColumn column => "column " ++ column ++ " cannot be assigned"
  | assignmentTypes column columnType value =>
      "cannot assign " ++ value.text ++ " to column " ++ column ++ " of type " ++ columnType.text
  | rowWidth expected found =>
      "values() row has " ++ toString found ++ " entries, expected " ++ toString expected
  | dynamicRowValue => "values() rows must not contain dynamic entries"
  | duplicateCtes ctes => "duplicate common table expression names: " ++ commaSeparated ctes
  | cteDependency cte missing =>
      "common table expression " ++ cte ++ " depends on " ++ commaSeparated missing
        ++ " which is not defined before it"
  | cteDynamicDependency cte dynamic =>
      "static common table expression " ++ cte ++ " depends on dynamic " ++ commaSeparated dynamic
  | noColumnsSelected => "no columns selected"
  | whereRequired => "where() or unconditionally() required"
  | assignmentsRequired => "set() required"
  | insertValuesRequired => "set(), values() or default_values() required"
  | missingRequiredColumns columns =>
      "required columns are not assigned: " ++ commaSeparated columns
  | conflictTargetRequired =>
      "on_conflict().do_update() requires at least one conflict target column"
  | onConflictWhereRequired => "where() required for on_conflict().do_update()"
  | unionResultMismatch =>
      "both arguments in a union must have the same result columns (type and name)"
  | cteSelfReference =>
      "common table expression must not self-reference in the first part; use "
        ++ "union_all/union_distinct for recursion"

/-! ## Errors -/

/-- What a building, writing or running call fails with. -/
inductive Error where
  /-- A build-time check. -/
  | check (origin : Origin) (failure : Failure)
  /-- A value that the target dialect cannot express, or a pool that refuses a call. -/
  | sqlGeneration (message : String)
  /-- A statement that cannot be used the way it was requested. -/
  | invalidQuery (message : String)
  | columnNotFound (table column : String)
  deriving DecidableEq, Repr

namespace Error

/-- The wording of an error. -/
def message : Error → String
  | check origin failure => "Check failed in " ++ origin.text ++ ": " ++ failure.message
  | sqlGeneration message => "SQL generation error: " ++ message
  | invalidQuery message => "Invalid query: " ++ message
  | columnNotFound table column =>
      "Column '" ++ column ++ "' not found in table '" ++ table ++ "'"

/-- The call a failed check is attributed to. -/
def origin? : Error → Option Origin
  | check origin _ => some origin
  | _ => none

/-- Whether the error is a failed check. -/
def isCheck (error : Error) : Bool := error.origin?.isSome

end Error

/-- Fails with an attributed failure. -/
abbrev fail {α : Type} (origin : Origin) (failure : Failure) : Except Error α :=
  .error (.check origin failure)

/-- Fails unless `condition` holds. -/
def require (condition : Bool) (origin : Origin) (failure : Failure) : Except Error Unit :=
  if condition then .ok () else fail origin failure

theorem require_eq_ok {condition : Bool} {origin : Origin} {failure : Failure} :
    require condition origin failure = .ok () ↔ condition = true := by
  cases condition <;> simp [require]

/-- A chain of checks passes if its first link does and what follows passes with its result. -/
theorem bind_eq_ok {α β : Type} {first : Except Error α} {next : α → Except Error β} {result : β} :
    (first >>= next) = .ok result ↔ ∃ value, first = .ok value ∧ next value = .ok result := by
  cases first with
  | error error =>
      simp only [reduceCtorEq, false_and, exists_false, iff_false]
      exact fun equal => nomatch equal
  | ok value =>
      simp only [Except.ok.injEq, exists_eq_left']
      exact Iff.rfl

/-- A chain of checks fails if its first link does or what follows fails with its result. -/
theorem bind_eq_error {α β : Type} {first : Except Error α} {next : α → Except Error β}
    {error : Error} :
    (first >>= next) = .error error
      ↔ first = .error error ∨ ∃ value, first = .ok value ∧ next value = .error error := by
  cases first with
  | error failed =>
      simp only [Except.error.injEq, reduceCtorEq, false_and, exists_false, or_false]
      exact Except.error.injEq failed error ▸ Iff.rfl
  | ok value =>
      simp only [reduceCtorEq, Except.ok.injEq, exists_eq_left', false_or]
      exact Iff.rfl

/-- What follows a check passes only after the check. -/
theorem check_eq_ok {β : Type} {check : Except Error Unit} {next : Except Error β} {result : β} :
    (check >>= fun _ => next) = .ok result ↔ check = .ok () ∧ next = .ok result := by
  rw [bind_eq_ok]
  constructor
  · rintro ⟨⟨⟩, passed, rest⟩
    exact ⟨passed, rest⟩
  · rintro ⟨passed, rest⟩
    exact ⟨(), passed, rest⟩

theorem pure_eq_ok {α : Type} {value result : α} :
    (pure value : Except Error α) = .ok result ↔ value = result :=
  Except.ok.injEq value result ▸ Iff.rfl

/-- Checking the items of a list passes if each of them does. -/
theorem forM_eq_ok {α : Type} {items : List α} {check : α → Except Error Unit} :
    items.forM check = .ok () ↔ ∀ item ∈ items, check item = .ok () := by
  induction items with
  | nil =>
      simp only [List.not_mem_nil, false_implies, implies_true, iff_true]
      rfl
  | cons item items ih =>
      rw [List.forM, check_eq_ok, List.forall_mem_cons, ← ih]

end CheckedSql
