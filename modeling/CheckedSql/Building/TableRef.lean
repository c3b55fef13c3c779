import CheckedSql.Building.Expression

/-!
# Building joins

A join takes two sides that share no table and read nothing from outside.  Its
condition reads the tables of the two sides only.  The condition of a static
join is always written, so it must not read a table of the left side that may
be absent.
-/

namespace CheckedSql

namespace TableRef

/-- The tables of a side that may be absent. -/
def dynamicTables (table : TableRef) : NameSet := table.names.tables \ table.names.staticTables

/-- Fails unless `condition` can join the two sides. -/
def requireJoinCondition (left : TableRef) (right : Entry TableRef) (condition : Expr) :
    Except Error Unit := do
  requireBoolean .join condition
  require (!condition.containsAggregate) .join .aggregateNotAllowed
  let provided := left.names.tables ∪ right.value.names.tables
  require (condition.needs.tables.isSubsetOf provided) .join .joinConditionTables
  require (!right.isStatic || condition.needs.tables.isDisjoint left.dynamicTables) .join
    .joinConditionDynamicTables

/-- Fails if there is a condition and it cannot join the two sides. -/
def requireOptionalCondition (left : TableRef) (right : Entry TableRef) :
    Option Expr → Except Error Unit
  | none => .ok ()
  | some condition => requireJoinCondition left right condition

/-- A join, with a right side that may be dynamic. -/
def mkJoin (left : TableRef) (kind : JoinKind) (right : Entry TableRef)
    (condition? : Option Expr) : Except Error TableRef := do
  requireEmpty (left.names.tables ∩ right.value.names.tables) .join .duplicateTableNames
  requireEmpty left.names.needs.tables .join .joinTableDependencies
  requireEmpty right.value.names.needs.tables .join .joinTableDependencies
  requireOptionalCondition left right condition?
  return .join left kind right condition?

end TableRef

end CheckedSql
