import CheckedSql.Building.Select

/-!
# Building common table expressions

A common table expression is a name for a consistent select that reads no table
of its surroundings.  Arms of the same shape may be united with it, and an arm
may read the common table expression itself, which makes it recursive.  The
base may not.
-/

namespace CheckedSql

/-! ## References -/

namespace CteRef

/-- A reference by name alone.  It has no known columns. -/
def ofName (name : String) : CteRef := { name, alias? := none, fields := [] }

/-- The columns of the table it refers to. -/
def columns (reference : CteRef) : List Column :=
  columnsOf reference.identity (derivedSpecs reference.fields)

/-- The column of a name. -/
def column (reference : CteRef) (name : String) : Except Error Column :=
  findColumn reference.identity (derivedSpecs reference.fields) name

end CteRef

namespace Cte

/-- The table to read the definition from. -/
def reference (cte : Cte) : CteRef := { name := cte.name, alias? := none, fields := cte.fields }

/-- The same table under another name. -/
def as (cte : Cte) (name : String) : CteRef := { cte.reference with alias? := some name }

/-- The columns of the definition. -/
def columns (cte : Cte) : List Column := cte.reference.columns

/-- The column of a name. -/
def column (cte : Cte) (name : String) : Except Error Column := cte.reference.column name

/-! ## Definitions -/

/-- A definition of a name by its base. -/
def define (name : String) (base : Select) : Except Error Cte := do
  require (!base.unresolvedCtes.contains name) .cte .cteSelfReference
  requireEmpty base.unresolvedTables .cte .unknownTables
  base.checkConsistency
  return { name, base, arms := [], fields := base.fields }

/-- The definition united with one more arm. -/
def union (cte : Cte) (distinct : Bool) (arm : Entry Select) : Except Error Cte := do
  Clause.requireSameFields cte.fields arm.value.fields
  requireEmpty arm.value.unresolvedTables .union .unknownTables
  arm.value.checkConsistency
  let readsSelf := arm.value.unresolvedCtes.contains cte.name
  return { cte with arms := cte.arms ++ [⟨distinct, arm, readsSelf⟩] }

/-- The number of arms that are written. -/
def activeArms (cte : Cte) : Nat := (cte.arms.filter fun arm => arm.select.isActive).length

end Cte

end CheckedSql
