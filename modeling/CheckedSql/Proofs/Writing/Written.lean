import CheckedSql.Proofs.Part
import Mathlib.Data.List.Flatten

/-!
# Written parts

Not every part of a statement is written.  What is inactive is left out: an operand
of a chain, a result column, an assignment, a condition, a join with its condition,
a common table expression, an arm.  A test for membership in an empty list has an
answer, and neither the tested expression nor the list is written.  `Part.written`
lists the immediate parts that remain, in the order of the children
(`Part.written_sublist`).
-/

namespace CheckedSql

/-! ## What is written -/

/-- The written parts of an expression. -/
def Expr.written : Expr → List Part
  | .chain _ operands => (activeValues operands).map .expr
  | .within _ _ [] => []
  | expr => expr.parts

/-- The written parts of assignments. -/
def Assignment.written (assignments : List (Entry Assignment)) : List Part :=
  (activeValues assignments).flatMap fun assignment => assignment.value?.toList.map .expr

/-- The written parts of inserted values. -/
def InsertValues.written : InsertValues → List Part
  | set assignments => Assignment.written assignments
  | content => content.parts

/-- The written parts of a conflict action. -/
def ConflictAction.written : ConflictAction → List Part
  | doNothing => []
  | doUpdate assignments condition? =>
      Assignment.written assignments ++ (activeValues condition?.toList).map .expr

/-- The written parts of a clause. -/
def Clause.written : Clause → List Part
  | .with ctes => (activeValues ctes).map .cte
  | columns _ entries => (activeValues entries).map fun column => .expr column.expr
  | set assignments => Assignment.written assignments
  | values content => content.written
  | .where condition? => (activeValues condition?.toList).map .expr
  | groupBy entries => (activeValues entries).map .expr
  | having condition => (activeValues [condition]).map .expr
  | union _ arm => (activeValues [arm]).map .select
  | orderBy orders => (activeValues orders).map fun order => .expr order.expr
  | onConflict _ action => action.written
  | returning entries => (activeValues entries).map fun column => .expr column.expr
  | clause => clause.parts

/-- The written parts of a table reference. -/
def TableRef.written : TableRef → List Part
  | join left _ right condition? =>
      .tableRef left :: (activeValues [right]).flatMap fun right =>
        .tableRef right :: condition?.toList.map .expr
  | reference => reference.parts

/-- The written parts of a common table expression. -/
def Cte.written (cte : Cte) : List Part :=
  .select cte.base :: (activeValues (cte.arms.map CteArm.select)).map .select

/-- The immediate parts of a part that are written, in their order. -/
def Part.written : Part → List Part
  | expr e => e.written
  | statement s => s.clauses.flatMap Clause.written
  | tableRef table => table.written
  | cte definition => definition.written

/-! ## Written parts are children -/

theorem activeValues_sublist {α : Type} (entries : List (Entry α)) :
    (activeValues entries).Sublist (entries.map Entry.value) :=
  (List.filter_sublist (p := Entry.isActive)).map _

theorem Assignment.written_sublist (assignments : List (Entry Assignment)) :
    (Assignment.written assignments).Sublist (Assignment.entriesParts assignments) := by
  have sublist := (activeValues_sublist assignments).flatMap fun assignment =>
    assignment.value?.toList.map Part.expr
  rwa [List.flatMap_map] at sublist

/-- What is active of mapped entries is part of what is mapped from all of them. -/
theorem activeValues_map_sublist {α : Type} (entries : List (Entry α)) (part : α → Part) :
    ((activeValues entries).map part).Sublist (entries.map fun entry => part entry.value) := by
  have sublist := (activeValues_sublist entries).map part
  rwa [List.map_map] at sublist

theorem Expr.written_sublist (expr : Expr) : expr.written.Sublist expr.parts := by
  cases expr with
  | chain connective operands =>
      have sublist := activeValues_map_sublist operands .expr
      simpa [Expr.written, Expr.parts, Expr.children, Expr.select?, Function.comp_def] using sublist
  | within negated tested items =>
      cases items with
      | nil => exact List.nil_sublist _
      | cons item items => exact List.Sublist.refl _
  | column | value | parameter | unary | binary | concat | between | cases | aggregate | groupKey
  | existsIn | subquery => exact List.Sublist.refl _

theorem ConflictAction.written_sublist (action : ConflictAction) :
    action.written.Sublist action.parts := by
  cases action with
  | doNothing => exact List.Sublist.refl _
  | doUpdate assignments condition? =>
      exact (Assignment.written_sublist assignments).append
        (activeValues_map_sublist condition?.toList .expr)

theorem Clause.written_sublist (clause : Clause) : clause.written.Sublist clause.parts := by
  cases clause with
  | «with» ctes => exact activeValues_map_sublist ctes .cte
  | columns distinct entries => exact activeValues_map_sublist entries _
  | set assignments => exact Assignment.written_sublist assignments
  | values content =>
      cases content with
      | set assignments => exact Assignment.written_sublist assignments
      | defaultValues | rows => exact List.Sublist.refl _
  | «where» condition? => exact activeValues_map_sublist condition?.toList .expr
  | groupBy entries => exact activeValues_map_sublist entries .expr
  | having condition => exact activeValues_map_sublist [condition] .expr
  | union distinct arm => exact activeValues_map_sublist [arm] .select
  | orderBy orders => exact activeValues_map_sublist orders _
  | onConflict columns action => exact action.written_sublist
  | returning entries => exact activeValues_map_sublist entries _
  | target | source | limit => exact List.Sublist.refl _

theorem TableRef.written_sublist (table : TableRef) : table.written.Sublist table.parts := by
  cases table with
  | join left kind right condition? =>
      refine List.Sublist.cons_cons _ ?_
      have sublist := (activeValues_sublist [right]).flatMap fun right =>
        Part.tableRef right :: condition?.toList.map .expr
      simpa using sublist
  | table | cte | subSelect => exact List.Sublist.refl _

theorem Cte.written_sublist (cte : Cte) :
    cte.written.Sublist (cte.selects.map Part.select) := by
  have sublist := activeValues_map_sublist (cte.arms.map CteArm.select) Part.select
  simpa [Cte.written, Cte.selects, Function.comp_def] using sublist

/-- The written parts of a part are children of it, in their order. -/
theorem Part.written_sublist (part : Part) : part.written.Sublist part.children := by
  cases part with
  | expr expr => exact expr.written_sublist
  | statement statement => exact .flatMap_right _ fun clause _ => clause.written_sublist
  | tableRef table => exact table.written_sublist
  | cte cte => exact cte.written_sublist

end CheckedSql
