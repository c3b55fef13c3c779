import CheckedSql.Proofs.Aggregation.SingleGroup
import CheckedSql.Proofs.Built.Checked

/-!
# Where aggregate functions are called

An aggregate function runs over a group of rows, so it has no place in what is evaluated for
one row at a time: in conditions on rows, in values that are written, in what the rows are
grouped by, and in its own argument.  Each call that takes such an expression looks for aggregate
functions in it, and they all use the same test, which goes through every operand, active or
not, and stops at selects (`Expr.containsAggregate_iff`).

A statement takes conditions, rows and assignments at different times.  Its clauses keep what the
calls have found out about them (`Statement.checked_of_built`), and the assignments what was found
out about them before (`Statement.entriesAreMade_of_built`).  `Part.Built.placesAggregates` puts
this together for all that stands in a built part.
-/

namespace CheckedSql

/-! ## Calls in an expression -/

namespace Expr

/-- The inner expression stands in the outer one, and not in a select inside of it. -/
def Includes : Expr → Expr → Prop :=
  Relation.ReflTransGen fun outer child => child ∈ outer.children

/-- An aggregate function is called in the expression. -/
def CallsAggregate (expr : Expr) : Prop :=
  ∃ call argument?, expr.Includes (.aggregate call argument?)

/-- The test finds the calls of aggregate functions. -/
theorem containsAggregate_iff {expr : Expr} :
    expr.containsAggregate = true ↔ expr.CallsAggregate := by
  have each (child : Expr) (mem : child ∈ expr.children) :
      child.containsAggregate = true ↔ child.CallsAggregate :=
    containsAggregate_iff
  rw [containsAggregate_eq, Bool.or_eq_true, List.any_eq_true]
  constructor
  · rintro (isCall | ⟨child, mem, inChild⟩)
    · cases expr with
      | aggregate call argument? => exact ⟨call, argument?, .refl⟩
      | _ => cases isCall
    · obtain ⟨call, argument?, includes⟩ := (each child mem).1 inChild
      exact ⟨call, argument?, .head mem includes⟩
  · rintro ⟨call, argument?, includes⟩
    rcases includes.cases_head with rfl | ⟨child, mem, inChild⟩
    · exact .inl rfl
    · exact .inr ⟨child, mem, (each child mem).2 ⟨call, argument?, inChild⟩⟩
termination_by sizeOf expr
decreasing_by exact sizeOf_lt_of_mem_children mem

theorem containsAggregate_eq_false_iff {expr : Expr} :
    expr.containsAggregate = false ↔ ¬ expr.CallsAggregate := by
  rw [← Bool.not_eq_true, containsAggregate_iff]

end Expr

/-! ## What is evaluated for single rows -/

/-- Whether the clause is evaluated for one row at a time. -/
def Clause.readsRows : Clause → Bool
  | set _ | values _ | .where _ | groupBy _ | onConflict _ _ | returning _ => true
  | .with _ | columns _ _ | target _ _ | source _ _ | having _ | union _ _ | orderBy _
  | limit _ _ => false

/-- No value of a row that fits its columns calls an aggregate function. -/
theorem Insert.containsAggregate_of_requireRow {columns : List Column} {row : List Expr}
    (fits : requireRow columns row = .ok ()) {value : Expr} (mem : value ∈ row) :
    value.containsAggregate = false := by
  rw [requireRow, check_eq_ok, require_eq_ok, beq_iff_eq] at fits
  obtain ⟨width, each⟩ := fits
  -- as many columns as values, so each value is checked with one
  have values : (columns.zip row).map Prod.snd = row :=
    List.map_snd_zip (Nat.le_of_eq width)
  rw [← values] at mem
  obtain ⟨⟨column, _⟩, inZip, rfl⟩ := List.mem_map.1 mem
  exact (Column.requireHolds_eq_ok.1 (forM_eq_ok.1 each _ inZip)).2

/-- No assigned value calls an aggregate function. -/
theorem Assignment.IsMade.containsAggregate {assignment : Assignment} (made : assignment.IsMade)
    {value : Expr} (given : assignment.value? = some value) : value.containsAggregate = false := by
  rcases made with ⟨assigned, made⟩ | made
  · obtain ⟨-, rest⟩ := check_eq_ok.1 made
    obtain ⟨holds, same⟩ := check_eq_ok.1 rest
    rw [← pure_eq_ok.1 same] at given
    obtain rfl := Option.some_inj.1 given
    exact (Column.requireHolds_eq_ok.1 holds).2
  · obtain ⟨-, same⟩ := check_eq_ok.1 made
    rw [← pure_eq_ok.1 same] at given
    cases given

theorem Assignment.containsAggregate_of_mem {assignments : List (Entry Assignment)}
    (made : ∀ assignment ∈ assignments, assignment.value.IsMade) {expr : Expr}
    (mem : .expr expr ∈ Assignment.entriesParts assignments) : expr.containsAggregate = false := by
  obtain ⟨assignment, assignmentMem, inAssignment⟩ := List.mem_flatMap.1 mem
  obtain ⟨value, given, same⟩ := List.mem_map.1 inAssignment
  cases same
  exact (made assignment assignmentMem).containsAggregate (Option.mem_toList.1 given)

namespace Clause

variable {clause : Clause} {expr : Expr}

/-- A `GROUP BY` entry is a column, or it is declared to be an entry. -/
theorem containsAggregate_of_isGroupEntry (built : (Part.expr expr).Built)
    (isEntry : expr.isGroupEntry = true) : expr.containsAggregate = false := by
  cases expr with
  | column => rfl
  | groupKey inner =>
      have plain : inner.containsAggregate = false := Expr.keepsCallsApart_of_built built
      rw [Expr.containsAggregate_eq, Expr.children, List.any_cons, plain]
      rfl
  | _ => cases isEntry

/-- Where a clause is evaluated for single rows, it calls no aggregate function. -/
theorem containsAggregate_of_readsRows (checked : clause.Checked) (made : clause.EntriesAreMade)
    (built : (Part.expr expr).Built) (readsRows : clause.readsRows = true)
    (mem : .expr expr ∈ clause.parts) : expr.containsAggregate = false := by
  cases clause with
  | set assignments => exact Assignment.containsAggregate_of_mem made mem
  | values content =>
      cases content with
      | defaultValues => cases mem
      | set assignments => exact Assignment.containsAggregate_of_mem made mem
      | rows listed given =>
          obtain ⟨row, rowMem, inRow⟩ := List.mem_flatMap.1 mem
          obtain ⟨value, valueMem, same⟩ := List.mem_map.1 inRow
          cases same
          exact Insert.containsAggregate_of_requireRow (checked.2 row rowMem) valueMem
  | «where» condition? =>
      obtain ⟨condition, given, same⟩ := List.mem_map.1 mem
      cases same
      have passed := mkWhere_eq_ok.1 (checked condition (Option.mem_toList.1 given))
      exact (requireWhere_eq_ok.1 passed.1).2
  | groupBy entries =>
      obtain ⟨entry, entryMem, same⟩ := List.mem_map.1 mem
      cases same
      have allEntries := (mkGroupBy_eq_ok.1 checked).2.1
      exact containsAggregate_of_isGroupEntry built (List.all_eq_true.1 allEntries entry entryMem)
  | onConflict keys action =>
      cases action with
      | doNothing => cases mem
      | doUpdate assignments condition? =>
          rcases List.mem_append.1 mem with assigned | isCondition
          · exact Assignment.containsAggregate_of_mem made assigned
          · obtain ⟨condition, given, same⟩ := List.mem_map.1 isCondition
            cases same
            exact (requireWhere_eq_ok.1 (checked.2 condition (Option.mem_toList.1 given))).2
  | returning entries =>
      obtain ⟨column, columnMem, same⟩ := List.mem_map.1 mem
      cases same
      have plain := (mkReturning_eq_ok.1 checked).2.2.1
      exact Bool.eq_false_iff.2 (List.any_eq_false.1 plain column columnMem)
  | _ => cases readsRows

end Clause

/-- Without `GROUP BY`, what a consistent select sorts by calls no aggregate function. -/
theorem Select.containsAggregate_of_sorted {select : Select}
    (consistent : select.checkConsistency = .ok ())
    (ungrouped : ∀ entries, .groupBy entries ∉ select.clauses) {orders : List (Entry SortOrder)}
    (clauseMem : .orderBy orders ∈ select.clauses) {order : Entry SortOrder}
    (mem : order ∈ orders) : order.value.expr.containsAggregate = false := by
  have noGroups : (Statement.select select).scope.hasGroupBy = false := by
    rw [← Bool.not_eq_true, Statement.hasGroupBy_iff]
    rintro ⟨entries, entriesMem⟩
    exact ungrouped entries entriesMem
  have checked := (Statement.checkConsistency_eq_ok.1 consistent).1 _ clauseMem
  exact (Clause.checkConsistency_orderBy_ungrouped noGroups).1 checked order mem

/-! ## Built parts -/

/-- Aggregate functions are called only where there may be a group of rows. -/
structure Part.PlacesAggregates (part : Part) : Prop where
  /-- The argument of an aggregate function calls none. -/
  arguments : ∀ call argument, part.Contains (.expr (.aggregate call (some argument))) →
    ¬ argument.CallsAggregate
  /-- An expression declared to be a `GROUP BY` entry calls none. -/
  groupKeys : ∀ inner, part.Contains (.expr (.groupKey inner)) → ¬ inner.CallsAggregate
  /-- The condition of a join calls none. -/
  joins : ∀ left kind right condition,
    part.Contains (.tableRef (.join left kind right (some condition))) → ¬ condition.CallsAggregate
  /-- Assigned values, conditions on rows, `GROUP BY` entries and returned columns call none. -/
  rows : ∀ statement, part.Contains (.statement statement) →
    ∀ clause ∈ statement.clauses, clause.readsRows = true →
    ∀ expr, .expr expr ∈ clause.parts → ¬ expr.CallsAggregate
  /-- Without `GROUP BY`, what a consistent select sorts by calls none. -/
  orders : ∀ select, part.Contains (.select select) → select.checkConsistency = .ok () →
    (∀ entries, .groupBy entries ∉ select.clauses) →
    ∀ orders, .orderBy orders ∈ select.clauses → ∀ order ∈ orders,
    ¬ order.value.expr.CallsAggregate

/-- Whatever stands in a built part, aggregate functions are called in their places only. -/
theorem Part.Built.placesAggregates {part : Part} (built : part.Built) : part.PlacesAggregates where
  arguments := by
    intro call argument contains
    have apart := Expr.keepsCallsApart_of_built (built.of_contains contains)
    exact Expr.containsAggregate_eq_false_iff.1 (apart argument rfl)
  groupKeys := by
    intro inner contains
    have apart := Expr.keepsCallsApart_of_built (built.of_contains contains)
    exact Expr.containsAggregate_eq_false_iff.1 apart
  joins := by
    intro left kind right condition contains
    obtain ⟨-, -, canJoin⟩ := (built.of_contains contains).join
    exact Expr.containsAggregate_eq_false_iff.1 (canJoin condition rfl).plain
  rows := by
    intro statement contains clause clauseMem readsRows expr mem
    have statementBuilt := built.of_contains contains
    have checked := Statement.checked_of_built statementBuilt clause clauseMem
    have made := Statement.entriesAreMade_of_built statementBuilt clause clauseMem
    have exprBuilt := statementBuilt.of_mem_children (List.mem_flatMap.2 ⟨clause, clauseMem, mem⟩)
    exact Expr.containsAggregate_eq_false_iff.1
      (Clause.containsAggregate_of_readsRows checked made exprBuilt readsRows mem)
  orders := by
    intro select contains consistent ungrouped orders clauseMem order mem
    exact Expr.containsAggregate_eq_false_iff.1
      (Select.containsAggregate_of_sorted consistent ungrouped clauseMem mem)

/-- A select that calls `COUNT(*)` in its `HAVING`, and sorts by a column. -/
theorem Select.idIfMany_placesAggregates :
    (Part.select idIfMany).Built ∧ idIfMany.checkConsistency = .ok ()
      ∧ (Part.select idIfMany).PlacesAggregates
      ∧ (∃ condition, .having condition ∈ idIfMany.clauses ∧ condition.value.CallsAggregate)
      ∧ ¬ (Expr.column (.ofId "foo")).CallsAggregate := by
  have places := idIfMany_built.placesAggregates
  have ungrouped : ∀ entries, .groupBy entries ∉ idIfMany.clauses := by
    simp [idIfMany, ofId, ofColumn]
  refine ⟨idIfMany_built, rfl, places, ?_, ?_⟩
  · exact ⟨_, .tail _ (.tail _ (.head _)), Expr.containsAggregate_iff.1 rfl⟩
  · have sorted : .orderBy byId ∈ idIfMany.clauses := .tail _ (.tail _ (.tail _ (.head _)))
    exact places.orders idIfMany .refl rfl ungrouped byId sorted _ (.head _)

end CheckedSql
