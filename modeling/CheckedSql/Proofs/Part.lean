import CheckedSql.Aggregation
import CheckedSql.Statement.Basic
import Mathlib.Logic.Relation

/-!
# Parts of statements

Expressions, statements, table references and common table expressions are the
*parts* that other parts are made of.  `Part.children` lists the immediate parts
of a part, active or not, in the order in which they are written.  A clause is
no part of its own: its parts are children of its statement.

The syntax is a family of types that contain each other through lists, pairs and
entries.  `Part.induction` turns all of that into one principle: a property holds
of every part if it holds of a part whose children have it.  A child is smaller
than its parent (`Part.weight_lt`), and nothing else is needed.
-/

namespace CheckedSql

/-- A part of a statement. -/
inductive Part where
  | expr (expr : Expr)
  | statement (statement : Statement)
  | tableRef (table : TableRef)
  | cte (cte : Cte)

/-- A select as a part. -/
@[match_pattern] abbrev Part.select (select : Select) : Part := .statement (.select select)

/-- The expression that reads a column, as a part. -/
abbrev Part.column (column : Column) : Part := .expr (.column column)

/-! ## Children -/

/-- The select that an expression consists of. -/
def Expr.select? : Expr → Option Select
  | .existsIn select => some select
  | .subquery select => some select
  | _ => none

/-- The parts of an expression. -/
def Expr.parts (expr : Expr) : List Part :=
  expr.children.map .expr ++ expr.select?.toList.map .select

/-- The parts of assignments. -/
def Assignment.entriesParts (assignments : List (Entry Assignment)) : List Part :=
  assignments.flatMap fun assignment => assignment.value.value?.toList.map .expr

/-- The parts of inserted values. -/
def InsertValues.parts : InsertValues → List Part
  | defaultValues => []
  | set assignments => Assignment.entriesParts assignments
  | rows _ given => given.flatMap fun row => row.map .expr

/-- The parts of a conflict action. -/
def ConflictAction.parts : ConflictAction → List Part
  | doNothing => []
  | doUpdate assignments condition? =>
      Assignment.entriesParts assignments
        ++ condition?.toList.map fun condition => .expr condition.value

/-- The parts of a clause. -/
def Clause.parts : Clause → List Part
  | .with ctes => ctes.map fun cte => .cte cte.value
  | columns _ entries => entries.map fun column => .expr column.value.expr
  | target _ _ => []
  | set assignments => Assignment.entriesParts assignments
  | values content => content.parts
  | source _ table => [.tableRef table]
  | .where condition? => condition?.toList.map fun condition => .expr condition.value
  | groupBy entries => entries.map fun entry => .expr entry.value
  | having condition => [.expr condition.value]
  | union _ arm => [.select arm.value]
  | orderBy orders => orders.map fun order => .expr order.value.expr
  | limit _ count => [.expr count]
  | onConflict _ action => action.parts
  | returning entries => entries.map fun column => .expr column.value.expr

/-- The parts of a table reference. -/
def TableRef.parts : TableRef → List Part
  | table _ => []
  | cte _ => []
  | subSelect derived => [.select derived.select]
  | join left _ right condition? =>
      .tableRef left :: .tableRef right.value :: condition?.toList.map .expr

/-- The selects that define a common table expression: its base and its arms. -/
def Cte.selects (cte : Cte) : List Select :=
  cte.base :: cte.arms.map fun arm => arm.select.value

/-- The immediate parts of a part. -/
def Part.children : Part → List Part
  | expr e => e.parts
  | statement s => s.clauses.flatMap Clause.parts
  | tableRef table => table.parts
  | cte definition => definition.selects.map .select

/-- The part is the other one or stands in it at some depth. -/
def Part.Contains : Part → Part → Prop :=
  Relation.ReflTransGen fun part child => child ∈ part.children

/-- The select of an expression is its child. -/
theorem Expr.mem_children_of_select? {expr : Expr} {select : Select}
    (found : expr.select? = some select) : Part.select select ∈ (Part.expr expr).children :=
  List.mem_append_right _ (List.mem_map_of_mem (Option.mem_toList.2 found))

/-- A select that stands in an expression is the one that the expression consists of. -/
theorem Expr.select?_of_mem_children {expr : Expr} {select : Select}
    (mem : Part.select select ∈ (Part.expr expr).children) : expr.select? = some select := by
  rcases List.mem_append.1 mem with isExpr | isSelect
  · obtain ⟨inner, -, same⟩ := List.mem_map.1 isExpr
    cases same
  · obtain ⟨found, foundMem, same⟩ := List.mem_map.1 isSelect
    cases same
    exact Option.mem_toList.1 foundMem

/-! ## Induction -/

/-- The size of a part. -/
noncomputable def Part.weight : Part → Nat
  | expr e => sizeOf e
  | statement s => sizeOf s.clauses
  | tableRef table => sizeOf table
  | cte definition => sizeOf definition

theorem Entry.sizeOf_value_lt {α : Type} [SizeOf α] (entry : Entry α) :
    sizeOf entry.value < sizeOf entry := by
  cases entry with
  | mk presence value =>
      show sizeOf value < _
      rw [Entry.mk.sizeOf_spec]
      omega

theorem Entry.sizeOf_value_lt_of_mem {α : Type} [SizeOf α] {entry : Entry α}
    {entries : List (Entry α)} (mem : entry ∈ entries) : sizeOf entry.value < sizeOf entries :=
  Nat.lt_trans entry.sizeOf_value_lt (List.sizeOf_lt_of_mem mem)

/-- The sub-expressions of an expression are smaller than it. -/
theorem Expr.sizeOf_lt_of_mem_children {expr child : Expr} (mem : child ∈ expr.children) :
    sizeOf child < sizeOf expr := by
  cases expr with
  | column | value | parameter | existsIn | subquery => simp [Expr.children] at mem
  | unary operator operand =>
      rw [Expr.children, List.mem_singleton] at mem
      subst mem
      rw [Expr.unary.sizeOf_spec]
      omega
  | groupKey inner =>
      rw [Expr.children, List.mem_singleton] at mem
      subst mem
      simp
  | binary operator left right type =>
      simp only [Expr.children, List.mem_cons, List.not_mem_nil, or_false] at mem
      rw [Expr.binary.sizeOf_spec]
      rcases mem with rfl | rfl <;> omega
  | concat left right =>
      simp only [Expr.children, List.mem_cons, List.not_mem_nil, or_false] at mem
      rw [Expr.concat.sizeOf_spec]
      rcases mem with rfl | rfl <;> omega
  | between tested low high =>
      simp only [Expr.children, List.mem_cons, List.not_mem_nil, or_false] at mem
      rw [Expr.between.sizeOf_spec]
      rcases mem with rfl | rfl | rfl <;> omega
  | chain connective operands =>
      simp only [Expr.children, List.mem_map] at mem
      obtain ⟨operand, operandMem, rfl⟩ := mem
      have := Entry.sizeOf_value_lt_of_mem operandMem
      simp
      omega
  | within negated tested items =>
      simp only [Expr.children, List.mem_cons] at mem
      rcases mem with rfl | itemMem
      · simp
        omega
      · have := List.sizeOf_lt_of_mem itemMem
        simp
        omega
  | cases branches otherwise type =>
      simp only [Expr.children, List.mem_append, List.mem_flatMap, List.mem_cons,
        List.not_mem_nil, or_false] at mem
      rcases mem with ⟨⟨condition, result⟩, branchMem, same⟩ | rfl
      · have := List.sizeOf_lt_of_mem branchMem
        rcases same with rfl | rfl <;> simp at this ⊢ <;> omega
      · simp
        omega
  | aggregate call argument? =>
      cases argument? with
      | none => simp [Expr.children] at mem
      | some argument =>
          rw [Expr.children, Option.toList_some, List.mem_singleton] at mem
          subst mem
          simp
          omega

theorem Expr.weight_lt_of_mem_parts {expr : Expr} {child : Part} (mem : child ∈ expr.parts) :
    child.weight < (Part.expr expr).weight := by
  simp only [Expr.parts, List.mem_append, List.mem_map] at mem
  rcases mem with ⟨inner, innerMem, rfl⟩ | ⟨select, selectMem, rfl⟩
  · exact Expr.sizeOf_lt_of_mem_children innerMem
  · cases expr <;> simp [Expr.select?] at selectMem
    all_goals
      subst selectMem
      cases select
      simp [Part.weight, Statement.clauses]
      omega

theorem Assignment.weight_lt_of_mem_entriesParts {assignments : List (Entry Assignment)}
    {child : Part} (mem : child ∈ Assignment.entriesParts assignments) :
    child.weight < sizeOf assignments := by
  simp only [Assignment.entriesParts, List.mem_flatMap, List.mem_map, Option.mem_toList] at mem
  obtain ⟨⟨presence, column, value?⟩, assignmentMem, value, rfl, rfl⟩ := mem
  have := List.sizeOf_lt_of_mem assignmentMem
  simp [Part.weight] at this ⊢
  omega

theorem InsertValues.weight_lt_of_mem_parts {content : InsertValues} {child : Part}
    (mem : child ∈ content.parts) : child.weight < sizeOf content := by
  cases content with
  | defaultValues => simp [InsertValues.parts] at mem
  | set assignments =>
      have := Assignment.weight_lt_of_mem_entriesParts mem
      simp
      omega
  | rows columns given =>
      simp only [InsertValues.parts, List.mem_flatMap, List.mem_map] at mem
      obtain ⟨row, rowMem, expr, exprMem, rfl⟩ := mem
      have := List.sizeOf_lt_of_mem rowMem
      have := List.sizeOf_lt_of_mem exprMem
      simp [Part.weight]
      omega

theorem ConflictAction.weight_lt_of_mem_parts {action : ConflictAction} {child : Part}
    (mem : child ∈ action.parts) : child.weight < sizeOf action := by
  cases action with
  | doNothing => simp [ConflictAction.parts] at mem
  | doUpdate assignments condition? =>
      simp only [ConflictAction.parts, List.mem_append, List.mem_map, Option.mem_toList] at mem
      rcases mem with assigned | ⟨condition, rfl, rfl⟩
      · have := Assignment.weight_lt_of_mem_entriesParts assigned
        simp
        omega
      · have := condition.sizeOf_value_lt
        simp [Part.weight]
        omega

theorem SelectColumn.weight_lt_of_mem {columns : List (Entry SelectColumn)}
    {column : Entry SelectColumn} (mem : column ∈ columns) :
    (Part.expr column.value.expr).weight < sizeOf columns := by
  have := Entry.sizeOf_value_lt_of_mem mem
  obtain ⟨presence, expr, name, aliased⟩ := column
  simp [Part.weight] at this ⊢
  omega

theorem SortOrder.weight_lt_of_mem {orders : List (Entry SortOrder)} {order : Entry SortOrder}
    (mem : order ∈ orders) : (Part.expr order.value.expr).weight < sizeOf orders := by
  have := Entry.sizeOf_value_lt_of_mem mem
  obtain ⟨presence, expr, direction, nulls?⟩ := order
  simp [Part.weight] at this ⊢
  omega

theorem Part.weight_select_lt (select : Select) : (Part.select select).weight < sizeOf select := by
  cases select
  simp [Part.weight, Statement.clauses]

theorem Clause.weight_lt_of_mem_parts {clause : Clause} {child : Part}
    (mem : child ∈ clause.parts) : child.weight < sizeOf clause := by
  cases clause with
  | «with» ctes =>
      obtain ⟨cte, cteMem, rfl⟩ := List.mem_map.1 mem
      have := Entry.sizeOf_value_lt_of_mem cteMem
      simp [Part.weight]
      omega
  | columns distinct entries =>
      obtain ⟨column, columnMem, rfl⟩ := List.mem_map.1 mem
      have := SelectColumn.weight_lt_of_mem columnMem
      simp
      omega
  | target kind table => simp [Clause.parts] at mem
  | set assignments =>
      have := Assignment.weight_lt_of_mem_entriesParts mem
      simp
      omega
  | values content =>
      have := InsertValues.weight_lt_of_mem_parts mem
      simp
      omega
  | source kind table =>
      rw [Clause.parts, List.mem_singleton] at mem
      subst mem
      rw [Part.weight, Clause.source.sizeOf_spec]
      omega
  | «where» condition? =>
      simp only [Clause.parts, List.mem_map, Option.mem_toList] at mem
      obtain ⟨condition, rfl, rfl⟩ := mem
      have := condition.sizeOf_value_lt
      simp [Part.weight]
      omega
  | groupBy entries =>
      obtain ⟨entry, entryMem, rfl⟩ := List.mem_map.1 mem
      have := Entry.sizeOf_value_lt_of_mem entryMem
      simp [Part.weight]
      omega
  | having condition =>
      rw [Clause.parts, List.mem_singleton] at mem
      subst mem
      have := condition.sizeOf_value_lt
      simp [Part.weight]
      omega
  | union distinct arm =>
      rw [Clause.parts, List.mem_singleton] at mem
      subst mem
      have := Part.weight_select_lt arm.value
      have := arm.sizeOf_value_lt
      simp
      omega
  | orderBy orders =>
      obtain ⟨order, orderMem, rfl⟩ := List.mem_map.1 mem
      have := SortOrder.weight_lt_of_mem orderMem
      simp
      omega
  | limit kind count =>
      rw [Clause.parts, List.mem_singleton] at mem
      subst mem
      rw [Part.weight, Clause.limit.sizeOf_spec]
      omega
  | onConflict columns action =>
      have := ConflictAction.weight_lt_of_mem_parts mem
      simp
      omega
  | returning entries =>
      obtain ⟨column, columnMem, rfl⟩ := List.mem_map.1 mem
      have := SelectColumn.weight_lt_of_mem columnMem
      simp
      omega

theorem TableRef.weight_lt_of_mem_parts {table : TableRef} {child : Part}
    (mem : child ∈ table.parts) : child.weight < sizeOf table := by
  cases table with
  | table => simp [TableRef.parts] at mem
  | cte => simp [TableRef.parts] at mem
  | subSelect derived =>
      rw [TableRef.parts, List.mem_singleton] at mem
      subst mem
      have := Part.weight_select_lt derived.select
      cases derived
      simp at this ⊢
      omega
  | join left kind right condition? =>
      simp only [TableRef.parts, List.mem_cons, List.mem_map, Option.mem_toList] at mem
      have := right.sizeOf_value_lt
      rcases mem with rfl | rfl | ⟨condition, rfl, rfl⟩ <;> simp [Part.weight] <;> omega

theorem Cte.weight_lt_of_mem_selects {cte : Cte} {select : Select} (mem : select ∈ cte.selects) :
    (Part.select select).weight < sizeOf cte := by
  have := Part.weight_select_lt select
  obtain ⟨name, base, arms, fields⟩ := cte
  simp only [Cte.selects, List.mem_cons, List.mem_map] at mem
  rcases mem with rfl | ⟨⟨distinct, arm, readsSelf⟩, armMem, rfl⟩
  · simp
    omega
  · have := List.sizeOf_lt_of_mem armMem
    have := arm.sizeOf_value_lt
    simp at *
    omega

/-- A part is bigger than each of its children. -/
theorem Part.weight_lt {part child : Part} (mem : child ∈ part.children) :
    child.weight < part.weight := by
  cases part with
  | expr e => exact Expr.weight_lt_of_mem_parts mem
  | statement s =>
      obtain ⟨clause, clauseMem, childMem⟩ := List.mem_flatMap.1 mem
      exact Nat.lt_trans (Clause.weight_lt_of_mem_parts childMem)
        (List.sizeOf_lt_of_mem clauseMem)
  | tableRef table => exact TableRef.weight_lt_of_mem_parts mem
  | cte definition =>
      obtain ⟨select, selectMem, rfl⟩ := List.mem_map.1 mem
      exact Cte.weight_lt_of_mem_selects selectMem

/-- A property holds of every part if it holds of a part whose children have it. -/
theorem Part.induction {P : Part → Prop}
    (step : ∀ part : Part, (∀ child ∈ part.children, P child) → P part) (part : Part) : P part :=
  step part fun child _ => Part.induction step child
termination_by part.weight
decreasing_by exact Part.weight_lt ‹_›

end CheckedSql
