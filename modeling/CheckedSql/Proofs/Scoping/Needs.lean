import CheckedSql.Proofs.Built.Order
import CheckedSql.Proofs.Scoping.Reference

/-!
# Needed and provided tables

The checks keep two sets of tables for each part: what the part needs, and what a
clause or a table reference provides.  They are computed by one function for each type
of the syntax, with a further one for each kind of list.

This file reads all of them as statements about children.  An expression needs what
some child of it needs (`Expr.contains_needs`), a statement needs what one of its
clauses needs and none provides (`Statement.contains_needs`), and a clause provides
the identities of its tables (`Clause.contains_names_tables`).
-/

namespace CheckedSql

/-! ## Needed tables as lists of parts -/

namespace Needs

@[simp] theorem tables_empty : (∅ : Needs).tables = ∅ := rfl

@[simp] theorem tables_within (presence : Presence) (needs : Needs) :
    (within presence needs).tables = needs.tables := by
  unfold within
  split <;> rfl

@[simp] theorem contains_tables_union (left right : Needs) (table : String) :
    (left ∪ right).tables.contains table
      = (left.tables.contains table || right.tables.contains table) :=
  OrderedSet.contains_union left.tables right.tables table

@[simp] theorem contains_tables_ofTable (identity table : String) :
    (ofTable identity).tables.contains table = (identity == table) := by
  simp [ofTable]

end Needs

namespace Names

@[simp] theorem tables_empty : (∅ : Names).tables = ∅ := rfl

@[simp] theorem needs_empty : (∅ : Names).needs = ∅ := rfl

@[simp] theorem tables_reading (needs : Needs) : (reading needs).tables = ∅ := rfl

@[simp] theorem needs_reading (needs : Needs) : (reading needs).needs = needs := rfl

@[simp] theorem needs_ofTable (identity : String) : (ofTable identity).needs = ∅ := rfl

@[simp] theorem needs_union (left right : Names) :
    (left ∪ right).needs = left.needs ∪ right.needs := rfl

@[simp] theorem contains_tables_union (left right : Names) (table : String) :
    (left ∪ right).tables.contains table
      = (left.tables.contains table || right.tables.contains table) :=
  OrderedSet.contains_union left.tables right.tables table

@[simp] theorem contains_tables_ofTable (identity table : String) :
    (ofTable identity).tables.contains table = (identity == table) := by
  simp [ofTable]

theorem contains_unresolvedTables (names : Names) (table : String) :
    names.unresolvedTables.contains table = true
      ↔ names.needs.tables.contains table = true ∧ names.tables.contains table = false := by
  simp [unresolvedTables]

end Names

theorem Select.names_eq (select : Select) : select.names = Clause.listNames select.clauses := by
  cases select
  rfl

/-- What a part needs. -/
def Part.needs : Part → NameSet
  | expr e => e.needs.tables
  | statement s => (Clause.listNames s.clauses).unresolvedTables
  | tableRef table => table.names.needs.tables
  | cte definition => definition.needs.tables

theorem Part.needs_select (select : Select) :
    (Part.select select).needs = select.unresolvedTables := by
  rw [Select.unresolvedTables, Select.names_eq]
  rfl

theorem Part.needs_subSelect (derived : SubSelect) :
    (Part.tableRef (.subSelect derived)).needs = (Part.select derived.select).needs := by
  cases derived
  rw [Part.needs_select]
  rfl

/-- A table that some part of a list needs. -/
def Part.AnyNeeds (parts : List Part) (table : String) : Prop :=
  ∃ part ∈ parts, part.needs.contains table = true

namespace Part

variable {table : String}

@[simp] theorem anyNeeds_nil : AnyNeeds [] table ↔ False := by
  simp [AnyNeeds]

@[simp] theorem anyNeeds_cons (part : Part) (parts : List Part) :
    AnyNeeds (part :: parts) table ↔ part.needs.contains table = true ∨ AnyNeeds parts table := by
  simp [AnyNeeds]

@[simp] theorem anyNeeds_append (first second : List Part) :
    AnyNeeds (first ++ second) table ↔ AnyNeeds first table ∨ AnyNeeds second table := by
  simp only [AnyNeeds, List.mem_append, or_and_right, exists_or]

end Part

section Lists

variable {table : String}

theorem Expr.contains_optionNeeds (expr? : Option Expr) :
    (optionNeeds expr?).tables.contains table = true
      ↔ Part.AnyNeeds (expr?.toList.map .expr) table := by
  cases expr? with
  | none => simp [optionNeeds]
  | some expr => simp [optionNeeds, Part.needs]

theorem Expr.contains_listNeeds (exprs : List Expr) :
    (listNeeds exprs).tables.contains table = true
      ↔ Part.AnyNeeds (exprs.map .expr) table := by
  induction exprs with
  | nil => simp [listNeeds]
  | cons expr exprs ih => simp [listNeeds, ih, Part.needs]

theorem Expr.contains_rowsNeeds (rows : List (List Expr)) :
    (rowsNeeds rows).tables.contains table = true
      ↔ Part.AnyNeeds (rows.flatMap fun row => row.map .expr) table := by
  induction rows with
  | nil => simp [rowsNeeds]
  | cons row rows ih => simp [rowsNeeds, ih, contains_listNeeds]

theorem Expr.contains_branchesNeeds (branches : List (Expr × Expr)) :
    (branchesNeeds branches).tables.contains table = true
      ↔ Part.AnyNeeds ((branches.flatMap fun branch => [branch.1, branch.2]).map .expr) table := by
  induction branches with
  | nil => simp [branchesNeeds]
  | cons branch branches ih => simp [branchesNeeds, ih, Part.needs, or_assoc]

theorem Expr.contains_entriesNeeds (entries : List (Entry Expr)) :
    (entriesNeeds entries).tables.contains table = true
      ↔ Part.AnyNeeds (entries.map fun entry => .expr entry.value) table := by
  induction entries with
  | nil => simp [entriesNeeds]
  | cons entry entries ih =>
      obtain ⟨presence, expr⟩ := entry
      simp [entriesNeeds, entryNeeds, ih, Part.needs]

theorem Expr.contains_entryOptionNeeds (condition? : Option (Entry Expr)) :
    (entryOptionNeeds condition?).tables.contains table = true
      ↔ Part.AnyNeeds (condition?.toList.map fun entry => .expr entry.value) table := by
  cases condition? with
  | none => simp [entryOptionNeeds]
  | some entry =>
      obtain ⟨presence, expr⟩ := entry
      simp [entryOptionNeeds, entryNeeds, Part.needs]

theorem SelectColumn.contains_entriesNeeds (columns : List (Entry SelectColumn)) :
    (entriesNeeds columns).tables.contains table = true
      ↔ Part.AnyNeeds (columns.map fun column => .expr column.value.expr) table := by
  induction columns with
  | nil => simp [entriesNeeds]
  | cons column columns ih =>
      obtain ⟨presence, expr, name, aliased⟩ := column
      simp [entriesNeeds, ih, Part.needs]

theorem SortOrder.contains_entriesNeeds (orders : List (Entry SortOrder)) :
    (entriesNeeds orders).tables.contains table = true
      ↔ Part.AnyNeeds (orders.map fun order => .expr order.value.expr) table := by
  induction orders with
  | nil => simp [entriesNeeds]
  | cons order orders ih =>
      obtain ⟨presence, expr, direction, nulls?⟩ := order
      simp [entriesNeeds, ih, Part.needs]

theorem Assignment.contains_entriesNeeds (assignments : List (Entry Assignment)) :
    (entriesNeeds assignments).tables.contains table = true
      ↔ Part.AnyNeeds (entriesParts assignments) table := by
  induction assignments with
  | nil => simp [entriesNeeds, entriesParts]
  | cons assignment assignments ih =>
      obtain ⟨presence, column, value?⟩ := assignment
      simp only [entriesParts] at ih
      simp [entriesNeeds, entriesParts, ih, Expr.contains_optionNeeds]

theorem Cte.contains_entriesNeeds (ctes : List (Entry Cte)) :
    (entriesNeeds ctes).tables.contains table = true
      ↔ Part.AnyNeeds (ctes.map fun cte => .cte cte.value) table := by
  induction ctes with
  | nil => simp [entriesNeeds]
  | cons cte ctes ih =>
      obtain ⟨presence, cte⟩ := cte
      simp [entriesNeeds, ih, Part.needs]

theorem CteArm.contains_listNeeds (arms : List CteArm) :
    (listNeeds arms).tables.contains table = true
      ↔ Part.AnyNeeds (arms.map fun arm => .select arm.select.value) table := by
  induction arms with
  | nil => simp [listNeeds]
  | cons arm arms ih =>
      obtain ⟨distinct, ⟨presence, select⟩, readsSelf⟩ := arm
      simp [listNeeds, ih, Part.needs, Names.unresolved, Select.names_eq, Statement.clauses]

/-- An expression needs the table of the column that it is, or what its parts need. -/
theorem Expr.contains_needs (expr : Expr) :
    expr.needs.tables.contains table = true
      ↔ (∃ column, expr = .column column ∧ column.qualifier = table)
        ∨ Part.AnyNeeds expr.parts table := by
  have chosen : ∀ select : Select,
      (select.names.unresolved.tables.contains table = true)
        ↔ (Part.select select).needs.contains table = true := by
    intro select
    rw [Names.unresolved, Select.names_eq]
    rfl
  cases expr with
  | column column => simp [needs, parts, children, select?]
  | value value => simp [needs, parts, children, select?]
  | parameter parameter => simp [needs, parts, children, select?]
  | unary operator operand => simp [needs, parts, children, select?, Part.needs]
  | binary operator left right type => simp [needs, parts, children, select?, Part.needs]
  | concat left right => simp [needs, parts, children, select?, Part.needs]
  | chain connective operands =>
      simp [needs, parts, children, select?, contains_entriesNeeds, Function.comp_def]
  | within negated tested items =>
      simp [needs, parts, children, select?, contains_listNeeds, Part.needs]
  | between tested low high => simp [needs, parts, children, select?, Part.needs, or_assoc]
  | cases branches otherwise type =>
      simp [needs, parts, children, select?, contains_branchesNeeds, Part.needs]
  | aggregate call argument? => simp [needs, parts, children, select?, contains_optionNeeds]
  | groupKey inner => simp [needs, parts, children, select?, Part.needs]
  | existsIn select => simp [needs, parts, children, select?, chosen]
  | subquery select => simp [needs, parts, children, select?, chosen]

/-- A definition needs what its selects need. -/
theorem Cte.contains_needs (definition : Cte) :
    definition.needs.tables.contains table = true
      ↔ Part.AnyNeeds (definition.selects.map .select) table := by
  obtain ⟨name, base, arms, fields⟩ := definition
  simp [needs, selects, CteArm.contains_listNeeds, Part.needs_select, Names.unresolved,
    Select.unresolvedTables, Function.comp_def]

theorem InsertValues.contains_needs (content : InsertValues) :
    content.needs.tables.contains table = true ↔ Part.AnyNeeds content.parts table := by
  cases content with
  | defaultValues => simp [needs, parts]
  | set assignments => exact Assignment.contains_entriesNeeds assignments
  | rows columns given => exact Expr.contains_rowsNeeds given

theorem ConflictAction.contains_needs (action : ConflictAction) :
    action.needs.tables.contains table = true ↔ Part.AnyNeeds action.parts table := by
  cases action with
  | doNothing => simp [needs, parts]
  | doUpdate assignments condition? =>
      simp [needs, parts, Assignment.contains_entriesNeeds, Expr.contains_entryOptionNeeds]

/-- A literal or a placeholder needs no table. -/
theorem Expr.contains_needs_of_isLiteral {expr : Expr} (isLiteral : expr.isLiteral = true) :
    expr.needs.tables.contains table = false := by
  cases expr with
  | value | parameter => rfl
  | _ => cases isLiteral

/-- A clause needs what its parts need. -/
theorem Clause.contains_needs {statement : Statement} {clause : Clause}
    (allowed : statement.allows clause = true) :
    clause.names.needs.tables.contains table = true ↔ Part.AnyNeeds clause.parts table := by
  cases clause with
  | «with» ctes => exact Cte.contains_entriesNeeds ctes
  | columns distinct entries => exact SelectColumn.contains_entriesNeeds entries
  | target kind declared => simp [names, parts]
  | set assignments => exact Assignment.contains_entriesNeeds assignments
  | values content => exact InsertValues.contains_needs content
  | source kind source => simp [names, parts, Part.needs]
  | «where» condition? => exact Expr.contains_entryOptionNeeds condition?
  | groupBy entries => exact Expr.contains_entriesNeeds entries
  | having condition =>
      obtain ⟨presence, condition⟩ := condition
      simp [names, parts, Expr.entryNeeds, Part.needs]
  | union distinct arm =>
      obtain ⟨presence, arm⟩ := arm
      simp [names, parts, Part.needs, Names.unresolved, Select.names_eq, Statement.clauses]
  | orderBy orders => exact SortOrder.contains_entriesNeeds orders
  | limit kind count =>
      have isLiteral : count.isLiteral = true := by
        cases statement <;> first | exact allowed | cases allowed
      simp [names, parts, Part.needs, Expr.contains_needs_of_isLiteral isLiteral]
  | onConflict keys action => exact ConflictAction.contains_needs action
  | returning entries => exact SelectColumn.contains_entriesNeeds entries

/-! ## Provided tables -/

theorem TableRef.contains_names_tables (ref : TableRef) :
    ref.names.tables.contains table = true ↔ table ∈ ref.identities := by
  induction ref using identities.induct with
  | case1 declared => simp [names, identities, @eq_comm _ table]
  | case2 reference => simp [names, identities, Names.ofTable, @eq_comm _ table]
  | case3 derived =>
      obtain ⟨select, name, fields⟩ := derived
      simp [names, identities, Names.ofTable, @eq_comm _ table]
  | case4 left kind presence right condition? leftIh rightIh =>
      simp [names, identities, JoinKind.names, leftIh, rightIh]

theorem Clause.contains_names_tables (clause : Clause) :
    clause.names.tables.contains table = true ↔ table ∈ clause.identities := by
  cases clause with
  | source kind ref => exact TableRef.contains_names_tables ref
  | target kind declared => simp [names, identities, @eq_comm _ table]
  | union distinct arm =>
      obtain ⟨presence, arm⟩ := arm
      simp [names, identities]
  | _ => simp [names, identities, withNames]

theorem Clause.contains_listNames_tables (clauses : List Clause) :
    (listNames clauses).tables.contains table = true
      ↔ table ∈ clauses.flatMap Clause.identities := by
  induction clauses with
  | nil => simp [listNames]
  | cons clause clauses ih => simp [listNames, ih, contains_names_tables]

theorem Clause.contains_listNames_needs (clauses : List Clause) :
    (listNames clauses).needs.tables.contains table = true
      ↔ ∃ clause ∈ clauses, clause.names.needs.tables.contains table = true := by
  induction clauses with
  | nil => simp [listNames]
  | cons clause clauses ih => simp [listNames, ih]

/-- A statement needs what a clause needs and no clause provides. -/
theorem Statement.contains_needs {statement : Statement} (ordered : statement.Ordered) :
    (Part.statement statement).needs.contains table = true
      ↔ (∃ clause ∈ statement.clauses, Part.AnyNeeds clause.parts table)
        ∧ table ∉ statement.identities := by
  rw [Part.needs, Names.contains_unresolvedTables, Clause.contains_listNames_needs,
    ← Bool.not_eq_true, Clause.contains_listNames_tables]
  refine and_congr_left fun _ => exists_congr fun clause => and_congr_right fun mem => ?_
  exact Clause.contains_needs (ordered.allowed clause mem)

end Lists

end CheckedSql
