import CheckedSql.Proofs.Scoping.Needs

/-!
# Inclusion of needs

What a part reads is part of what the part around it reads, and what it always reads is
part of what the other one always reads as long as it is always there itself.  Inclusion
of needs (`needs ≤ other`) says both at once, for tables and for common table expressions.

A dynamic part counts with `Needs.within`, which drops what it always reads.  So the rule
for a list of entries is one inclusion (`Needs.le_of_mem`), and a part of an expression or
of a clause is included in it at least as a dynamic one (`Expr.asDynamic_le_needs`,
`Clause.asDynamic_le_needs`).

Whatever is always read is read (`Clause.needs_proper`).
-/

namespace CheckedSql

namespace Needs

/-- All that is read in one way is read by the other part in the same way. -/
structure Included (needs other : Needs) : Prop where
  tables : ∀ name, needs.tables.contains name = true → other.tables.contains name = true
  staticTables : ∀ name,
    needs.staticTables.contains name = true → other.staticTables.contains name = true
  ctes : ∀ name, needs.ctes.contains name = true → other.ctes.contains name = true
  staticCtes : ∀ name,
    needs.staticCtes.contains name = true → other.staticCtes.contains name = true

instance : LE Needs := ⟨Included⟩

/-- What is always read is read. -/
structure Proper (needs : Needs) : Prop where
  tables : ∀ name, needs.staticTables.contains name = true → needs.tables.contains name = true
  ctes : ∀ name, needs.staticCtes.contains name = true → needs.ctes.contains name = true

variable {needs other third left right : Needs}

@[simp] theorem contains_staticTables_union (left right : Needs) (table : String) :
    (left ∪ right).staticTables.contains table
      = (left.staticTables.contains table || right.staticTables.contains table) :=
  OrderedSet.contains_union left.staticTables right.staticTables table

@[simp] theorem ctes_empty : (∅ : Needs).ctes = ∅ := rfl

@[simp] theorem staticCtes_empty : (∅ : Needs).staticCtes = ∅ := rfl

@[simp] theorem ctes_within (presence : Presence) (needs : Needs) :
    (within presence needs).ctes = needs.ctes := by
  unfold within
  split <;> rfl

@[simp] theorem contains_ctes_union (left right : Needs) (name : String) :
    (left ∪ right).ctes.contains name = (left.ctes.contains name || right.ctes.contains name) :=
  OrderedSet.contains_union left.ctes right.ctes name

@[simp] theorem contains_staticCtes_union (left right : Needs) (name : String) :
    (left ∪ right).staticCtes.contains name
      = (left.staticCtes.contains name || right.staticCtes.contains name) :=
  OrderedSet.contains_union left.staticCtes right.staticCtes name

/-! ## Inclusion -/

protected theorem le_refl (needs : Needs) : needs ≤ needs :=
  ⟨fun _ => id, fun _ => id, fun _ => id, fun _ => id⟩

protected theorem le_trans (first : needs ≤ other) (second : other ≤ third) : needs ≤ third where
  tables name read := second.tables name (first.tables name read)
  staticTables name read := second.staticTables name (first.staticTables name read)
  ctes name read := second.ctes name (first.ctes name read)
  staticCtes name read := second.staticCtes name (first.staticCtes name read)

theorem empty_le (needs : Needs) : ∅ ≤ needs := ⟨nofun, nofun, nofun, nofun⟩

theorem le_union_left (left right : Needs) : left ≤ left ∪ right := by
  constructor <;> intro name read <;> simp [read]

theorem le_union_right (left right : Needs) : right ≤ left ∪ right := by
  constructor <;> intro name read <;> simp [read]

theorem asDynamic_le (needs : Needs) : needs.asDynamic ≤ needs :=
  ⟨fun _ => id, nofun, fun _ => id, nofun⟩

/-- The needs of an entry include those of its value as a dynamic part. -/
theorem asDynamic_le_within (presence : Presence) (needs : Needs) :
    needs.asDynamic ≤ within presence needs := by
  cases presence with
  | static => exact needs.asDynamic_le
  | dynamic => exact Needs.le_refl _

/-- The needs of a static entry are those of its value. -/
theorem le_within {presence : Presence} (isStatic : presence.isStatic = true) (needs : Needs) :
    needs ≤ within presence needs := by
  rw [within, if_pos isStatic]
  exact Needs.le_refl needs

/-- The needs of a list include those of each item. -/
theorem le_of_mem {α : Type} {f : α → Needs} {g : List α → Needs}
    (cons : ∀ item items, g (item :: items) = f item ∪ g items) {item : α} {items : List α}
    (mem : item ∈ items) : f item ≤ g items := by
  induction mem with
  | head rest =>
      rw [cons]
      exact le_union_left _ _
  | tail first _ ih =>
      rw [cons]
      exact Needs.le_trans ih (le_union_right _ _)

/-! ## What is always read -/

namespace Proper

theorem empty : Proper ∅ := ⟨nofun, nofun⟩

theorem ofTable (identity : String) : Proper (.ofTable identity) := ⟨fun _ => id, nofun⟩

theorem ofCte (name : String) : Proper (.ofCte name) := ⟨nofun, fun _ => id⟩

theorem unresolved (names : Names) : names.unresolved.Proper := ⟨fun _ => id, fun _ => id⟩

theorem union (leftProper : left.Proper) (rightProper : right.Proper) :
    (left ∪ right).Proper where
  tables name read := by
    rw [contains_staticTables_union, Bool.or_eq_true] at read
    rw [contains_tables_union, Bool.or_eq_true]
    exact read.imp (leftProper.tables name) (rightProper.tables name)
  ctes name read := by
    rw [contains_staticCtes_union, Bool.or_eq_true] at read
    rw [contains_ctes_union, Bool.or_eq_true]
    exact read.imp (leftProper.ctes name) (rightProper.ctes name)

theorem within (proper : needs.Proper) (presence : Presence) :
    (Needs.within presence needs).Proper := by
  cases presence with
  | static => exact proper
  | dynamic => exact ⟨nofun, nofun⟩

end Proper

end Needs

/-! ## Entries of lists -/

section Lists

theorem Expr.needs_le_listNeeds {expr : Expr} {exprs : List Expr} (mem : expr ∈ exprs) :
    expr.needs ≤ listNeeds exprs :=
  Needs.le_of_mem (fun _ _ => rfl) mem

theorem Expr.listNeeds_le_rowsNeeds {row : List Expr} {rows : List (List Expr)}
    (mem : row ∈ rows) : listNeeds row ≤ rowsNeeds rows :=
  Needs.le_of_mem (fun _ _ => rfl) mem

theorem Expr.branch_le_branchesNeeds {branch : Expr × Expr} {branches : List (Expr × Expr)}
    (mem : branch ∈ branches) : branch.1.needs ∪ branch.2.needs ≤ branchesNeeds branches :=
  Needs.le_of_mem (f := fun branch => branch.1.needs ∪ branch.2.needs) (fun ⟨_, _⟩ _ => rfl) mem

theorem Expr.within_le_entriesNeeds {entry : Entry Expr} {entries : List (Entry Expr)}
    (mem : entry ∈ entries) :
    Needs.within entry.presence entry.value.needs ≤ entriesNeeds entries :=
  Needs.le_of_mem (f := fun entry => .within entry.presence entry.value.needs)
    (by rintro ⟨_, _⟩ _; rfl) mem

theorem SelectColumn.within_le_entriesNeeds {column : Entry SelectColumn}
    {columns : List (Entry SelectColumn)} (mem : column ∈ columns) :
    Needs.within column.presence column.value.expr.needs ≤ entriesNeeds columns :=
  Needs.le_of_mem (f := fun column => .within column.presence column.value.expr.needs)
    (fun ⟨_, _, _, _⟩ _ => rfl) mem

theorem SortOrder.within_le_entriesNeeds {order : Entry SortOrder}
    {orders : List (Entry SortOrder)} (mem : order ∈ orders) :
    Needs.within order.presence order.value.expr.needs ≤ entriesNeeds orders :=
  Needs.le_of_mem (f := fun order => .within order.presence order.value.expr.needs)
    (fun ⟨_, _, _, _⟩ _ => rfl) mem

theorem Assignment.within_le_entriesNeeds {assignment : Entry Assignment}
    {assignments : List (Entry Assignment)} (mem : assignment ∈ assignments) {value : Expr}
    (given : assignment.value.value? = some value) :
    Needs.within assignment.presence value.needs ≤ entriesNeeds assignments := by
  have included : Needs.within assignment.presence (Expr.optionNeeds assignment.value.value?)
      ≤ entriesNeeds assignments :=
    Needs.le_of_mem
      (f := fun assignment => .within assignment.presence (Expr.optionNeeds assignment.value.value?))
      (fun ⟨_, _, _⟩ _ => rfl) mem
  rwa [given] at included

theorem CteArm.unresolved_le_listNeeds {arm : CteArm} {arms : List CteArm} (mem : arm ∈ arms) :
    arm.select.value.names.unresolved ≤ listNeeds arms :=
  Needs.le_of_mem (f := fun arm => arm.select.value.names.unresolved)
    (fun ⟨_, ⟨_, _⟩, _⟩ _ => rfl) mem

/-- Clauses read together what one of them reads. -/
theorem Clause.needs_le_listNames {clause : Clause} {clauses : List Clause}
    (mem : clause ∈ clauses) : clause.names.needs ≤ (listNames clauses).needs :=
  Needs.le_of_mem (f := fun clause => clause.names.needs)
    (g := fun clauses => (listNames clauses).needs) (fun _ _ => rfl) mem

end Lists

/-! ## Parts of expressions, tables and clauses -/

/-- What a part reads. -/
def Part.reads : Part → Needs
  | expr e => e.needs
  | statement s => (Clause.listNames s.clauses).unresolved
  | tableRef table => table.names.needs
  | cte definition => definition.needs

theorem Part.reads_select (select : Select) :
    (Part.select select).reads = select.names.unresolved := by
  rw [Select.names_eq]
  rfl

/-- An expression reads what its children read, unless these are operands of a chain. -/
theorem Expr.needs_le_of_mem_children {expr child : Expr}
    (notChain : ∀ connective operands, expr ≠ .chain connective operands)
    (mem : child ∈ expr.children) : child.needs ≤ expr.needs := by
  cases expr with
  | column | value | parameter | existsIn | subquery => cases mem
  | unary | groupKey =>
      obtain rfl := List.mem_singleton.1 mem
      exact Needs.le_refl _
  | binary operator left right type | concat left right =>
      simp only [children, List.mem_cons, List.not_mem_nil, or_false] at mem
      rcases mem with rfl | rfl
      · exact Needs.le_union_left _ _
      · exact Needs.le_union_right _ _
  | chain connective operands => exact absurd rfl (notChain connective operands)
  | within negated tested items =>
      rcases List.mem_cons.1 mem with rfl | isItem
      · exact Needs.le_union_left _ _
      · exact Needs.le_trans (needs_le_listNeeds isItem) (Needs.le_union_right _ _)
  | between tested low high =>
      simp only [children, List.mem_cons, List.not_mem_nil, or_false] at mem
      rcases mem with rfl | rfl | rfl
      · exact Needs.le_trans (Needs.le_union_left _ _) (Needs.le_union_left _ _)
      · exact Needs.le_trans (Needs.le_union_right _ _) (Needs.le_union_left _ _)
      · exact Needs.le_union_right _ _
  | cases branches otherwise type =>
      simp only [children, List.mem_append, List.mem_flatMap, List.mem_cons, List.not_mem_nil,
        or_false] at mem
      rcases mem with ⟨branch, branchMem, inBranch⟩ | rfl
      · refine Needs.le_trans ?_ (Needs.le_union_left _ _)
        refine Needs.le_trans ?_ (branch_le_branchesNeeds branchMem)
        rcases inBranch with rfl | rfl
        · exact Needs.le_union_left _ _
        · exact Needs.le_union_right _ _
      · exact Needs.le_union_right _ _
  | aggregate call argument? =>
      obtain rfl := Option.mem_toList.1 mem
      exact Needs.le_refl _

/-- The same of all parts of an expression. -/
theorem Expr.reads_le_needs {expr : Expr} {part : Part}
    (notChain : ∀ connective operands, expr ≠ .chain connective operands)
    (mem : part ∈ expr.parts) : part.reads ≤ expr.needs := by
  rcases List.mem_append.1 mem with isExpr | isSelect
  · obtain ⟨child, childMem, rfl⟩ := List.mem_map.1 isExpr
    exact needs_le_of_mem_children notChain childMem
  · obtain ⟨select, found, rfl⟩ := List.mem_map.1 isSelect
    rw [Part.reads_select]
    cases expr with
    | existsIn | subquery =>
        obtain rfl := Option.some.inj (Option.mem_toList.1 found)
        exact Needs.le_refl _
    | _ => cases found

/-- The static operands of a chain are read like the chain. -/
theorem Expr.needs_le_chain {connective : Connective} {operands : List (Entry Expr)}
    {operand : Entry Expr} (mem : operand ∈ operands) :
    Needs.within operand.presence operand.value.needs ≤ (chain connective operands).needs :=
  within_le_entriesNeeds mem

/-- An expression reads what its parts read, if they count as dynamic ones. -/
theorem Expr.asDynamic_le_needs {expr : Expr} {part : Part} (mem : part ∈ expr.parts) :
    part.reads.asDynamic ≤ expr.needs := by
  cases expr with
  | chain connective operands =>
      simp only [parts, children, select?, Option.toList_none, List.map_nil, List.append_nil,
        List.map_map, List.mem_map] at mem
      obtain ⟨operand, operandMem, rfl⟩ := mem
      exact Needs.le_trans (Needs.asDynamic_le_within _ _) (needs_le_chain operandMem)
  | _ => exact Needs.le_trans (Needs.asDynamic_le _) (reads_le_needs (by rintro _ _ ⟨⟩) mem)

/-- A table reference reads the common table expressions that its parts read. -/
theorem TableRef.contains_ctes_of_mem_parts {table : TableRef} {part : Part}
    (mem : part ∈ table.parts) {name : String} (read : part.reads.ctes.contains name = true) :
    table.names.needs.ctes.contains name = true := by
  cases table with
  | table | cte => cases mem
  | subSelect derived =>
      obtain ⟨select, given, fields⟩ := derived
      obtain rfl := List.mem_singleton.1 mem
      rwa [Part.reads_select] at read
  | join left kind right condition? =>
      obtain ⟨presence, right⟩ := right
      simp only [parts, List.mem_cons, List.mem_map, Option.mem_toList] at mem
      simp only [names, JoinKind.names, OrderedSet.contains_union, Bool.or_eq_true]
      rcases mem with rfl | rfl | ⟨condition, rfl, rfl⟩
      · exact .inl (.inl read)
      · exact .inl (.inr read)
      · exact .inr read

theorem Assignment.asDynamic_le_entriesNeeds {assignments : List (Entry Assignment)} {part : Part}
    (mem : part ∈ entriesParts assignments) : part.reads.asDynamic ≤ entriesNeeds assignments := by
  simp only [entriesParts, List.mem_flatMap, List.mem_map, Option.mem_toList] at mem
  obtain ⟨assignment, assignmentMem, value, given, rfl⟩ := mem
  exact Needs.le_trans (Needs.asDynamic_le_within _ _)
    (within_le_entriesNeeds assignmentMem given)

theorem Expr.asDynamic_le_entryOptionNeeds {entry : Entry Expr} :
    entry.value.needs.asDynamic ≤ entryOptionNeeds (some entry) := by
  obtain ⟨presence, expr⟩ := entry
  exact Needs.asDynamic_le_within presence _

/-- A literal or a placeholder reads nothing. -/
theorem Expr.needs_of_isLiteral {expr : Expr} (isLiteral : expr.isLiteral = true) :
    expr.needs = ∅ := by
  cases expr with
  | value | parameter => rfl
  | _ => cases isLiteral

/-- A clause reads what its parts read, if they count as dynamic ones.  The definitions of `WITH`
may also read each other. -/
theorem Clause.asDynamic_le_needs {statement : Statement} {clause : Clause}
    (allowed : statement.allows clause = true) (notWith : ∀ ctes, clause ≠ .with ctes)
    {part : Part} (mem : part ∈ clause.parts) : part.reads.asDynamic ≤ clause.names.needs := by
  cases clause with
  | «with» ctes => exact absurd rfl (notWith ctes)
  | columns distinct columns | returning columns =>
      obtain ⟨column, columnMem, rfl⟩ := List.mem_map.1 mem
      exact Needs.le_trans (Needs.asDynamic_le_within _ _)
        (SelectColumn.within_le_entriesNeeds columnMem)
  | target => cases mem
  | set assignments => exact Assignment.asDynamic_le_entriesNeeds mem
  | values content =>
      cases content with
      | defaultValues => cases mem
      | set assignments => exact Assignment.asDynamic_le_entriesNeeds mem
      | rows columns rows =>
          simp only [parts, InsertValues.parts, List.mem_flatMap, List.mem_map] at mem
          obtain ⟨row, rowMem, expr, exprMem, rfl⟩ := mem
          refine Needs.le_trans (Needs.asDynamic_le _) ?_
          exact Needs.le_trans (Expr.needs_le_listNeeds exprMem)
            (Expr.listNeeds_le_rowsNeeds rowMem)
  | source kind table =>
      obtain rfl := List.mem_singleton.1 mem
      exact Needs.asDynamic_le _
  | «where» condition? =>
      obtain ⟨condition, found, rfl⟩ := List.mem_map.1 mem
      obtain rfl := Option.mem_toList.1 found
      exact Expr.asDynamic_le_entryOptionNeeds
  | groupBy entries =>
      obtain ⟨entry, entryMem, rfl⟩ := List.mem_map.1 mem
      exact Needs.le_trans (Needs.asDynamic_le_within _ _) (Expr.within_le_entriesNeeds entryMem)
  | having condition =>
      obtain rfl := List.mem_singleton.1 mem
      exact Expr.asDynamic_le_entryOptionNeeds
  | union distinct arm =>
      obtain ⟨presence, arm⟩ := arm
      obtain rfl := List.mem_singleton.1 mem
      rw [Part.reads_select]
      exact Needs.asDynamic_le_within presence _
  | orderBy orders =>
      obtain ⟨order, orderMem, rfl⟩ := List.mem_map.1 mem
      exact Needs.le_trans (Needs.asDynamic_le_within _ _)
        (SortOrder.within_le_entriesNeeds orderMem)
  | limit kind count =>
      have isLiteral : count.isLiteral = true := by
        cases statement <;> first | exact allowed | cases allowed
      obtain rfl := List.mem_singleton.1 mem
      rw [Part.reads, Expr.needs_of_isLiteral isLiteral]
      exact Needs.empty_le _
  | onConflict keys action =>
      cases action with
      | doNothing => cases mem
      | doUpdate assignments condition? =>
          rcases List.mem_append.1 mem with isValue | isCondition
          · exact Needs.le_trans (Assignment.asDynamic_le_entriesNeeds isValue)
              (Needs.le_union_left _ _)
          · obtain ⟨condition, found, rfl⟩ := List.mem_map.1 isCondition
            obtain rfl := Option.mem_toList.1 found
            exact Needs.le_trans Expr.asDynamic_le_entryOptionNeeds (Needs.le_union_right _ _)

/-! ## What is always read -/

mutual

theorem Expr.needs_proper : (expr : Expr) → expr.needs.Proper
  | .column read => .ofTable read.qualifier
  | .value _ | .parameter _ => .empty
  | .unary _ operand => Expr.needs_proper operand
  | .binary _ left right _ | .concat left right =>
      (Expr.needs_proper left).union (Expr.needs_proper right)
  | .chain _ operands => Expr.entriesNeeds_proper operands
  | .within _ tested items => (Expr.needs_proper tested).union (Expr.listNeeds_proper items)
  | .between tested low high =>
      ((Expr.needs_proper tested).union (Expr.needs_proper low)).union (Expr.needs_proper high)
  | .cases branches otherwise _ =>
      (Expr.branchesNeeds_proper branches).union (Expr.needs_proper otherwise)
  | .aggregate _ none => .empty
  | .aggregate _ (some argument) => Expr.needs_proper argument
  | .groupKey inner => Expr.needs_proper inner
  | .existsIn select | .subquery select => .unresolved select.names

theorem Expr.listNeeds_proper : (exprs : List Expr) → (Expr.listNeeds exprs).Proper
  | [] => .empty
  | expr :: exprs => (Expr.needs_proper expr).union (Expr.listNeeds_proper exprs)

theorem Expr.branchesNeeds_proper :
    (branches : List (Expr × Expr)) → (Expr.branchesNeeds branches).Proper
  | [] => .empty
  | (condition, result) :: branches =>
      ((Expr.needs_proper condition).union (Expr.needs_proper result)).union
        (Expr.branchesNeeds_proper branches)

theorem Expr.entriesNeeds_proper :
    (entries : List (Entry Expr)) → (Expr.entriesNeeds entries).Proper
  | [] => .empty
  | ⟨presence, expr⟩ :: entries =>
      ((Expr.needs_proper expr).within presence).union (Expr.entriesNeeds_proper entries)

end

/-- The needs of a list are proper if those of each item are. -/
theorem Needs.Proper.total {α : Type} {f : α → Needs} {g : List α → Needs} (nil : g [] = ∅)
    (cons : ∀ item items, g (item :: items) = f item ∪ g items) (proper : ∀ item, (f item).Proper)
    (items : List α) : (g items).Proper := by
  induction items with
  | nil =>
      rw [nil]
      exact .empty
  | cons item items ih =>
      rw [cons]
      exact (proper item).union ih

theorem Expr.optionNeeds_proper (expr? : Option Expr) : (optionNeeds expr?).Proper := by
  cases expr? with
  | none => exact .empty
  | some expr => exact expr.needs_proper

theorem Expr.entryOptionNeeds_proper (condition? : Option (Entry Expr)) :
    (entryOptionNeeds condition?).Proper := by
  cases condition? with
  | none => exact .empty
  | some entry =>
      obtain ⟨presence, expr⟩ := entry
      exact expr.needs_proper.within presence

theorem Expr.rowsNeeds_proper (rows : List (List Expr)) : (rowsNeeds rows).Proper :=
  .total rfl (fun _ _ => rfl) listNeeds_proper rows

theorem SelectColumn.entriesNeeds_proper (columns : List (Entry SelectColumn)) :
    (entriesNeeds columns).Proper :=
  .total rfl (fun ⟨_, _, _, _⟩ _ => rfl)
    (fun column => column.value.expr.needs_proper.within column.presence) columns

theorem Assignment.entriesNeeds_proper (assignments : List (Entry Assignment)) :
    (entriesNeeds assignments).Proper :=
  .total rfl (fun ⟨_, _, _⟩ _ => rfl)
    (fun assignment => (Expr.optionNeeds_proper assignment.value.value?).within
      assignment.presence) assignments

theorem SortOrder.entriesNeeds_proper (orders : List (Entry SortOrder)) :
    (entriesNeeds orders).Proper :=
  .total rfl (fun ⟨_, _, _, _⟩ _ => rfl)
    (fun order => order.value.expr.needs_proper.within order.presence) orders

theorem InsertValues.needs_proper (content : InsertValues) : content.needs.Proper := by
  cases content with
  | defaultValues => exact .empty
  | set assignments => exact Assignment.entriesNeeds_proper assignments
  | rows columns rows => exact Expr.rowsNeeds_proper rows

theorem ConflictAction.needs_proper (action : ConflictAction) : action.needs.Proper := by
  cases action with
  | doNothing => exact .empty
  | doUpdate assignments condition? =>
      exact (Assignment.entriesNeeds_proper assignments).union
        (Expr.entryOptionNeeds_proper condition?)

theorem TableRef.needs_proper (table : TableRef) : table.names.needs.Proper := by
  induction table using identities.induct with
  | case1 declared => exact .empty
  | case2 reference => exact .ofCte reference.name
  | case3 derived =>
      obtain ⟨select, name, fields⟩ := derived
      exact .unresolved select.names
  | case4 left kind presence right condition? leftProper rightProper =>
      refine ⟨fun name read => read, fun name read => ?_⟩
      simp only [names, JoinKind.names] at read
      simp only [names, JoinKind.names, OrderedSet.contains_union, Bool.or_eq_true]
      split at read
      · simp only [OrderedSet.contains_union, Bool.or_eq_true] at read
        exact read.imp (Or.imp (leftProper.ctes name) (rightProper.ctes name)) id
      · exact .inl (.inl (leftProper.ctes name read))

theorem CteArm.listNeeds_proper (arms : List CteArm) : (listNeeds arms).Proper :=
  .total rfl (fun ⟨_, ⟨_, _⟩, _⟩ _ => rfl) (fun arm => .unresolved arm.select.value.names) arms

theorem Cte.needs_proper (definition : Cte) : definition.needs.Proper := by
  obtain ⟨name, base, arms, fields⟩ := definition
  have selects := (Needs.Proper.unresolved base.names).union (CteArm.listNeeds_proper arms)
  refine ⟨selects.tables, fun other read => ?_⟩
  simp only [needs, OrderedSet.contains_difference, Bool.and_eq_true] at read ⊢
  exact ⟨selects.ctes other read.1, read.2⟩

theorem Cte.entriesNeeds_proper (ctes : List (Entry Cte)) : (entriesNeeds ctes).Proper :=
  .total rfl (by rintro ⟨_, _⟩ _; rfl) (fun cte => cte.value.needs_proper.within cte.presence)
    ctes

/-- What a clause always reads is part of what it reads. -/
theorem Clause.needs_proper (clause : Clause) : clause.names.needs.Proper := by
  cases clause with
  | «with» ctes =>
      refine ⟨fun name read => read, fun name read => ?_⟩
      simp only [names, withNames, OrderedSet.contains_difference, Bool.and_eq_true] at read ⊢
      exact ⟨(Cte.entriesNeeds_proper ctes).ctes name read.1, read.2⟩
  | columns distinct columns | returning columns => exact SelectColumn.entriesNeeds_proper columns
  | target | limit => exact .empty
  | set assignments => exact Assignment.entriesNeeds_proper assignments
  | values content => exact content.needs_proper
  | source kind table => exact table.needs_proper
  | «where» condition? => exact Expr.entryOptionNeeds_proper condition?
  | groupBy entries => exact Expr.entriesNeeds_proper entries
  | having condition => exact Expr.entryOptionNeeds_proper (some condition)
  | union distinct arm => exact (Needs.Proper.unresolved arm.value.names).within arm.presence
  | orderBy orders => exact SortOrder.entriesNeeds_proper orders
  | onConflict keys action => exact action.needs_proper

end CheckedSql
