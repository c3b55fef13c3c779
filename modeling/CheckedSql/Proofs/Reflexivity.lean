import CheckedSql.Proofs.Part

/-!
# Trees that equal themselves

A NaN differs from itself, and so does every tree that contains one.  Nothing else does:
`Part.NanFree` says that a part contains no NaN at any depth, selects inside expressions
included, and such a part equals itself (`Part.NanFree.equalsItself`).

Equality goes through the whole family of types, through lists, entries and options, while
`Part.children` skips all of that.  So one step of the induction is a lemma for each type on the
way: what consists of parts that equal themselves equals itself.
-/

namespace CheckedSql

/-- No literal in the part is a NaN. -/
def Part.NanFree (part : Part) : Prop :=
  ∀ number, part.Contains (.expr (.value (.float number))) → number.isNaN = false

theorem Part.NanFree.of_mem_children {part child : Part} (free : part.NanFree)
    (mem : child ∈ part.children) : child.NanFree :=
  fun number contains => free number (.head mem contains)

/-- A part without a NaN consists of parts without a NaN, and is no NaN. -/
theorem Part.NanFree.of_children {part : Part}
    (here : ∀ number, part = .expr (.value (.float number)) → number.isNaN = false)
    (each : ∀ child ∈ part.children, child.NanFree) : part.NanFree := by
  intro number contains
  rcases Relation.ReflTransGen.cases_head contains with same | ⟨child, mem, inChild⟩
  · exact here number same
  · exact each child mem number inChild

theorem Part.NanFree.of_leaf {part : Part}
    (here : ∀ number, part = .expr (.value (.float number)) → number.isNaN = false)
    (leaf : part.children = []) : part.NanFree := by
  refine .of_children here fun child mem => ?_
  rw [leaf] at mem
  cases mem

/-- The part equals itself. -/
def Part.EqualsItself : Part → Prop
  | expr e => Expr.beq e e = true
  | statement s => Clause.beqList s.clauses s.clauses = true
  | tableRef table => TableRef.beq table table = true
  | cte definition => Cte.beq definition definition = true

/-- A comparison that goes through lists side by side finds a list equal to itself if its elements
are. -/
theorem compareAll_self {α : Type} {compareAll : List α → List α → Bool} {Same : α → Prop}
    (nil : compareAll [] [] = true)
    (cons : ∀ item items, Same item → compareAll items items = true →
      compareAll (item :: items) (item :: items) = true)
    {items : List α} (each : ∀ item ∈ items, Same item) : compareAll items items = true := by
  induction items with
  | nil => exact nil
  | cons item items ih =>
      rw [List.forall_mem_cons] at each
      exact cons item items each.1 (ih each.2)

/-! ## Expressions -/

namespace Expr

theorem beqOption_self {expr? : Option Expr}
    (each : ∀ child ∈ expr?.toList.map Part.expr, child.EqualsItself) :
    beqOption expr? expr? = true := by
  cases expr? with
  | none => rfl
  | some expr => exact each _ (.head _)

theorem beqList_self {exprs : List Expr}
    (each : ∀ child ∈ exprs.map Part.expr, child.EqualsItself) : beqList exprs exprs = true := by
  refine compareAll_self rfl ?_ (List.forall_mem_map.1 each)
  intro expr exprs (same : beq expr expr = true) rest
  rw [beqList, same, rest, Bool.and_true]

theorem beqRows_self {rows : List (List Expr)}
    (each : ∀ child ∈ rows.flatMap fun row => row.map Part.expr, child.EqualsItself) :
    beqRows rows rows = true := by
  refine compareAll_self rfl ?_ (List.forall_mem_flatMap.1 each)
  intro row rows same rest
  rw [beqRows, beqList_self same, rest, Bool.and_true]

theorem beqBranches_self {branches : List (Expr × Expr)}
    (each : ∀ child ∈ branches.flatMap fun branch => [branch.1, branch.2],
      beq child child = true) : beqBranches branches branches = true := by
  refine compareAll_self rfl ?_ (List.forall_mem_flatMap.1 each)
  rintro ⟨condition, result⟩ branches same rest
  rw [beqBranches, same _ (.head _), same _ (.tail _ (.head _)), rest, Bool.and_true,
    Bool.and_true]

theorem beqEntry_self {entry : Entry Expr} (same : (Part.expr entry.value).EqualsItself) :
    beqEntry entry entry = true := by
  obtain ⟨presence, expr⟩ := entry
  have same : beq expr expr = true := same
  rw [beqEntry, same, beq_self_eq_true, Bool.and_true]

theorem beqEntryOption_self {condition? : Option (Entry Expr)}
    (each : ∀ child ∈ condition?.toList.map fun condition => Part.expr condition.value,
      child.EqualsItself) : beqEntryOption condition? condition? = true := by
  cases condition? with
  | none => rfl
  | some condition => exact beqEntry_self (each _ (.head _))

theorem beqEntries_self {entries : List (Entry Expr)}
    (each : ∀ child ∈ entries.map fun entry => Part.expr entry.value, child.EqualsItself) :
    beqEntries entries entries = true := by
  refine compareAll_self rfl ?_ (List.forall_mem_map.1 each)
  intro entry entries same rest
  rw [beqEntries, beqEntry_self same, rest, Bool.and_true]

end Expr

theorem Select.beq_self {select : Select} (same : (Part.select select).EqualsItself) :
    Select.beq select select = true := by
  cases select
  exact same

/-- An expression that is no NaN equals itself if its parts do. -/
theorem Expr.beq_self {expr : Expr}
    (notNan : ∀ number, expr = .value (.float number) → number.isNaN = false)
    (each : ∀ child ∈ (Part.expr expr).children, child.EqualsItself) :
    Expr.beq expr expr = true := by
  have children : ∀ child ∈ expr.children, Expr.beq child child = true := fun child mem =>
    each (.expr child) (List.mem_append_left _ (List.mem_map_of_mem mem))
  cases expr with
  | column | parameter => simp [Expr.beq]
  | value value =>
      rw [Expr.beq]
      refine Value.beq_self value fun number same => notNan number ?_
      rw [same]
  | unary | binary | concat | between | groupKey => simp_all [Expr.beq, Expr.children]
  | chain connective operands =>
      have operandsSame := Expr.beqEntries_self (List.forall_mem_map.2 fun operand mem =>
        children operand.value (List.mem_map_of_mem mem))
      simp [Expr.beq, operandsSame]
  | within negated tested items =>
      have testedSame := children tested (.head _)
      have itemsSame := Expr.beqList_self (List.forall_mem_map.2 fun item mem =>
        children item (.tail _ mem))
      simp [Expr.beq, testedSame, itemsSame]
  | cases branches otherwise type =>
      have branchesSame := Expr.beqBranches_self fun child mem =>
        children child (List.mem_append_left _ mem)
      have otherwiseSame := children otherwise (List.mem_append_right _ (.head _))
      simp [Expr.beq, branchesSame, otherwiseSame]
  | aggregate call argument? =>
      have argumentSame := Expr.beqOption_self (List.forall_mem_map.2 children)
      simp [Expr.beq, argumentSame]
  | existsIn select | subquery select =>
      exact Select.beq_self (each _ (List.mem_append_right _ (.head _)))

/-! ## Clauses -/

theorem SelectColumn.beqEntries_self {columns : List (Entry SelectColumn)}
    (each : ∀ child ∈ columns.map fun column => Part.expr column.value.expr,
      child.EqualsItself) : SelectColumn.beqEntries columns columns = true := by
  refine compareAll_self rfl ?_ (List.forall_mem_map.1 each)
  rintro ⟨presence, expr, name, aliased⟩ columns (same : Expr.beq expr expr = true) rest
  simp [SelectColumn.beqEntries, same, rest]

theorem Assignment.beqEntries_self {assignments : List (Entry Assignment)}
    (each : ∀ child ∈ Assignment.entriesParts assignments, child.EqualsItself) :
    Assignment.beqEntries assignments assignments = true := by
  refine compareAll_self rfl ?_ (List.forall_mem_flatMap.1 each)
  rintro ⟨presence, column, value?⟩ assignments same rest
  simp [Assignment.beqEntries, Expr.beqOption_self same, rest]

theorem SortOrder.beqEntries_self {orders : List (Entry SortOrder)}
    (each : ∀ child ∈ orders.map fun order => Part.expr order.value.expr,
      child.EqualsItself) : SortOrder.beqEntries orders orders = true := by
  refine compareAll_self rfl ?_ (List.forall_mem_map.1 each)
  rintro ⟨presence, expr, direction, nulls?⟩ orders (same : Expr.beq expr expr = true) rest
  simp [SortOrder.beqEntries, same, rest]

theorem Select.beqEntry_self {entry : Entry Select}
    (same : (Part.select entry.value).EqualsItself) : Select.beqEntry entry entry = true := by
  obtain ⟨presence, select⟩ := entry
  have same : Select.beq select select = true := Select.beq_self same
  rw [Select.beqEntry, same, beq_self_eq_true, Bool.and_true]

theorem Cte.beqEntries_self {ctes : List (Entry Cte)}
    (each : ∀ child ∈ ctes.map fun cte => Part.cte cte.value, child.EqualsItself) :
    Cte.beqEntries ctes ctes = true := by
  refine compareAll_self rfl ?_ (List.forall_mem_map.1 each)
  rintro ⟨presence, cte⟩ ctes (same : Cte.beq cte cte = true) rest
  simp [Cte.beqEntries, same, rest]

theorem InsertValues.beq_self {content : InsertValues}
    (each : ∀ child ∈ content.parts, child.EqualsItself) :
    InsertValues.beq content content = true := by
  cases content with
  | defaultValues => rfl
  | set assignments => exact Assignment.beqEntries_self each
  | rows columns given => simp [InsertValues.beq, Expr.beqRows_self each]

theorem ConflictAction.beq_self {action : ConflictAction}
    (each : ∀ child ∈ action.parts, child.EqualsItself) :
    ConflictAction.beq action action = true := by
  cases action with
  | doNothing => rfl
  | doUpdate assignments condition? =>
      obtain ⟨assigned, condition⟩ := List.forall_mem_append.1 each
      simp [ConflictAction.beq, Assignment.beqEntries_self assigned,
        Expr.beqEntryOption_self condition]

/-- A clause equals itself if its parts do. -/
theorem Clause.beq_self {clause : Clause} (each : ∀ child ∈ clause.parts, child.EqualsItself) :
    Clause.beq clause clause = true := by
  cases clause with
  | «with» ctes => exact Cte.beqEntries_self each
  | columns distinct columns => simp [Clause.beq, SelectColumn.beqEntries_self each]
  | target kind table => simp [Clause.beq]
  | set assignments => exact Assignment.beqEntries_self each
  | values content => exact InsertValues.beq_self each
  | source kind table =>
      have same : TableRef.beq table table = true := each _ (.head _)
      simp [Clause.beq, same]
  | «where» condition? => exact Expr.beqEntryOption_self each
  | groupBy entries => exact Expr.beqEntries_self each
  | having condition => exact Expr.beqEntry_self (each _ (.head _))
  | union distinct arm => simp [Clause.beq, Select.beqEntry_self (each _ (.head _))]
  | orderBy orders => exact SortOrder.beqEntries_self each
  | limit kind count =>
      have same : Expr.beq count count = true := each _ (.head _)
      simp [Clause.beq, same]
  | onConflict columns action => simp [Clause.beq, ConflictAction.beq_self each]
  | returning columns => exact SelectColumn.beqEntries_self each

theorem Clause.beqList_self {clauses : List Clause}
    (each : ∀ child ∈ clauses.flatMap Clause.parts, child.EqualsItself) :
    Clause.beqList clauses clauses = true := by
  refine compareAll_self rfl ?_ (List.forall_mem_flatMap.1 each)
  intro clause clauses same rest
  rw [Clause.beqList, Clause.beq_self same, rest, Bool.and_true]

/-! ## Tables -/

/-- A table reference equals itself if its parts do. -/
theorem TableRef.beq_self {table : TableRef}
    (each : ∀ child ∈ table.parts, child.EqualsItself) : TableRef.beq table table = true := by
  cases table with
  | table | cte => simp [TableRef.beq]
  | subSelect derived =>
      obtain ⟨select, name, fields⟩ := derived
      have same : Select.beq select select = true := Select.beq_self (each _ (.head _))
      simp [TableRef.beq, SubSelect.beq, same]
  | join left kind right condition? =>
      obtain ⟨presence, right⟩ := right
      rw [TableRef.parts, List.forall_mem_cons, List.forall_mem_cons] at each
      obtain ⟨(leftSame : TableRef.beq left left = true),
        (rightSame : TableRef.beq right right = true), condition⟩ := each
      simp [TableRef.beq, TableRef.beqEntry, leftSame, rightSame, Expr.beqOption_self condition]

theorem CteArm.beqList_self {arms : List CteArm}
    (each : ∀ select ∈ arms.map fun arm => arm.select.value, (Part.select select).EqualsItself) :
    CteArm.beqList arms arms = true := by
  refine compareAll_self rfl ?_ (List.forall_mem_map.1 each)
  rintro ⟨distinct, select, readsSelf⟩ arms same rest
  simp [CteArm.beqList, Select.beqEntry_self same, rest]

/-- A common table expression equals itself if the selects that define it do. -/
theorem Cte.beq_self {cte : Cte}
    (each : ∀ select ∈ cte.selects, (Part.select select).EqualsItself) :
    Cte.beq cte cte = true := by
  obtain ⟨name, base, arms, fields⟩ := cte
  obtain ⟨baseSame, armsSame⟩ := List.forall_mem_cons.1 each
  simp [Cte.beq, Select.beq_self baseSame, CteArm.beqList_self armsSame]

/-! ## Parts -/

/-- A part without a NaN equals itself. -/
theorem Part.NanFree.equalsItself {part : Part} (free : part.NanFree) : part.EqualsItself := by
  induction part using Part.induction with
  | step part ih =>
      have each : ∀ child ∈ part.children, child.EqualsItself := fun child mem =>
        ih child mem (free.of_mem_children mem)
      cases part with
      | expr expr =>
          refine Expr.beq_self (fun number same => free number ?_) each
          rw [same]
          exact .refl
      | statement statement => exact Clause.beqList_self each
      | tableRef table => exact TableRef.beq_self each
      | cte definition => exact Cte.beq_self (List.forall_mem_map.1 each)

end CheckedSql
