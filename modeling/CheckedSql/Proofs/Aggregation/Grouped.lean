import CheckedSql.Execution
import CheckedSql.Proofs.Activity.Verdict
import CheckedSql.Proofs.Aggregation.RowValue
import CheckedSql.Proofs.Aggregation.SingleGroup

/-!
# One value for each group

A select with `GROUP BY` gives one row for each group, so whatever it computes has to be the
same for all rows of a group.  `Select.grouping_sound` says that the check sees to it: two rows
with the same values of the `GROUP BY` entries give the same value to every selected column, to
the `HAVING` condition and to every expression of `ORDER BY`.  Static expressions manage with
the static entries, whichever dynamic operands are there.

An entry is recognised in another expression with `==`.  The two are written apart, so this
tells little about their values unless what they have in common is treated alike.  A `Group`
does so.  When the placeholders of one parameter are bound to different values, or an operand is
there in the entry only, rows of one group have different values
(`Select.grouping_needs_alike`).
-/

namespace CheckedSql

variable {Datum : Type}

/-! ## Aggregates over grouped expressions -/

namespace Expr

variable {group : Group Datum} {first second : Row Datum}

/-- An expression that reads no column of its own depends on the values of its children. -/
theorem valueIn_eq_of_children {expr : Expr} (notEntry : expr.isGroupEntry = false)
    (children : ∀ child ∈ expr.children, child.valueIn group first = child.valueIn group second) :
    expr.valueIn group first = expr.valueIn group second := by
  cases expr with
  | column | groupKey => cases notEntry
  | value | parameter | aggregate | existsIn | subquery => rfl
  | unary operator operand => rw [valueIn, valueIn, children operand (.head _)]
  | binary operator left right type =>
      rw [valueIn, valueIn, children left (.head _), children right (.tail _ (.head _))]
  | concat left right =>
      rw [valueIn, valueIn, children left (.head _), children right (.tail _ (.head _))]
  | between tested low high =>
      rw [valueIn, valueIn, children tested (.head _), children low (.tail _ (.head _)),
        children high (.tail _ (.tail _ (.head _)))]
  | chain connective operands =>
      have same : includedValues group first operands = includedValues group second operands := by
        rw [includedValues_eq, includedValues_eq]
        refine List.map_congr_left fun operand mem => ?_
        exact children _ (List.mem_map_of_mem (List.mem_filter.1 mem).1)
      rw [valueIn, valueIn, same]
  | within negated tested items =>
      have same : listValues group first items = listValues group second items := by
        rw [listValues_eq, listValues_eq]
        exact List.map_congr_left fun item mem => children item (.tail _ mem)
      rw [valueIn, valueIn, same, children tested (.head _)]
  | cases branches otherwise type =>
      have inBranch (branch : Expr × Expr) (mem : branch ∈ branches) (inner : Expr)
          (isPart : inner ∈ [branch.1, branch.2]) :
          inner.valueIn group first = inner.valueIn group second :=
        children inner (List.mem_append_left _ (List.mem_flatMap.2 ⟨branch, mem, isPart⟩))
      have same : branchValues group first branches = branchValues group second branches := by
        rw [branchValues_eq, branchValues_eq]
        refine List.map_congr_left fun branch mem => ?_
        rw [inBranch branch mem _ (.head _), inBranch branch mem _ (.tail _ (.head _))]
      have last : otherwise ∈ (Expr.cases branches otherwise type).children :=
        List.mem_append_right _ (.head _)
      rw [valueIn, valueIn, same, children otherwise last]

/-- Rows that agree on the known expressions agree on an aggregate over them. -/
theorem valueIn_eq_of_isAggregateOver {known : OrderedSet Expr}
    (agree : ∀ key ∈ known.toList, key.valueIn group first = key.valueIn group second)
    {expr : Expr} (isOver : expr.isAggregateOver known = true) :
    expr.valueIn group first = expr.valueIn group second := by
  rw [isAggregateOver_eq, Bool.or_eq_true, Bool.or_eq_true] at isOver
  rcases isOver with isKnown | isCall | plain
  · obtain ⟨key, mem, same⟩ := List.any_eq_true.1 isKnown
    rw [← valueIn_congr group first key expr same, ← valueIn_congr group second key expr same]
    exact agree key mem
  · cases expr with
    | aggregate => rfl
    | _ => cases isCall
  · rw [Bool.and_eq_true, Bool.not_eq_true', List.all_eq_true] at plain
    exact valueIn_eq_of_children plain.1 fun child mem =>
      valueIn_eq_of_isAggregateOver agree (plain.2 child mem)
termination_by sizeOf expr
decreasing_by exact sizeOf_lt_of_mem_children mem

end Expr

/-! ## What a select computes for a group -/

/-- The expressions of a clause that are computed for each group. -/
def Clause.grouped : Clause → List (Entry Expr)
  | columns _ entries => entries.map (Entry.map SelectColumn.expr)
  | having condition => [condition]
  | orderBy orders => orders.map (Entry.map SortOrder.expr)
  | _ => []

theorem Clause.mem_parts_of_mem_grouped {clause : Clause} {expr : Entry Expr}
    (mem : expr ∈ clause.grouped) : .expr expr.value ∈ clause.parts := by
  cases clause with
  | columns distinct entries =>
      obtain ⟨column, columnMem, rfl⟩ := List.mem_map.1 mem
      exact List.mem_map.2 ⟨column, columnMem, rfl⟩
  | having condition =>
      obtain rfl := List.mem_singleton.1 mem
      exact .head _
  | orderBy orders =>
      obtain ⟨order, orderMem, rfl⟩ := List.mem_map.1 mem
      exact List.mem_map.2 ⟨order, orderMem, rfl⟩
  | _ => cases mem

/-- The selected columns, the `HAVING` condition and what is sorted by. -/
def Select.grouped (select : Select) : List (Entry Expr) := select.clauses.flatMap Clause.grouped

/-- The entries of `GROUP BY`. -/
def Select.groups (select : Select) : List (Entry Expr) := (Statement.select select).groups

theorem requireGrouped_eq_ok {origin : Origin} {scope : Scope} {isStatic : Bool} {expr : Expr} :
    requireGrouped origin scope isStatic expr = .ok ()
      ↔ expr.isAggregateOver scope.groupBy = true
        ∧ (isStatic = true → expr.isAggregateOver scope.staticGroupBy = true) := by
  rw [requireGrouped, check_eq_ok, require_eq_ok, require_eq_ok]
  cases isStatic <;> simp

/-- With `GROUP BY`, a clause is checked for what it computes for each group. -/
theorem Clause.checkConsistency_grouped {scope : Scope} (hasGroupBy : scope.hasGroupBy = true)
    {clause : Clause} (checked : clause.checkConsistency scope = .ok ()) {expr : Entry Expr}
    (mem : expr ∈ clause.grouped) :
    expr.value.isAggregateOver scope.groupBy = true
      ∧ (expr.isStatic = true → expr.value.isAggregateOver scope.staticGroupBy = true) := by
  cases clause with
  | columns distinct entries =>
      obtain ⟨column, columnMem, rfl⟩ := List.mem_map.1 mem
      rw [checkConsistency, if_pos hasGroupBy, forM_eq_ok] at checked
      exact requireGrouped_eq_ok.1 (checked column columnMem)
  | having condition =>
      obtain rfl := List.mem_singleton.1 mem
      rw [checkConsistency, if_pos hasGroupBy] at checked
      exact requireGrouped_eq_ok.1 checked
  | orderBy orders =>
      obtain ⟨order, orderMem, rfl⟩ := List.mem_map.1 mem
      rw [checkConsistency, if_pos hasGroupBy, forM_eq_ok] at checked
      exact requireGrouped_eq_ok.1 (checked order orderMem)
  | _ => cases mem

namespace Select

variable {select : Select}

/-- What a consistent select with `GROUP BY` computes is an aggregate over its entries, and over the
static ones if it is static. -/
theorem isAggregateOver_groups (hasGroups : ∃ entries, .groupBy entries ∈ select.clauses)
    (consistent : select.checkConsistency = .ok ()) {expr : Entry Expr}
    (mem : expr ∈ select.grouped) :
    expr.value.isAggregateOver (Statement.select select).scope.groupBy = true
      ∧ (expr.isStatic = true →
        expr.value.isAggregateOver (Statement.select select).scope.staticGroupBy = true) := by
  obtain ⟨clause, clauseMem, inClause⟩ := List.mem_flatMap.1 mem
  have checked := (Statement.checkConsistency_eq_ok.1 consistent).1 clause clauseMem
  have areGrouped : (Statement.select select).scope.hasGroupBy = true :=
    Statement.hasGroupBy_iff.2 hasGroups
  exact Clause.checkConsistency_grouped areGrouped checked inClause

/-- In a consistent select with `GROUP BY`, rows that agree on the entries agree on all that is
computed for a group, and rows that agree on the static entries agree on all that is static.  If no
entry is static, what is static reads no column outside the aggregate functions. -/
theorem grouping_sound (hasGroups : ∃ entries, .groupBy entries ∈ select.clauses)
    (consistent : select.checkConsistency = .ok ()) :
    (∀ {Datum : Type} (group : Group Datum) (first second : Row Datum),
        (∀ entry ∈ select.groups,
          entry.value.valueIn group first = entry.value.valueIn group second) →
        ∀ expr ∈ select.grouped,
          expr.value.valueIn group first = expr.value.valueIn group second)
      ∧ (∀ {Datum : Type} (group : Group Datum) (first second : Row Datum),
        (∀ entry ∈ select.groups, entry.isStatic = true →
          entry.value.valueIn group first = entry.value.valueIn group second) →
        ∀ expr ∈ select.grouped, expr.isStatic = true →
          expr.value.valueIn group first = expr.value.valueIn group second)
      ∧ ((∀ entry ∈ select.groups, entry.isStatic = false) →
        ∀ expr ∈ select.grouped, expr.isStatic = true →
          ∀ column, ¬ Expr.Exposes ∅ expr.value (.column column)) := by
  refine ⟨?_, ?_, ?_⟩
  · intro Datum group first second agree expr mem
    refine Expr.valueIn_eq_of_isAggregateOver (fun key isKey => ?_)
      (isAggregateOver_groups hasGroups consistent mem).1
    obtain ⟨entry, entryMem, rfl⟩ := List.mem_map.1 (OrderedSet.mem_of_mem_ofList isKey)
    exact agree entry entryMem
  · intro Datum group first second agree expr mem isStatic
    refine Expr.valueIn_eq_of_isAggregateOver (fun key isKey => ?_)
      ((isAggregateOver_groups hasGroups consistent mem).2 isStatic)
    obtain ⟨entry, entryMem, rfl⟩ := List.mem_map.1 (OrderedSet.mem_of_mem_ofList isKey)
    obtain ⟨inGroups, entryStatic⟩ := List.mem_filter.1 entryMem
    exact agree entry inGroups entryStatic
  · intro noStatic expr mem isStatic column
    have isOver := (isAggregateOver_groups hasGroups consistent mem).2 isStatic
    have none : staticValues select.groups = [] := by
      rw [staticValues, List.filter_eq_nil_iff.2, List.map_nil]
      exact fun entry entryMem => Bool.eq_false_iff.1 (noStatic entry entryMem)
    have empty : (Statement.select select).scope.staticGroupBy = ∅ :=
      congrArg OrderedSet.ofList none
    rw [empty, ← Expr.fitsGroup_aggregateKind] at isOver
    exact Expr.not_exposes_column isOver column

/-! ### Remainders -/

/-- A number in the remainders of a division, as an entry of `GROUP BY`. -/
def remainder : Expr :=
  .groupKey (.binary .rem (.column (.ofId "foo")) (.parameter ⟨"size", .of .integral⟩)
    (.of .integral))

/-- The remainders of `foo.id` with the number of rows that have them, added up. -/
def remainders : Select where
  clauses :=
    [.columns false [.static ⟨remainder, "rest", true⟩,
        .static ⟨.binary .add remainder .countAll (.of .integral), "total", true⟩],
      .source .from (.table (.ofId "foo")), .groupBy [.static remainder]]

theorem remainder_built : (Part.expr remainder).Built := by
  have divided : Expr.mkBinary .rem (.column (.ofId "foo")) (.parameter ⟨"size", .of .integral⟩)
      = .ok (.binary .rem (.column (.ofId "foo")) (.parameter ⟨"size", .of .integral⟩)
        (.of .integral)) := rfl
  have declared : Expr.mkGroupKey (.binary .rem (.column (.ofId "foo"))
      (.parameter ⟨"size", .of .integral⟩) (.of .integral)) = .ok remainder := rfl
  refine .made (.groupKey declared) ?_
  rw [List.forall_mem_singleton]
  exact .of_pair (.binary divided) (Column.ofId_built "foo") (.made (.parameter _) (by simp))

theorem remainders_built : (Part.select remainders).Built := by
  let total : Expr := .binary .add remainder .countAll (.of .integral)
  let columns : List (Entry SelectColumn) :=
    [.static ⟨remainder, "rest", true⟩, .static ⟨total, "total", true⟩]
  have added : Expr.mkBinary .add remainder .countAll = .ok total := rfl
  have totalBuilt : (Part.expr total).Built :=
    .of_pair (.binary added) remainder_built (.made .countAll (by simp))
  have named : ∀ column ∈ columns, column.value.IsMade := by
    rw [List.forall_mem_cons, List.forall_mem_singleton]
    exact ⟨.inl rfl, .inl rfl⟩
  have columnsBuilt : ∀ column ∈ columns, (Part.expr column.value.expr).Built := by
    rw [List.forall_mem_cons, List.forall_mem_singleton]
    exact ⟨remainder_built, totalBuilt⟩
  have selected := built_of_start_from named columnsBuilt (Table.ofId_built "foo") rfl
  have grouped : Select.groupBy ⟨[.columns false columns, .source .from (.table (.ofId "foo"))]⟩
      [.static remainder] = .ok remainders := rfl
  exact .of_pair (.selectGroupBy grouped) selected remainder_built

end Select

/-- Division and addition of integers. -/
def Engine.division : Engine Int where
  literal
    | .int value => value.toInt
    | .bool holds => if holds then 1 else 0
    | _ => 0
  truth holds := if holds then 1 else 0
  isTrue datum := datum != 0
  apply
    | .binary .rem, [left, right] => if right = 0 then none else some (left.tmod right)
    | .binary .add, [left, right] => some (left + right)
    | _, _ => none

theorem Engine.division_value_congr (value other : Value) (same : (value == other) = true) :
    Engine.division.value? value = Engine.division.value? other := by
  cases value with
  | float x =>
      cases other with
      | float y => rfl
      | _ => cases same
  | _ =>
      have equal : decide (_ = other) = true := same
      rw [of_decide_eq_true equal]

/-- The group whose parameters are this number and whose aggregate functions and selects are 7. -/
def Group.ofSize (size : Int) : Group Int where
  engine := .division
  parameter _ := some size
  settled _ := .datum 7
  includes := Entry.isActive
  includes_static _ := Presence.isActive_of_isStatic
  value_congr := Engine.division_value_congr
  settled_congr _ _ _ := rfl
  includes_congr
    | ⟨_, _⟩, ⟨_, _⟩, same => by
        simp only [Expr.beqEntry, Bool.and_eq_true] at same
        rw [Entry.isActive, Entry.isActive, eq_of_beq same.1]

/-- A row in which every column has this value. -/
def Row.ofValue (value? : Option Int) : Row Int := fun _ => value?

namespace Select

/-- Rows with the remainder 1 have the same sum of the remainder and their number. -/
theorem remainders_sound :
    (∃ entries, .groupBy entries ∈ remainders.clauses) ∧ remainders.checkConsistency = .ok ()
      ∧ (∀ entry ∈ remainders.groups, entry.value.valueIn (.ofSize 3) (.ofValue (some 1))
        = entry.value.valueIn (.ofSize 3) (.ofValue (some 4)))
      ∧ (Expr.binary .add remainder .countAll (.of .integral)).valueIn (.ofSize 3)
          (.ofValue (some 1))
        = (Expr.binary .add remainder .countAll (.of .integral)).valueIn (.ofSize 3)
          (.ofValue (some 4)) := by
  have hasGroups : ∃ entries, .groupBy entries ∈ remainders.clauses :=
    ⟨_, .tail _ (.tail _ (.head _))⟩
  have consistent : remainders.checkConsistency = .ok () := rfl
  have agree : ∀ entry ∈ remainders.groups,
      entry.value.valueIn (.ofSize 3) (.ofValue (some 1))
        = entry.value.valueIn (.ofSize 3) (.ofValue (some 4)) := by
    have single : remainders.groups = [.static remainder] := rfl
    rw [single, List.forall_mem_singleton]
    rfl
  refine ⟨hasGroups, consistent, agree, ?_⟩
  exact (grouping_sound hasGroups consistent).1 (.ofSize 3) _ _ agree
    (.static (.binary .add remainder .countAll (.of .integral))) (.tail _ (.head _))

/-- Whether `foo.id` is NULL, if that is asked, as an entry of `GROUP BY`. -/
def presence (asked : Bool) : Expr :=
  .groupKey (.chain .and [.static (.value (.bool true)),
    .dynamic asked (.unary .isNull (.column (.ofId "foo")))])

/-- The select of that entry and its `GROUP BY`, asking or not in each place. -/
def presences (inColumn inEntry : Bool) : Select where
  clauses :=
    [.columns false [.static ⟨presence inColumn, "present", true⟩],
      .source .from (.table (.ofId "foo")), .groupBy [.static (presence inEntry)]]

theorem presence_built (asked : Bool) : (Part.expr (presence asked)).Built := by
  have tested : Expr.mkUnary .isNull (.column (.ofId "foo"))
      = .ok (.unary .isNull (.column (.ofId "foo"))) := rfl
  let chain : Expr := .chain .and [.static (.value (.bool true)),
    .dynamic asked (.unary .isNull (.column (.ofId "foo")))]
  have joined : Expr.mkChain .and (.value (.bool true))
      (.dynamic asked (.unary .isNull (.column (.ofId "foo")))) = .ok chain := rfl
  have testBuilt : (Part.expr (.unary .isNull (.column (.ofId "foo")))).Built := by
    refine .made (.unary tested) ?_
    rw [List.forall_mem_singleton]
    exact Column.ofId_built "foo"
  have declared : Expr.mkGroupKey chain = .ok (presence asked) := rfl
  refine .made (.groupKey declared) ?_
  rw [List.forall_mem_singleton]
  exact .of_pair (.chain joined) (.made (.value _) (by simp)) testBuilt

theorem presences_built (inColumn inEntry : Bool) :
    (Part.select (presences inColumn inEntry)).Built := by
  let columns : List (Entry SelectColumn) := [.static ⟨presence inColumn, "present", true⟩]
  have named : ∀ column ∈ columns, column.value.IsMade := by
    rw [List.forall_mem_singleton]
    exact .inl rfl
  have columnsBuilt : ∀ column ∈ columns, (Part.expr column.value.expr).Built := by
    rw [List.forall_mem_singleton]
    exact presence_built inColumn
  have selected := built_of_start_from named columnsBuilt (Table.ofId_built "foo") rfl
  have grouped : Select.groupBy ⟨[.columns false columns, .source .from (.table (.ofId "foo"))]⟩
      [.static (presence inEntry)] = .ok (presences inColumn inEntry) := rfl
  exact .of_pair (.selectGroupBy grouped) selected (presence_built inEntry)

set_option maxRecDepth 2000 in
/-- A selected column may differ in rows that agree on the entry it equals: if its placeholder is
bound to 10 and that of the entry to 3, or if an operand is switched off in the entry alone. -/
theorem grouping_needs_alike :
    ((Part.select remainders).Built ∧ (Statement.select remainders).checkPrepare = .ok ()
        ∧ (∃ written, (Statement.select remainders).serialize .postgres = .ok written
          ∧ checkValues written.parameters [.int 10, .int 10, .int 3] = .ok ())
        ∧ remainders.groups = [.static remainder] ∧ .static remainder ∈ remainders.grouped
        ∧ remainder.valueIn (.ofSize 3) (.ofValue (some 1))
          = remainder.valueIn (.ofSize 3) (.ofValue (some 4))
        ∧ remainder.valueIn (.ofSize 10) (.ofValue (some 1))
          ≠ remainder.valueIn (.ofSize 10) (.ofValue (some 4)))
      ∧ (Part.select (presences true true)).Built
        ∧ (Statement.select (presences true true)).checkPrepare = .ok ()
        ∧ (Statement.select (presences true false)).switched true true
          = Statement.select (presences true true)
        ∧ (presences true false).groups = [.static (presence false)]
        ∧ .static (presence true) ∈ (presences true false).grouped
        ∧ (presence false).valueIn (.ofSize 3) (.ofValue none)
          = (presence false).valueIn (.ofSize 3) (.ofValue (some 1))
        ∧ (presence true).valueIn (.ofSize 3) (.ofValue none)
          ≠ (presence true).valueIn (.ofSize 3) (.ofValue (some 1)) := by
  refine ⟨⟨remainders_built, rfl, ?_, rfl, .head _, rfl, by decide⟩,
    presences_built true true, rfl, rfl, rfl, .head _, rfl, by decide⟩
  let written : Written :=
    ⟨"SELECT (foo.id % $1) AS rest, ((foo.id % $2) + COUNT(*)) AS total FROM foo"
      ++ " GROUP BY foo.id % $3", List.replicate 3 ⟨"size", .of .integral⟩⟩
  have serialized : (Statement.select remainders).serialize .postgres = .ok written := by rfl
  exact ⟨written, serialized, rfl⟩

end Select

end CheckedSql
