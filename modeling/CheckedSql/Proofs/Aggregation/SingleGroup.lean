import CheckedSql.Proofs.Aggregation.Exposure
import CheckedSql.Proofs.Built.Children

/-!
# Selects of one group

An aggregate function in a select without `GROUP BY` makes one group of all rows, and so does
`HAVING`.  A column that is read beside it then has no single value.

Three rules see to this, each of which looks at one clause.  The selected columns must not mix
aggregate functions with columns of rows, `HAVING` must read aggregate functions only, and
`ORDER BY` must not call any.  `Select.columns_fit_group` says what they come to: next to a
selected aggregate function, every selected column fits the group.  They leave open what is
selected next to a `HAVING`, and `ORDER BY` is made for rows and not for a group
(`Select.group_reads_rows`).
-/

namespace CheckedSql

/-! ## Calls in built expressions -/

namespace Expr

/-- An expression declared as a `GROUP BY` entry calls no aggregate function, and neither does the
argument of one. -/
def KeepsCallsApart : Expr → Prop
  | .groupKey inner => inner.containsAggregate = false
  | .aggregate _ argument? => ∀ argument ∈ argument?, argument.containsAggregate = false
  | _ => True

theorem keepsCallsApart_chained (connective : Connective) (left : Expr) (right : Entry Expr) :
    (chained connective left right).KeepsCallsApart := by
  obtain ⟨operands, same, -⟩ := exists_chained connective left right
  rw [same]
  trivial

/-- What a call returns keeps calls of aggregate functions apart if the expressions it is given
do. -/
theorem MadeFrom.keepsCallsApart {arguments : List Part} {expr : Expr}
    (made : MadeFrom arguments expr)
    (given : ∀ inner, .expr inner ∈ arguments → inner.KeepsCallsApart) :
    expr.KeepsCallsApart := by
  cases made with
  | column | value | parameter | existsIn => trivial
  | unary made =>
      obtain ⟨-, rfl⟩ := mkUnary_eq_ok.1 made
      trivial
  | binary made =>
      rcases mkBinary_eq_ok made with
        ⟨connective, -, chainMade⟩ | ⟨-, -, rfl⟩ | ⟨-, -, type, -, rfl⟩
      · obtain ⟨-, rfl⟩ := mkChain_eq_ok.1 chainMade
        exact keepsCallsApart_chained _ _ _
      · trivial
      · trivial
  | chain made =>
      obtain ⟨-, rfl⟩ := mkChain_eq_ok.1 made
      exact keepsCallsApart_chained _ _ _
  | within made =>
      obtain ⟨-, rfl⟩ := mkWithin_eq_ok.1 made
      trivial
  | between made =>
      obtain ⟨-, -, rfl⟩ := mkBetween_eq_ok.1 made
      trivial
  | cases made =>
      obtain ⟨-, -, rfl⟩ := mkCases_eq_ok.1 made
      trivial
  | aggregate made =>
      obtain ⟨plain, -, rfl⟩ := mkAggregate_eq_ok.1 made
      rintro argument ⟨⟩
      exact plain
  | countAll => exact nofun
  | overAll made =>
      obtain ⟨call, argument?, rfl, rfl⟩ := mkOver_eq_ok.1 made
      have inner : (Expr.aggregate call argument?).KeepsCallsApart := given _ (.head _)
      exact inner
  | groupKey made =>
      obtain ⟨plain, rfl⟩ := mkGroupKey_eq_ok.1 made
      exact plain
  | subquery made =>
      obtain ⟨-, rfl⟩ := mkSubquery_eq_ok.1 made
      trivial

theorem keepsCallsApart_of_built {expr : Expr} (built : (Part.expr expr).Built) :
    expr.KeepsCallsApart :=
  built_induction MadeFrom.keepsCallsApart built

/-- The kind of a built expression says whether it calls an aggregate function. -/
theorem callsAggregate_aggregateKind {expr : Expr} (built : (Part.expr expr).Built) :
    expr.aggregateKind.callsAggregate = expr.containsAggregate := by
  rw [aggregateKind_eq, containsAggregate_eq]
  cases isCall : expr.isAggregate with
  | true => rfl
  | false =>
      cases isEntry : expr.isGroupEntry with
      | true =>
          rw [if_neg Bool.false_ne_true, if_pos rfl, Bool.false_or]
          cases expr with
          | column => rfl
          | groupKey inner =>
              have plain : inner.containsAggregate = false := keepsCallsApart_of_built built
              simp [children, plain, AggregateKind.callsAggregate]
          | _ => cases isEntry
      | false =>
          have each (child : Expr) (mem : child ∈ expr.children) :
              child.aggregateKind.callsAggregate = child.containsAggregate :=
            callsAggregate_aggregateKind
              (built.of_mem_children (List.mem_append_left _ (List.mem_map_of_mem mem)))
          have same : (expr.children.any fun child => child.aggregateKind.callsAggregate)
              = expr.children.any containsAggregate := by
            rw [Bool.eq_iff_iff, List.any_eq_true, List.any_eq_true]
            exact exists_congr fun child => and_congr_right fun mem => by rw [each child mem]
          rw [if_neg Bool.false_ne_true, if_neg Bool.false_ne_true,
            AggregateKind.callsAggregate_foldl, List.any_map]
          exact same
termination_by sizeOf expr
decreasing_by exact sizeOf_lt_of_mem_children mem

/-- The expression has one value when all rows are one group: its kind says so, and it reads no
column outside the aggregate functions. -/
structure FitsGroup (expr : Expr) : Prop where
  kind : expr.aggregateKind = .neutral ∨ expr.aggregateKind = .aggregate
  reads : ∀ column, ¬ Exposes ∅ expr (.column column)

theorem fitsGroup_of_kind {expr : Expr} (fits : expr.aggregateKind.fitsGroup = true) :
    expr.FitsGroup :=
  ⟨AggregateKind.fitsGroup_iff.1 fits, not_exposes_column fits⟩

end Expr

/-! ## The clauses of a select -/

/-- The kind of selected columns together. -/
def AggregateKind.ofColumns (columns : List (Entry SelectColumn)) : AggregateKind :=
  (columns.map fun column => column.value.expr.aggregateKind).foldl combine neutral

/-- Rows are grouped exactly if there is a `GROUP BY` clause. -/
theorem Statement.hasGroupBy_iff {statement : Statement} :
    statement.scope.hasGroupBy = true ↔ ∃ entries, .groupBy entries ∈ statement.clauses := by
  simp only [scope, Scope.ofClauses, Bool.not_eq_true', List.isEmpty_eq_false_iff_exists_mem,
    List.mem_filterMap]
  constructor
  · rintro ⟨entries, clause, mem, found⟩
    cases clause with
    | groupBy given => exact ⟨given, mem⟩
    | _ => cases found
  · rintro ⟨entries, mem⟩
    exact ⟨entries, _, mem, rfl⟩

namespace Clause

variable {scope : Scope} (ungrouped : scope.hasGroupBy = false)

include ungrouped

theorem checkConsistency_columns_ungrouped {distinct : Bool} {columns : List (Entry SelectColumn)} :
    (Clause.columns distinct columns).checkConsistency scope = .ok ()
      ↔ AggregateKind.ofColumns columns ≠ .mixed := by
  rw [checkConsistency, ungrouped, if_neg Bool.false_ne_true, require_eq_ok, bne_iff_ne]
  exact Iff.rfl

theorem checkConsistency_having_ungrouped {condition : Entry Expr} :
    (Clause.having condition).checkConsistency scope = .ok ()
      ↔ condition.value.aggregateKind.fitsGroup = true := by
  rw [checkConsistency, ungrouped, if_neg Bool.false_ne_true, require_eq_ok,
    Expr.fitsGroup_aggregateKind]

theorem checkConsistency_orderBy_ungrouped {orders : List (Entry SortOrder)} :
    (Clause.orderBy orders).checkConsistency scope = .ok ()
      ↔ ∀ order ∈ orders, order.value.expr.containsAggregate = false := by
  rw [checkConsistency, ungrouped, if_neg Bool.false_ne_true, require_eq_ok, Bool.not_eq_true',
    List.any_eq_false]
  simp only [Bool.not_eq_true]

end Clause

namespace Select

/-- In a consistent select without `GROUP BY`, every selected column fits the group of all rows if
one of them calls an aggregate function.  A `HAVING` condition fits it too, and what `ORDER BY` sorts
by calls no aggregate function. -/
theorem columns_fit_group {select : Select} (built : (Part.select select).Built)
    (ungrouped : ∀ entries, .groupBy entries ∉ select.clauses)
    (consistent : select.checkConsistency = .ok ()) :
    (∀ distinct columns, .columns distinct columns ∈ select.clauses →
        (∃ column ∈ columns, column.value.expr.containsAggregate = true) →
        ∀ column ∈ columns, column.value.expr.FitsGroup)
      ∧ (∀ condition, .having condition ∈ select.clauses → condition.value.FitsGroup)
      ∧ ∀ orders, .orderBy orders ∈ select.clauses → ∀ order ∈ orders,
        order.value.expr.containsAggregate = false
          ∧ (order.value.expr.aggregateKind = .neutral
            ∨ order.value.expr.aggregateKind = .nonAggregate) := by
  have noGroups : (Statement.select select).scope.hasGroupBy = false := by
    rw [← Bool.not_eq_true, Statement.hasGroupBy_iff]
    rintro ⟨entries, mem⟩
    exact ungrouped entries mem
  have checked := (Statement.checkConsistency_eq_ok.1 consistent).1
  have exprBuilt {clause : Clause} {expr : Expr} (clauseMem : clause ∈ select.clauses)
      (mem : Part.expr expr ∈ clause.parts) : (Part.expr expr).Built :=
    built.of_mem_children (List.mem_flatMap.2 ⟨clause, clauseMem, mem⟩)
  refine ⟨?_, ?_, ?_⟩
  · rintro distinct columns clauseMem ⟨calling, callingMem, calls⟩ column mem
    have notMixed := (Clause.checkConsistency_columns_ungrouped noGroups).1 (checked _ clauseMem)
    have callingBuilt := exprBuilt clauseMem (List.mem_map_of_mem callingMem)
    rw [← Expr.callsAggregate_aggregateKind callingBuilt] at calls
    have together : (AggregateKind.ofColumns columns).callsAggregate = true := by
      rw [AggregateKind.ofColumns, AggregateKind.callsAggregate_foldl, Bool.or_eq_true,
        List.any_eq_true]
      exact .inr ⟨_, List.mem_map_of_mem callingMem, calls⟩
    have fits := AggregateKind.fitsGroup_of_callsAggregate together notMixed
    rw [AggregateKind.ofColumns, AggregateKind.fitsGroup_foldl, Bool.and_eq_true,
      List.all_eq_true] at fits
    exact Expr.fitsGroup_of_kind (fits.2 _ (List.mem_map_of_mem mem))
  · intro condition clauseMem
    exact Expr.fitsGroup_of_kind
      ((Clause.checkConsistency_having_ungrouped noGroups).1 (checked _ clauseMem))
  · intro orders clauseMem order mem
    have plain :=
      (Clause.checkConsistency_orderBy_ungrouped noGroups).1 (checked _ clauseMem) order mem
    have orderBuilt := exprBuilt clauseMem (List.mem_map_of_mem mem)
    refine ⟨plain, AggregateKind.callsAggregate_eq_false_iff.1 ?_⟩
    rw [Expr.callsAggregate_aggregateKind orderBuilt, plain]

/-! ### A select of one group -/

/-- Sorting by `foo.id`. -/
def byId : List (Entry SortOrder) := [.static ⟨.column (.ofId "foo"), .ascending, none⟩]

theorem byId_built {select result : Select} (built : (Part.select select).Built)
    (sorted : select.orderBy byId = .ok result) : (Part.select result).Built := by
  have made : ∀ order ∈ byId, order.value.IsMade := by
    rw [byId, List.forall_mem_singleton]
    rfl
  exact .of_pair (.selectOrderBy made sorted) built (Column.ofId_built "foo")

/-- There is more than one row. -/
def manyRows : Expr := .binary .gt .countAll (.value (.int 1)) (.of .boolean)

theorem havingMany_built {select result : Select} (built : (Part.select select).Built)
    (filtered : select.having (.static manyRows) = .ok result) : (Part.select result).Built := by
  have compared : Expr.mkBinary .gt .countAll (.value (.int 1)) = .ok manyRows := rfl
  exact .of_pair (.selectHaving filtered) built
    (.of_pair (.binary compared) (.made .countAll (by simp)) (.made (.value _) (by simp)))

/-- The least `foo.id`. -/
def leastId : Expr := .aggregate ⟨.min, false, false⟩ (some (.column (.ofId "foo")))

/-- The number of rows of `foo`, the least `foo.id` and a constant, if there is more than one row;
sorted by `foo.id`. -/
def summary : Select where
  clauses :=
    [.columns false [.static ⟨.countAll, "count", true⟩, .static ⟨leastId, "least", true⟩,
        .static ⟨.value (.int 1), "one", true⟩],
      .source .from (.table (.ofId "foo")), .having (.static manyRows), .orderBy byId]

theorem summary_built : (Part.select summary).Built := by
  let columns : List (Entry SelectColumn) := [.static ⟨.countAll, "count", true⟩,
    .static ⟨leastId, "least", true⟩, .static ⟨.value (.int 1), "one", true⟩]
  have least : Expr.mkAggregate .min false (.column (.ofId "foo")) = .ok leastId := rfl
  have named : ∀ column ∈ columns, column.value.IsMade := by
    simp only [columns, List.forall_mem_cons]
    exact ⟨.inr rfl, .inl rfl, .inl rfl, nofun⟩
  have columnsBuilt : ∀ column ∈ columns, (Part.expr column.value.expr).Built := by
    simp only [columns, List.forall_mem_cons]
    exact ⟨.made .countAll (by simp),
      .made (.aggregate least) (List.forall_mem_singleton.2 (Column.ofId_built "foo")),
      .made (.value _) (by simp), nofun⟩
  exact byId_built
    (havingMany_built (built_of_start_from named columnsBuilt (Table.ofId_built "foo") rfl) rfl) rfl

/-- Next to the number of rows, the least `foo.id` and a constant fit the group, and so does the
condition. -/
theorem summary_fits :
    (Part.select summary).Built ∧ (∀ entries, .groupBy entries ∉ summary.clauses)
      ∧ summary.checkConsistency = .ok ()
      ∧ leastId.FitsGroup ∧ (Expr.value (.int 1)).FitsGroup ∧ manyRows.FitsGroup
      ∧ (Expr.column (.ofId "foo")).aggregateKind = .nonAggregate := by
  have consistent : summary.checkConsistency = .ok () := rfl
  have ungrouped : ∀ entries, .groupBy entries ∉ summary.clauses := by simp [summary]
  obtain ⟨columnsFit, havingFits, orderPlain⟩ :=
    columns_fit_group summary_built ungrouped consistent
  have fits := columnsFit _ _ (.head _) ⟨_, .head _, rfl⟩
  have sorted := (orderPlain _ (.tail _ (.tail _ (.tail _ (.head _)))) _ (.head _)).2
  exact ⟨summary_built, ungrouped, consistent,
    fits (.static ⟨leastId, "least", true⟩) (.tail _ (.head _)),
    fits (.static ⟨.value (.int 1), "one", true⟩) (.tail _ (.tail _ (.head _))),
    havingFits _ (.tail _ (.tail _ (.head _))), sorted.resolve_left nofun⟩

/-! ### Selects that read rows of their group -/

/-- The number of rows of `foo`, sorted by `foo.id`. -/
def countById : Select where
  clauses :=
    [.columns false [.static ⟨.countAll, "count", true⟩], .source .from (.table (.ofId "foo")),
      .orderBy byId]

/-- `foo.id`, if there is more than one row. -/
def idIfMany : Select where
  clauses := (Select.ofId "foo" "foo").clauses
    ++ [.having (.static (.binary .gt .countAll (.value (.int 1)) (.of .boolean))), .orderBy byId]

theorem countById_built : (Part.select countById).Built := by
  let columns : List (Entry SelectColumn) := [.static ⟨.countAll, "count", true⟩]
  have named : ∀ column ∈ columns, column.value.IsMade := by
    rw [List.forall_mem_singleton]
    exact .inr rfl
  have columnsBuilt : ∀ column ∈ columns, (Part.expr column.value.expr).Built := by
    rw [List.forall_mem_singleton]
    exact .made .countAll (by simp)
  exact byId_built (built_of_start_from named columnsBuilt (Table.ofId_built "foo") rfl) rfl

theorem idIfMany_built : (Part.select idIfMany).Built :=
  byId_built (havingMany_built (Select.ofId_built "foo" "foo") rfl) rfl

/-- Next to a `HAVING`, selected columns and `ORDER BY` may read rows of the group, and next to a
selected aggregate function `ORDER BY` may. -/
theorem group_reads_rows :
    ((Part.select idIfMany).Built ∧ (Statement.select idIfMany).checkPrepare = .ok ()
        ∧ (∀ entries, .groupBy entries ∉ idIfMany.clauses)
        ∧ (∃ condition, .having condition ∈ idIfMany.clauses)
        ∧ (∃ columns, .columns false columns ∈ idIfMany.clauses
          ∧ ∃ column ∈ columns, ¬ column.value.expr.FitsGroup)
        ∧ ∃ orders, .orderBy orders ∈ idIfMany.clauses
          ∧ ∃ order ∈ orders, ¬ order.value.expr.FitsGroup)
      ∧ (Part.select countById).Built ∧ (Statement.select countById).checkPrepare = .ok ()
        ∧ (∀ entries, .groupBy entries ∉ countById.clauses)
        ∧ (∃ columns, .columns false columns ∈ countById.clauses
          ∧ ∃ column ∈ columns, column.value.expr.containsAggregate = true)
        ∧ ∃ orders, .orderBy orders ∈ countById.clauses
          ∧ ∃ order ∈ orders, ¬ order.value.expr.FitsGroup := by
  have readsRow : ¬ (Expr.column (.ofId "foo")).FitsGroup := fun fits => by
    rcases fits.kind with kind | kind <;> cases kind
  refine ⟨⟨idIfMany_built, rfl, ?_, ?_, ?_, ?_⟩, countById_built, rfl, ?_, ?_, ?_⟩
  · simp [idIfMany, ofId, ofColumn]
  · exact ⟨_, .tail _ (.tail _ (.head _))⟩
  · exact ⟨_, .head _, _, .head _, readsRow⟩
  · exact ⟨_, .tail _ (.tail _ (.tail _ (.head _))), _, .head _, readsRow⟩
  · simp [countById]
  · exact ⟨_, .head _, _, .head _, rfl⟩
  · exact ⟨_, .tail _ (.tail _ (.head _)), _, .head _, readsRow⟩

end Select

end CheckedSql
