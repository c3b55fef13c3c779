import CheckedSql.Proofs.Aggregation.Grouped
import CheckedSql.Proofs.Scoping.Accounting

/-!
# Groups and the selects in expressions

A select in an expression may read columns of the select around it.  If that one has `GROUP BY`,
such a column has one value for a group only if it is an entry.

The check for aggregates over grouped expressions does not see these columns.  It looks at what an
expression exposes (`Expr.Exposes`), and a select is exposed as a whole, like a constant.  The
accounting of tables does see them, since a select needs exactly the tables of its outer columns
(`Select.contains_unresolvedTables_iff`).  `Select.correlatesByGroups_iff` puts the two together:
whatever is read for a group is grouped if what the selects in it read is, and these are not held
to it (`Select.idByRemainder_accepted`).
-/

namespace CheckedSql

namespace Select

/-! ## Outer columns -/

/-- The column is read somewhere in the select, and no statement in between provides its table. -/
def ReadsOuter (select : Select) (column : Column) : Prop :=
  ∃ frames, (Part.select select).Refers frames column ∧ ¬ Resolves frames column.qualifier

/-- A built select needs exactly the tables of its outer columns. -/
theorem contains_unresolvedTables_iff {select : Select} (built : (Part.select select).Built)
    {table : String} :
    select.unresolvedTables.contains table = true
      ↔ ∃ column, select.ReadsOuter column ∧ column.qualifier = table := by
  rw [← Part.needs_select]
  constructor
  · intro needed
    obtain ⟨frames, column, refers, rfl, outside⟩ := Part.refers_of_needed _ built needed
    exact ⟨column, ⟨frames, refers, outside⟩, rfl⟩
  · rintro ⟨column, ⟨frames, refers, outside⟩, rfl⟩
    rcases refers.needed built with needed | provided | resolved
    · exact needed
    · cases provided
    · exact absurd resolved outside

/-! ## What is read for a group -/

/-- The expression stands in what the select computes for a group, outside the aggregate functions
and outside the entries of `GROUP BY`. -/
def Shows (select : Select) (inner : Expr) : Prop :=
  ∃ expr ∈ select.grouped, expr.value.Exposes (Statement.select select).scope.groupBy inner

/-- The column is read in what the select computes for a group, outside the aggregate functions and
outside the entries of `GROUP BY`: in an expression of the select or by a select in one. -/
inductive ReadsForGroup (select : Select) (column : Column) : Prop where
  | direct : select.Shows (.column column) → ReadsForGroup select column
  | correlated {inner : Expr} {sub : Select} :
      select.Shows inner → inner.select? = some sub → sub.ReadsOuter column →
      ReadsForGroup select column

/-- The column is one of a table of the select, but no entry of its `GROUP BY`. -/
structure Ungrouped (select : Select) (column : Column) : Prop where
  own : column.qualifier ∈ (Statement.select select).identities
  notEntry : (Statement.select select).scope.groupBy.contains (.column column) = false

/-- What the selects in expressions read for a group is grouped. -/
def CorrelatesByGroups (select : Select) : Prop :=
  ∀ inner sub, select.Shows inner → inner.select? = some sub →
    ∀ column, sub.ReadsOuter column → ¬ select.Ungrouped column

/-- What is shown stands in the select. -/
theorem Shows.contains {select : Select} {inner : Expr} (shows : select.Shows inner) :
    (Part.select select).Contains (.expr inner) := by
  obtain ⟨expr, mem, exposes⟩ := shows
  obtain ⟨clause, clauseMem, inClause⟩ := List.mem_flatMap.1 mem
  refine .head (List.mem_flatMap.2 ⟨clause, clauseMem, ?_⟩) exposes.contains
  exact Clause.mem_parts_of_mem_grouped inClause

/-- In a consistent select with `GROUP BY`, no expression that is shown could be an entry, and a
select that is shown reads outer columns of exactly the tables it needs.  So all that is read for a
group is grouped exactly if what these selects read is. -/
theorem correlatesByGroups_iff {select : Select} (built : (Part.select select).Built)
    (hasGroups : ∃ entries, .groupBy entries ∈ select.clauses)
    (consistent : select.checkConsistency = .ok ()) :
    (∀ inner, select.Shows inner → inner.isGroupEntry = false)
      ∧ (∀ inner sub, select.Shows inner → inner.select? = some sub → ∀ table,
        sub.unresolvedTables.contains table = true
          ↔ ∃ column, sub.ReadsOuter column ∧ column.qualifier = table)
      ∧ (select.CorrelatesByGroups
        ↔ ∀ column, select.ReadsForGroup column → ¬ select.Ungrouped column) := by
  have noEntry : ∀ inner, select.Shows inner → inner.isGroupEntry = false := by
    rintro inner ⟨expr, mem, exposes⟩
    exact Expr.isAggregateOver_iff.1 (isAggregateOver_groups hasGroups consistent mem).1 _ exposes
  refine ⟨noEntry, ?_, ?_, ?_⟩
  · intro inner sub shows found table
    have contains := shows.contains.tail (Expr.mem_children_of_select? found)
    exact contains_unresolvedTables_iff (built.of_contains contains)
  · intro correlates column reads
    cases reads with
    | direct shows => exact absurd (noEntry _ shows) nofun
    | correlated shows found outer => exact correlates _ _ shows found column outer
  · intro readsGrouped inner sub shows found column outer
    exact readsGrouped column (.correlated shows found outer)

/-! ### A column of no group -/

/-- A select of `foo.id` from `bar` for each remainder of `foo.id`. -/
def idByRemainder : Select where
  clauses :=
    [.columns false [.static ⟨.subquery (.ofId "foo" "bar"), "id", true⟩],
      .source .from (.table (.ofId "foo")), .groupBy [.static remainder]]

theorem idByRemainder_built : (Part.select idByRemainder).Built := by
  let columns : List (Entry SelectColumn) := [.static ⟨.subquery (.ofId "foo" "bar"), "id", true⟩]
  have operandMade : Expr.mkSubquery (.ofId "foo" "bar") = .ok (.subquery (.ofId "foo" "bar")) :=
    rfl
  have named : ∀ column ∈ columns, column.value.IsMade := by
    rw [List.forall_mem_singleton]
    exact .inl rfl
  have columnsBuilt : ∀ column ∈ columns, (Part.expr column.value.expr).Built := by
    rw [List.forall_mem_singleton]
    refine .made (.subquery operandMade) ?_
    rw [List.forall_mem_singleton]
    exact Select.ofId_built "foo" "bar"
  have selected := built_of_start_from named columnsBuilt (Table.ofId_built "foo") rfl
  have grouped : Select.groupBy ⟨[.columns false columns, .source .from (.table (.ofId "foo"))]⟩
      [.static remainder] = .ok idByRemainder := rfl
  exact .of_pair (.selectGroupBy grouped) selected remainder_built

theorem idByRemainder_shows : idByRemainder.Shows (.subquery (.ofId "foo" "bar")) :=
  ⟨.static (.subquery (.ofId "foo" "bar")), .head _, .self rfl⟩

/-- The remainder is the only entry. -/
theorem idByRemainder_ungrouped {column : Column} (own : column.qualifier = "foo") :
    idByRemainder.Ungrouped column where
  own := by
    rw [own]
    exact .head _
  notEntry := rfl

/-- The select from `bar` keeps `idByRemainder` from reading only what is grouped. -/
theorem idByRemainder_not_correlated :
    (∃ entries, .groupBy entries ∈ idByRemainder.clauses)
      ∧ idByRemainder.checkConsistency = .ok () ∧ ¬ idByRemainder.CorrelatesByGroups := by
  have hasGroups : ∃ entries, .groupBy entries ∈ idByRemainder.clauses :=
    ⟨_, .tail _ (.tail _ (.head _))⟩
  have consistent : idByRemainder.checkConsistency = .ok () := rfl
  obtain ⟨-, accounted, -⟩ := correlatesByGroups_iff idByRemainder_built hasGroups consistent
  refine ⟨hasGroups, consistent, fun correlates => ?_⟩
  obtain ⟨column, outer, own⟩ := (accounted _ _ idByRemainder_shows rfl "foo").1 rfl
  exact correlates _ _ idByRemainder_shows rfl column outer (idByRemainder_ungrouped own)

/-- An accepted select with `GROUP BY` computes a select for each group that reads a column of a
table of it that is no entry. -/
theorem idByRemainder_accepted :
    (Part.select idByRemainder).Built
      ∧ (Statement.select idByRemainder).checkPrepare = .ok ()
      ∧ (∃ entries, .groupBy entries ∈ idByRemainder.clauses)
      ∧ idByRemainder.Shows (.subquery (.ofId "foo" "bar"))
      ∧ (Select.ofId "foo" "bar").ReadsOuter (.ofId "foo")
      ∧ idByRemainder.Ungrouped (.ofId "foo") := by
  have outer : (Select.ofId "foo" "bar").ReadsOuter (.ofId "foo") := by
    refine ⟨_, .statement (.head _) (.head _) (.refl _), ?_⟩
    rw [List.nil_append, resolves_singleton]
    decide
  exact ⟨idByRemainder_built, rfl, ⟨_, .tail _ (.tail _ (.head _))⟩, idByRemainder_shows, outer,
    idByRemainder_ungrouped rfl⟩

end Select

end CheckedSql
