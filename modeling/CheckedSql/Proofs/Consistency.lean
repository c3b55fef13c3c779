import CheckedSql.Proofs.Built.Checked
import CheckedSql.Proofs.Built.Children

/-!
# Consistency of nested selects

A statement that is accepted has looked at its own clauses only.  What it contains was
looked at when it was built: a select is checked when it becomes a table, an arm of a
union, or a part of a common table expression, and no later call changes it.

There are two more places for a select, the operand of `EXISTS` and a single value.
The calls that put a select there do not check it, and neither does the statement
around it.  `Statement.selectsAreConsistent_iff` says that nothing else is missing: all
selects of an accepted statement are consistent exactly if those two kinds are.
-/

namespace CheckedSql

/-- Every select that a statement consists of or contains passes its own check. -/
def Statement.SelectsAreConsistent (statement : Statement) : Prop :=
  ∀ select, (Part.statement statement).Contains (.select select) →
    select.checkConsistency = .ok ()

/-- A select that stands in a built part, but not in an expression, was checked when it was put
there. -/
theorem Part.Built.checkConsistency_of_mem_children {part : Part} (built : part.Built)
    (notExpr : ∀ expr, part ≠ .expr expr) {select : Select}
    (mem : Part.select select ∈ part.children) : select.checkConsistency = .ok () := by
  cases part with
  | expr expr => exact absurd rfl (notExpr expr)
  | cte definition =>
      obtain ⟨found, foundMem, same⟩ := List.mem_map.1 mem
      cases same
      exact (built.of_mem_selects foundMem).2
  | tableRef table =>
      cases table with
      | table | cte => cases mem
      | subSelect derived =>
          cases List.mem_singleton.1 mem
          exact built.checkConsistency_subSelect
      | join => simp [children, TableRef.parts] at mem
  | statement statement =>
      obtain ⟨clause, clauseMem, partMem⟩ := List.mem_flatMap.1 mem
      have checked := Statement.checked_of_built built clause clauseMem
      cases clause with
      | union distinct arm =>
          cases List.mem_singleton.1 partMem
          exact checked
      | set assignments => simp [Clause.parts, Assignment.entriesParts] at partMem
      | values content =>
          cases content <;>
            simp [Clause.parts, InsertValues.parts, Assignment.entriesParts] at partMem
      | onConflict keys action =>
          cases action <;>
            simp [Clause.parts, ConflictAction.parts, Assignment.entriesParts] at partMem
      | _ => simp [Clause.parts] at partMem

namespace Statement

/-- In an accepted statement, every select that does not stand in an expression is consistent, and
all of them are exactly if those that stand in expressions are. -/
theorem selectsAreConsistent_iff {statement : Statement}
    (built : (Part.statement statement).Built) (prepared : statement.checkPrepare = .ok ()) :
    (∀ part select, (Part.statement statement).Contains part → (∀ expr, part ≠ .expr expr) →
        Part.select select ∈ part.children → select.checkConsistency = .ok ())
      ∧ (statement.SelectsAreConsistent
        ↔ ∀ expr select, (Part.statement statement).Contains (.expr expr) →
          expr.select? = some select → select.checkConsistency = .ok ()) := by
  have outside : ∀ part select, (Part.statement statement).Contains part →
      (∀ expr, part ≠ .expr expr) → Part.select select ∈ part.children →
      select.checkConsistency = .ok () := fun part select contains notExpr mem =>
    (built.of_contains contains).checkConsistency_of_mem_children notExpr mem
  refine ⟨outside, ?_, ?_⟩
  · intro consistent expr select contains found
    exact consistent select (contains.tail (Expr.mem_children_of_select? found))
  · intro operands select contains
    rcases contains.cases_tail with same | ⟨part, containsPart, mem⟩
    · obtain rfl : Statement.select select = statement := Part.statement.inj same
      exact (checkPrepare_eq_ok.1 prepared).1
    · cases part with
      | expr expr => exact operands expr select containsPart (Expr.select?_of_mem_children mem)
      | statement | tableRef | cte => exact outside _ select containsPart nofun mem

/-- A select of `foo.id` next to a count of all rows. -/
def mixed : Select where
  clauses :=
    [.columns false [.static ⟨.column (.ofId "foo"), "id", false⟩,
        .static ⟨.countAll, "count", true⟩],
      .source .from (.table (.ofId "foo"))]

/-- A select of `foo.id` under the condition that such a mixed select has rows. -/
def existsMixed : Select where
  clauses := (Select.ofId "foo" "foo").clauses ++ [.where (some (.static (.existsIn mixed)))]

theorem mixed_built : (Part.select mixed).Built := by
  let columns : List (Entry SelectColumn) :=
    [.static ⟨.column (.ofId "foo"), "id", false⟩, .static ⟨.countAll, "count", true⟩]
  have named : ∀ column ∈ columns, column.value.IsMade := by
    rw [List.forall_mem_cons, List.forall_mem_singleton]
    exact ⟨.inr rfl, .inr rfl⟩
  have columnsBuilt : ∀ column ∈ columns, (Part.expr column.value.expr).Built := by
    rw [List.forall_mem_cons, List.forall_mem_singleton]
    exact ⟨Column.ofId_built "foo", .made .countAll (by simp)⟩
  exact Select.built_of_start_from named columnsBuilt (Table.ofId_built "foo") rfl

theorem existsMixed_built : (Part.select existsMixed).Built := by
  have operand : (Part.expr (.existsIn mixed)).Built := by
    refine .made (.existsIn mixed) ?_
    rw [List.forall_mem_singleton]
    exact mixed_built
  have filtered : (Select.ofId "foo" "foo").where (.static (.existsIn mixed))
      = .ok existsMixed := rfl
  exact .of_pair (.selectWhere filtered) (Select.ofId_built "foo" "foo") operand

theorem existsMixed_prepared : (select existsMixed).checkPrepare = .ok () := by rfl

theorem mixed_checkConsistency :
    mixed.checkConsistency = fail .select .mixedAggregates := by rfl

/-- The operand of `EXISTS` keeps `existsMixed` from being consistent at every depth. -/
theorem existsMixed_not_consistent :
    (select existsMixed).checkPrepare = .ok () ∧ ¬ (select existsMixed).SelectsAreConsistent := by
  refine ⟨existsMixed_prepared, ?_⟩
  rw [(selectsAreConsistent_iff existsMixed_built existsMixed_prepared).2]
  intro operands
  have contains : (Part.select existsMixed).Contains (.expr (.existsIn mixed)) :=
    .single (List.mem_flatMap.2 ⟨_, .tail _ (.tail _ (.head _)), .head _⟩)
  have consistent := operands _ mixed contains rfl
  rw [mixed_checkConsistency] at consistent
  cases consistent

/-- The select in the `EXISTS` of an accepted statement mixes a column with a count. -/
theorem existsMixed_accepted :
    (Part.select existsMixed).Built ∧ (select existsMixed).checkPrepare = .ok ()
      ∧ ∃ inner, (Part.select existsMixed).Contains (.select inner)
        ∧ inner.checkConsistency = fail .select .mixedAggregates := by
  have operand : (Part.select existsMixed).Contains (.expr (.existsIn mixed)) :=
    .single (List.mem_flatMap.2 ⟨_, .tail _ (.tail _ (.head _)), .head _⟩)
  exact ⟨existsMixed_built, existsMixed_prepared, mixed,
    operand.tail (Expr.mem_children_of_select? rfl), mixed_checkConsistency⟩

end Statement

end CheckedSql
