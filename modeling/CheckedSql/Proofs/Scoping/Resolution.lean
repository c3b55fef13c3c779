import CheckedSql.Proofs.Built.Checked
import CheckedSql.Proofs.Scoping.Accounting

/-!
# Resolution of columns

A statement that passes `checkPrepare` reads no column from nowhere.  Wherever a
column is read, a statement around it provides its table.  For the condition of a
join it is one of the two sides, even though the join does not need the tables that
its condition reads.  For a common table expression it is a statement within the
definition, and for a written column it is the statement that writes it.
-/

namespace CheckedSql

namespace Statement

variable {statement : Statement}

/-- A statement that can run by itself needs no table. -/
theorem contains_needs_of_checkPrepare (prepared : statement.checkPrepare = .ok ())
    (table : String) : (Part.statement statement).needs.contains table = false := by
  obtain ⟨-, provided⟩ := checkPrepare_eq_ok.1 prepared
  rw [← Bool.not_eq_true, Part.needs, Names.contains_unresolvedTables,
    Clause.contains_listNames_needs]
  rintro ⟨⟨clause, mem, needed⟩, notProvided⟩
  have clauseProvided := (Clause.checkProvided_eq_ok.1 (provided clause mem)).1
  have isProvided : (Clause.listNames statement.clauses).tables.contains table = true :=
    OrderedSet.isEmpty_difference_iff.1 clauseProvided table needed
  rw [notProvided] at isProvided
  cases isProvided

namespace IsRoot

/-- The roots of a built statement are built. -/
theorem built {root : Part} (isRoot : statement.IsRoot root)
    (built : (Part.statement statement).Built) : root.Built := by
  cases isRoot with
  | self => exact built
  | select contains mem =>
      exact (built.of_contains contains).of_mem_children (List.mem_map_of_mem mem)

/-- The roots of a statement that can run by itself need no table. -/
theorem contains_needs {root : Part} (isRoot : statement.IsRoot root)
    (built : (Part.statement statement).Built) (prepared : statement.checkPrepare = .ok ())
    (table : String) : root.needs.contains table = false := by
  cases isRoot with
  | self => exact contains_needs_of_checkPrepare prepared table
  | select contains mem =>
      have closed := (built.of_contains contains).unresolvedTables_of_mem_selects mem
      rw [Part.needs_select, OrderedSet.isEmpty_iff.1 closed table]

/-- Roots provide no table to a statement around them. -/
theorem identities {root : Part} (isRoot : statement.IsRoot root) : root.identities = [] := by
  cases isRoot <;> rfl

/-- What stands in a root finds the tables it needs in the frames between the two. -/
theorem resolves {root inner : Part} {frames : List Frame} {table : String}
    (isRoot : statement.IsRoot root) (built : (Part.statement statement).Built)
    (prepared : statement.checkPrepare = .ok ()) (stands : root.Stands frames inner)
    (needed : inner.needs.contains table = true) : Resolves frames table := by
  rcases stands.needed (isRoot.built built) needed with outside | provided | resolved
  · rw [isRoot.contains_needs built prepared] at outside
    cases outside
  · rw [isRoot.identities] at provided
    cases provided
  · exact resolved

end IsRoot

/-- A consistent clause writes columns of the target only. -/
theorem qualifier_of_mem_writtenColumns {clause : Clause} {target : Table} {column : Column}
    (consistent : clause.checkConsistency statement.scope = .ok ())
    (found : statement.scope.target? = some target) (mem : column ∈ clause.writtenColumns) :
    column.qualifier = target.identity := by
  cases clause with
  | set assignments =>
      have own := (check_eq_ok.1 consistent).1
      exact requireOwnColumns_eq_ok.1 own target found column mem
  | values content =>
      rw [Clause.checkConsistency, found] at consistent
      have own := (check_eq_ok.1 consistent).1
      exact requireOwnColumns_eq_ok.1 own target rfl column mem
  | onConflict keys action =>
      cases action with
      | doNothing => exact requireOwnColumns_eq_ok.1 consistent target found column mem
      | doUpdate assignments condition? =>
          obtain ⟨ownKeys, rest⟩ := check_eq_ok.1 consistent
          obtain ⟨ownAssigned, -⟩ := check_eq_ok.1 rest
          rcases List.mem_append.1 mem with isKey | isAssigned
          · exact requireOwnColumns_eq_ok.1 ownKeys target found column isKey
          · exact requireOwnColumns_eq_ok.1 ownAssigned target found column isAssigned
  | _ => cases mem

/-- Of the clauses that start a statement, the one that goes with written columns is a target. -/
theorem exists_target {head clause : Clause} {column : Column} (rank : head.rank = 1)
    (headAllowed : statement.allows head = true) (allowed : statement.allows clause = true)
    (mem : column ∈ clause.writtenColumns) : ∃ target, head.target? = some target := by
  cases head with
  | target kind table => exact ⟨table, rfl⟩
  | columns distinct entries =>
      cases statement with
      | select select => cases clause <;> first | cases mem | cases allowed
      | _ => cases headAllowed
  | limit kind count => cases kind <;> cases rank
  | _ => cases rank

/-- A statement with a clause that writes columns has a target. -/
theorem target_of_mem_writtenColumns (ordered : statement.Ordered) {clause : Clause}
    (clauseMem : clause ∈ statement.clauses) {column : Column}
    (mem : column ∈ clause.writtenColumns) :
    ∃ target, statement.scope.target? = some target
      ∧ target.identity ∈ statement.identities := by
  obtain ⟨head, headMem, rank⟩ := ordered.headed
  obtain ⟨first, isTarget⟩ := exists_target rank (ordered.allowed head headMem)
    (ordered.allowed clause clauseMem) mem
  cases head with
  | target kind table =>
      exact ⟨table, ordered.target?_scope headMem, List.mem_flatMap.2 ⟨_, headMem, .head _⟩⟩
  | _ => cases isTarget

/-- In a statement that can run by itself, every column that is read is found in a statement
around it, the columns of a join condition are found in the condition or in the sides of the join,
and the written columns are those of the target. -/
theorem references_resolved (built : (Part.statement statement).Built)
    (prepared : statement.checkPrepare = .ok ()) :
    (∀ root, statement.IsRoot root → ∀ frames column, root.Refers frames column →
        Resolves frames column.qualifier)
      ∧ (∀ left kind right condition,
        (Part.statement statement).Contains (.tableRef (.join left kind right (some condition))) →
        ∀ frames column, (Part.expr condition).Refers frames column →
          Resolves frames column.qualifier ∨ column.qualifier ∈ left.identities
            ∨ column.qualifier ∈ right.value.identities)
      ∧ ∀ clause ∈ statement.clauses, ∀ column ∈ clause.writtenColumns,
        column.qualifier ∈ statement.identities := by
  refine ⟨?_, ?_, ?_⟩
  · intro root isRoot frames column refers
    exact isRoot.resolves built prepared refers (Part.needs_column column)
  · intro left kind right condition contains frames column refers
    have joinBuilt := built.of_contains contains
    have conditionMem :
        Part.expr condition ∈ (Part.tableRef (.join left kind right (some condition))).children :=
      by simp [Part.children, TableRef.parts]
    rcases refers.needed (joinBuilt.of_mem_children conditionMem) with needed | provided | resolved
    · have inSides := TableRef.provided_of_needed_join joinBuilt conditionMem needed
      obtain ⟨presence, right⟩ := right
      exact .inr (List.mem_append.1 inSides)
    · cases provided
    · exact .inl resolved
  · intro clause clauseMem column mem
    have ordered := ordered_of_built built
    obtain ⟨consistent, -⟩ := checkPrepare_eq_ok.1 prepared
    have clauseConsistent := (checkConsistency_eq_ok.1 consistent).1 clause clauseMem
    obtain ⟨target, found, provided⟩ := target_of_mem_writtenColumns ordered clauseMem mem
    rwa [qualifier_of_mem_writtenColumns clauseConsistent found mem]

/-- A select of `foo.id` for which a select of `foo.id` from `bar` finds rows. -/
def correlated : Select where
  clauses :=
    (Select.ofId "foo" "foo").clauses ++ [.where (some (.static (.existsIn (.ofId "foo" "bar"))))]

theorem correlated_built : (Part.select correlated).Built := by
  have inner : (Part.expr (.existsIn (.ofId "foo" "bar"))).Built := by
    refine .made (.existsIn (.ofId "foo" "bar")) ?_
    rw [List.forall_mem_singleton]
    exact Select.ofId_built "foo" "bar"
  have filtered : (Select.ofId "foo" "foo").where (.static (.existsIn (.ofId "foo" "bar")))
      = .ok correlated := rfl
  exact .of_pair (.selectWhere filtered) (Select.ofId_built "foo" "foo") inner

/-- The inner select of `correlated` reads a table that the outer one provides. -/
theorem correlated_resolved :
    (select correlated).checkPrepare = .ok ()
      ∧ ∃ frames, (Part.select correlated).Refers frames (.ofId "foo") ∧ frames.length = 2
        ∧ Resolves frames "foo" := by
  have prepared : (select correlated).checkPrepare = .ok () := by rfl
  obtain ⟨frames, refers, two⟩ :
      ∃ frames, (Part.select correlated).Refers frames (.ofId "foo") ∧ frames.length = 2 := by
    have inner : ∃ frames, (Part.expr (.existsIn (.ofId "foo" "bar"))).Refers frames (.ofId "foo")
        ∧ frames.length = 1 :=
      ⟨_, .expr (.head _) (.statement (.head _) (.head _) (.refl _)), rfl⟩
    obtain ⟨frames, refers, one⟩ := inner
    refine ⟨_, .statement (.tail _ (.tail _ (.head _))) (.head _) refers, ?_⟩
    rw [List.length_append, one, List.length_singleton]
  refine ⟨prepared, frames, refers, two, ?_⟩
  exact (references_resolved correlated_built prepared).1 _ .self frames _ refers

end Statement

end CheckedSql
