import CheckedSql.Proofs.Scoping.Resolution

/-!
# What the values of an `INSERT` read

A statement has one scope.  The clauses of an `INSERT` share its target, so that
`ON CONFLICT` and `RETURNING` may read the row that is there or the row that was written.
The values are looked up in the same scope, and there is no row yet that they could read.
So an accepted `INSERT` may give a column the value of a column of its target
(`Insert.ownId_reads_target`).

No other table is in the scope.  The values of an accepted `INSERT` therefore need its target
at most, and they need it exactly if they read a column of it that no select inside of them
provides (`Insert.values_read_target`).
-/

namespace CheckedSql

/-- A built expression needs no table exactly if every column in it is provided by a select inside
of it. -/
theorem Expr.needs_isEmpty_iff {expr : Expr} (built : (Part.expr expr).Built) :
    expr.needs.tables.isEmpty = true
      ↔ ∀ frames column, (Part.expr expr).Refers frames column →
        Resolves frames column.qualifier := by
  rw [OrderedSet.isEmpty_iff]
  constructor
  · intro nothing frames column refers
    rcases refers.needed built with needed | provided | resolved
    · rw [Part.needs, nothing] at needed
      cases needed
    · cases provided
    · exact resolved
  · intro resolved table
    rw [← Bool.not_eq_true]
    intro needed
    obtain ⟨frames, column, refers, rfl, outside⟩ := Part.refers_of_needed _ built needed
    exact outside (resolved frames column refers)

/-- A column in a built definition is provided by a select of the definition. -/
theorem Part.Built.resolves_of_mem_selects {definition : Cte} (built : (Part.cte definition).Built)
    {select : Select} (mem : select ∈ definition.selects) {frames : List Frame} {column : Column}
    (refers : (Part.select select).Refers frames column) : Resolves frames column.qualifier := by
  have selectBuilt := built.of_mem_children (List.mem_map_of_mem mem)
  have closed := built.unresolvedTables_of_mem_selects mem
  rcases refers.needed selectBuilt with needed | provided | resolved
  · rw [Part.needs_select, OrderedSet.isEmpty_iff.1 closed] at needed
    cases needed
  · cases provided
  · exact resolved

namespace Insert

variable {insert : Insert}

/-- An `INSERT` has a target. -/
theorem exists_target (ordered : (Statement.insert insert).Ordered) :
    ∃ target, .target .insertInto target ∈ insert.clauses := by
  obtain ⟨head, mem, rank⟩ := ordered.headed
  have allowed := ordered.allowed head mem
  cases head with
  | target kind target =>
      cases kind with
      | insertInto => exact ⟨target, mem⟩
      | update | deleteFrom => cases allowed
  | columns => cases allowed
  | limit kind count => cases kind <;> cases rank
  | _ => cases rank

/-- An `INSERT` provides its target and no other table. -/
theorem eq_of_mem_identities (ordered : (Statement.insert insert).Ordered) {target : Table}
    (isTarget : .target .insertInto target ∈ insert.clauses) {table : String}
    (provided : table ∈ (Statement.insert insert).identities) : table = target.identity := by
  obtain ⟨clause, mem, inClause⟩ := List.mem_flatMap.1 provided
  cases clause with
  | target kind other =>
      obtain ⟨-, rfl⟩ := Clause.target.inj (ordered.eq_of_rank_eq mem isTarget rfl)
      exact List.mem_singleton.1 inClause
  | source kind source =>
      have allowed := ordered.allowed _ mem
      cases kind <;> cases allowed
  | _ => cases inClause

/-- The values of an accepted `INSERT` need no table but its target.  A column in them is one of the
target, if no select inside of the value provides its table, and without such a column nothing
is needed.  Definitions in a value provide all that is read in them. -/
theorem values_read_target (built : (Part.statement (.insert insert)).Built)
    (prepared : (Statement.insert insert).checkPrepare = .ok ()) :
    ∃ target, .target .insertInto target ∈ insert.clauses
      ∧ ∀ content, .values content ∈ insert.clauses → ∀ value, .expr value ∈ content.parts →
        (∀ table, value.needs.tables.contains table = true → table = target.identity)
          ∧ (∀ frames column, (Part.expr value).Refers frames column →
            Resolves frames column.qualifier ∨ column.qualifier = target.identity)
          ∧ (value.needs.tables.isEmpty = true
            ↔ ∀ frames column, (Part.expr value).Refers frames column →
              Resolves frames column.qualifier)
          ∧ ∀ definition, (Part.expr value).Contains (.cte definition) →
            ∀ select ∈ definition.selects, ∀ frames column,
              (Part.select select).Refers frames column → Resolves frames column.qualifier := by
  have ordered := Statement.ordered_of_built built
  obtain ⟨target, isTarget⟩ := exists_target ordered
  refine ⟨target, isTarget, fun content mem value valueMem => ?_⟩
  have valueBuilt : (Part.expr value).Built :=
    built.of_mem_children (List.mem_flatMap.2 ⟨_, mem, valueMem⟩)
  have needsTarget (table : String) (needed : (Part.expr value).needs.contains table = true) :
      table = target.identity := by
    have stands : (Part.statement (.insert insert)).Stands
        ([] ++ [⟨.insert insert, .values content⟩]) (.expr value) :=
      .statement mem valueMem (.refl _)
    have resolved := Statement.IsRoot.self.resolves built prepared stands needed
    rw [List.nil_append, resolves_singleton] at resolved
    exact eq_of_mem_identities ordered isTarget resolved
  refine ⟨needsTarget, ?_, Expr.needs_isEmpty_iff valueBuilt, ?_⟩
  · intro frames column refers
    rcases refers.needed valueBuilt with needed | provided | resolved
    · exact .inr (needsTarget _ needed)
    · cases provided
    · exact .inl resolved
  · intro definition contains select selectMem frames column refers
    exact (valueBuilt.of_contains contains).resolves_of_mem_selects selectMem refers

/-- The `INSERT` that gives the number of `foo` the number of `foo`. -/
def ownId : Insert where
  clauses :=
    [.target .insertInto (.ofId "foo"),
      .values (.set [.static ⟨.ofId "foo", some (.column (.ofId "foo"))⟩])]

theorem ownId_built : (Part.statement (.insert ownId)).Built := by
  have startedBuilt : (Part.statement (.insert (start none (.ofId "foo")))).Built := by
    refine .made (.insert (.ofId "foo") With.areMade_none) ?_
    rw [With.parts, With.clauses, List.flatMap_nil, List.forall_mem_singleton]
    exact Table.ofId_built "foo"
  let assignments : List (Entry Assignment) :=
    [.static ⟨.ofId "foo", some (.column (.ofId "foo"))⟩]
  have assigned : ∀ assignment ∈ assignments, assignment.value.IsMade := by
    rw [List.forall_mem_singleton]
    exact .inl ⟨.column (.ofId "foo"), rfl⟩
  have made : (start none (.ofId "foo")).set assignments = .ok ownId := rfl
  refine .made (.insertSet assigned made) ?_
  simp only [assignments, Assignment.arguments, Assignment.entriesParts, Entry.static,
    List.map_singleton, List.flatMap_singleton, Option.toList_some, List.singleton_append,
    List.forall_mem_cons]
  exact ⟨startedBuilt, Column.ofId_built "foo", Column.ofId_built "foo", List.forall_mem_nil _⟩

theorem ownId_prepared : (Statement.insert ownId).checkPrepare = .ok () := by rfl

/-- The value needs `foo`, which is the target. -/
theorem ownId_needs_target :
    (Part.statement (.insert ownId)).Built ∧ (Statement.insert ownId).checkPrepare = .ok ()
      ∧ ∀ table, (Expr.column (.ofId "foo")).needs.tables.contains table = true →
        table = "foo" := by
  refine ⟨ownId_built, ownId_prepared, ?_⟩
  obtain ⟨target, isTarget, reads⟩ := values_read_target ownId_built ownId_prepared
  rcases List.mem_cons.1 isTarget with same | isValues
  · cases same
    exact (reads _ (.tail _ (.head _)) _ (.head _)).1
  · cases List.mem_singleton.1 isValues

/-- The `INSERT` is accepted and written, and its value reads a column of the target. -/
theorem ownId_reads_target :
    (¬ ∀ insert : Insert, (Part.statement (.insert insert)).Built →
        (Statement.insert insert).checkPrepare = .ok () →
        ∀ content, .values content ∈ insert.clauses → ∀ value, .expr value ∈ content.parts →
          value.needs.tables.isEmpty = true)
      ∧ (Statement.insert ownId).text.toOption
        = some "INSERT INTO foo (id) VALUES (foo.id)" := by
  refine ⟨fun closed => ?_, by decide⟩
  have isEmpty := closed ownId ownId_built ownId_prepared _ (.tail _ (.head _)) _ (.head _)
  cases isEmpty

end Insert

end CheckedSql
