import CheckedSql.Proofs.Built.Children
import CheckedSql.Proofs.Scoping.Needs

/-!
# Accounting of tables

The sets of needed tables are exact.  The table of a column that a part reads is
needed by the part, unless a frame between the two provides it (`Part.Refers.needed`),
and a table that a part needs is read by some column of it that no frame in between
provides it for (`Part.refers_of_needed`).  Joins are the reason that both hold of
built parts only: a join does not need what its condition reads, since the call that
made it has compared the condition with the two sides.
-/

namespace CheckedSql

variable {table : String}

/-- A built definition needs no table. -/
theorem Cte.contains_needs_of_built {definition : Cte} (built : (Part.cte definition).Built) :
    definition.needs.tables.contains table = false := by
  have closed : ¬ Part.AnyNeeds (definition.selects.map .select) table := by
    rintro ⟨part, mem, needed⟩
    obtain ⟨select, selectMem, rfl⟩ := List.mem_map.1 mem
    have isEmpty := built.unresolvedTables_of_mem_selects selectMem
    rw [Part.needs_select, OrderedSet.isEmpty_iff.1 isEmpty] at needed
    cases needed
  rw [← Bool.not_eq_true, contains_needs]
  exact closed

/-- A built join needs no table. -/
theorem TableRef.contains_needs_of_built_join {left : TableRef} {kind : JoinKind}
    {right : Entry TableRef} {condition? : Option Expr}
    (built : (Part.tableRef (.join left kind right condition?)).Built) :
    (join left kind right condition?).names.needs.tables.contains table = false := by
  obtain ⟨leftCloses, rightCloses, -⟩ := built.join
  obtain ⟨presence, right⟩ := right
  have leftNeeds := OrderedSet.isEmpty_iff.1 leftCloses table
  have rightNeeds := OrderedSet.isEmpty_iff.1 rightCloses table
  simp [names, JoinKind.names, leftNeeds, rightNeeds]

/-- What the condition of a built join needs is provided by the sides. -/
theorem TableRef.provided_of_needed_join {left : TableRef} {kind : JoinKind}
    {right : Entry TableRef} {condition? : Option Expr} {part : Part}
    (built : (Part.tableRef (.join left kind right condition?)).Built)
    (mem : part ∈ (join left kind right condition?).parts)
    (needed : part.needs.contains table = true) :
    table ∈ (join left kind right condition?).identities := by
  obtain ⟨leftCloses, rightCloses, canJoin⟩ := built.join
  simp only [parts, List.mem_cons, List.mem_map, Option.mem_toList] at mem
  rcases mem with rfl | rfl | ⟨condition, found, rfl⟩
  · rw [Part.needs, OrderedSet.isEmpty_iff.1 leftCloses] at needed
    cases needed
  · rw [Part.needs, OrderedSet.isEmpty_iff.1 rightCloses] at needed
    cases needed
  · have provided := OrderedSet.isSubsetOf_iff.1 (canJoin condition found).tables table needed
    rw [OrderedSet.contains_union, Bool.or_eq_true, contains_names_tables,
      contains_names_tables] at provided
    exact List.mem_append.2 provided

/-- The parts of an expression provide no table. -/
theorem Expr.identities_of_mem_parts {expr : Expr} {part : Part} (mem : part ∈ expr.parts) :
    part.identities = [] := by
  rcases List.mem_append.1 mem with inner | select
  · obtain ⟨inner, -, rfl⟩ := List.mem_map.1 inner
    rfl
  · obtain ⟨select, -, rfl⟩ := List.mem_map.1 select
    rfl

/-- A table reference provides what its parts provide. -/
theorem TableRef.identities_of_mem_parts {ref : TableRef} {part : Part} (mem : part ∈ ref.parts)
    (provided : table ∈ part.identities) : table ∈ ref.identities := by
  cases ref with
  | table => cases mem
  | cte => cases mem
  | subSelect derived =>
      obtain rfl := List.mem_singleton.1 mem
      cases provided
  | join left kind right condition? =>
      simp only [parts, List.mem_cons, List.mem_map, Option.mem_toList] at mem
      rcases mem with rfl | rfl | ⟨condition, -, rfl⟩
      · exact List.mem_append_left _ provided
      · exact List.mem_append_right _ provided
      · cases provided

/-- A clause provides what its parts provide. -/
theorem Clause.identities_of_mem_parts {clause : Clause} {part : Part}
    (mem : part ∈ clause.parts) (provided : table ∈ part.identities) :
    table ∈ clause.identities := by
  cases part with
  | tableRef ref =>
      cases clause with
      | source kind source =>
          obtain ⟨rfl⟩ := List.mem_singleton.1 mem
          exact provided
      | set assignments => simp [parts, Assignment.entriesParts] at mem
      | values content =>
          cases content <;> simp [parts, InsertValues.parts, Assignment.entriesParts] at mem
      | onConflict keys action =>
          cases action <;> simp [parts, ConflictAction.parts, Assignment.entriesParts] at mem
      | _ => simp [parts] at mem
  | _ => cases provided

/-- What stands in a part makes the part need its tables, unless the part or a frame provides
them. -/
theorem Part.Stands.needed {outer inner : Part} {frames : List Frame}
    (stands : outer.Stands frames inner) (built : outer.Built)
    (needed : inner.needs.contains table = true) :
    outer.needs.contains table = true ∨ table ∈ outer.identities ∨ Resolves frames table := by
  induction stands with
  | refl => exact .inl needed
  | @expr expr part inner frames mem _ ih =>
      rcases ih (built.of_mem_children mem) needed with needed | provided | resolved
      · refine .inl ?_
        rw [Part.needs, Expr.contains_needs]
        exact .inr ⟨part, mem, needed⟩
      · rw [Expr.identities_of_mem_parts mem] at provided
        cases provided
      · exact .inr (.inr resolved)
  | @tableRef ref part inner frames mem _ ih =>
      rcases ih (built.of_mem_children mem) needed with needed | provided | resolved
      · cases ref with
        | table => cases mem
        | cte => cases mem
        | subSelect derived =>
            obtain rfl := List.mem_singleton.1 mem
            exact .inl (by rwa [Part.needs_subSelect])
        | join left kind right condition? =>
            exact .inr (.inl (TableRef.provided_of_needed_join built mem needed))
      · exact .inr (.inl (TableRef.identities_of_mem_parts mem provided))
      · exact .inr (.inr resolved)
  | @statement statement clause part inner frames clauseMem mem _ ih =>
      have ordered := Statement.ordered_of_built built
      have childMem : part ∈ (Part.statement statement).children :=
        List.mem_flatMap.2 ⟨clause, clauseMem, mem⟩
      simp only [resolves_append, resolves_singleton]
      rcases ih (built.of_mem_children childMem) needed with needed | provided | resolved
      · by_cases provided : table ∈ statement.identities
        · exact .inr (.inr (.inr provided))
        · refine .inl ((Statement.contains_needs ordered).2 ⟨?_, provided⟩)
          exact ⟨clause, clauseMem, part, mem, needed⟩
      · refine .inr (.inr (.inr ?_))
        exact List.mem_flatMap.2 ⟨clause, clauseMem, Clause.identities_of_mem_parts mem provided⟩
      · exact .inr (.inr (.inl resolved))

theorem Part.needs_column (column : Column) :
    (Part.column column).needs.contains column.qualifier = true := by
  rw [needs, Expr.contains_needs]
  exact .inl ⟨column, rfl, rfl⟩

/-- A part needs the table of a column that it reads, unless the part or a frame provides it. -/
theorem Part.Refers.needed {part : Part} {frames : List Frame} {column : Column}
    (refers : part.Refers frames column) (built : part.Built) :
    part.needs.contains column.qualifier = true ∨ column.qualifier ∈ part.identities
      ∨ Resolves frames column.qualifier := by
  exact Stands.needed refers built (needs_column column)

/-- A needed table is read by some column, and no frame in between provides it. -/
theorem Part.refers_of_needed (part : Part) :
    part.Built → part.needs.contains table = true →
      ∃ frames column, part.Refers frames column ∧ column.qualifier = table
        ∧ ¬ Resolves frames table := by
  induction part using Part.induction with
  | step part ih =>
      intro built needed
      cases part with
      | expr expr =>
          rw [Part.needs, Expr.contains_needs] at needed
          rcases needed with ⟨column, rfl, same⟩ | ⟨part, mem, needed⟩
          · exact ⟨[], column, .refl _, same, by simp⟩
          · obtain ⟨frames, column, refers, same, outside⟩ :=
              ih part mem (built.of_mem_children mem) needed
            exact ⟨frames, column, .expr mem refers, same, outside⟩
      | statement statement =>
          have ordered := Statement.ordered_of_built built
          obtain ⟨⟨clause, clauseMem, part, mem, needed⟩, notProvided⟩ :=
            (Statement.contains_needs ordered).1 needed
          have childMem : part ∈ (Part.statement statement).children :=
            List.mem_flatMap.2 ⟨clause, clauseMem, mem⟩
          obtain ⟨frames, column, refers, same, outside⟩ :=
            ih part childMem (built.of_mem_children childMem) needed
          refine ⟨_, column, .statement clauseMem mem refers, same, ?_⟩
          simp only [resolves_append, resolves_singleton, not_or]
          exact ⟨outside, notProvided⟩
      | tableRef ref =>
          cases ref with
          | table declared => simp [Part.needs, TableRef.names] at needed
          | cte reference => simp [Part.needs, TableRef.names, Needs.ofCte] at needed
          | subSelect derived =>
              rw [Part.needs_subSelect] at needed
              obtain ⟨frames, column, refers, same, outside⟩ :=
                ih (.select derived.select) (.head _) (built.of_mem_children (.head _)) needed
              exact ⟨frames, column, .tableRef (.head _) refers, same, outside⟩
          | join left kind right condition? =>
              rw [Part.needs, TableRef.contains_needs_of_built_join built] at needed
              cases needed
      | cte definition =>
          rw [Part.needs, Cte.contains_needs_of_built built] at needed
          cases needed

end CheckedSql
