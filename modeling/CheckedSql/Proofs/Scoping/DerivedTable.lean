import CheckedSql.Proofs.Scoping.Resolution

/-!
# Selects used as tables

A select used as a table cannot read the tables next to it.  Of the tables it needs
from outside, none should be provided by its own clause or by the target of its
statement.

The calls see to that for joins: the sides of a join need nothing.  A select that
stands in `FROM` or `USING` alone is not looked at.  The sets of the check then let
it read its own name, or the target of a `DELETE`.  `Statement.derivedTablesClosed_iff`
says that this is the only way.
-/

namespace CheckedSql

/-- No select used as a table of a statement reads a table that the statement provides. -/
def Statement.DerivedTablesClosed (statement : Statement) : Prop :=
  ∀ kind table derived, .source kind table ∈ statement.clauses →
    (Part.tableRef table).Stands [] (.tableRef (.subSelect derived)) →
    ∀ frames column, (Part.select derived.select).Refers frames column →
      Resolves frames column.qualifier ∨ column.qualifier ∉ statement.identities

/-! ## Tables in table references -/

/-- Without a statement in between, table references stand in table references only. -/
theorem Part.Stands.exists_tableRef {outer : Part} {table : TableRef}
    (stands : outer.Stands [] (.tableRef table)) : ∃ ref, outer = .tableRef ref := by
  generalize sameFrames : [] = frames at stands
  generalize sameInner : Part.tableRef table = inner at stands
  induction stands with
  | refl => exact ⟨table, sameInner.symm⟩
  | expr mem _ ih =>
      obtain ⟨ref, rfl⟩ := ih sameFrames sameInner
      rcases List.mem_append.1 mem with isExpr | isSelect
      · obtain ⟨inner, -, same⟩ := List.mem_map.1 isExpr
        cases same
      · obtain ⟨inner, -, same⟩ := List.mem_map.1 isSelect
        cases same
  | @tableRef ref => exact ⟨ref, rfl⟩
  | statement => simp at sameFrames

/-- A table reference needs what the table references in it need. -/
theorem TableRef.contains_needs_of_stands {outer inner : TableRef} {table : String}
    (stands : (Part.tableRef outer).Stands [] (.tableRef inner))
    (needed : inner.names.needs.tables.contains table = true) :
    outer.names.needs.tables.contains table = true := by
  generalize sameOuter : Part.tableRef outer = part at stands
  generalize sameFrames : [] = frames at stands
  generalize sameInner : Part.tableRef inner = innerPart at stands
  induction stands generalizing outer with
  | refl =>
      subst sameInner
      cases sameOuter
      exact needed
  | expr => cases sameOuter
  | @tableRef ref part _ _ mem stands ih =>
      subst sameFrames sameInner
      cases sameOuter
      obtain ⟨side, rfl⟩ := stands.exists_tableRef
      have sideNeeds := ih rfl rfl rfl
      cases ref with
      | table => cases mem
      | cte => cases mem
      | subSelect => simp [parts] at mem
      | join left kind right condition? =>
          obtain ⟨presence, right⟩ := right
          simp only [names, JoinKind.names, OrderedSet.contains_union, Bool.or_eq_true]
          simp only [parts, List.mem_cons, List.mem_map, Option.mem_toList, Part.tableRef.injEq,
            reduceCtorEq, and_false, exists_false, or_false] at mem
          rcases mem with rfl | rfl
          · exact .inl sideNeeds
          · exact .inr sideNeeds
  | statement => simp at sameFrames

/-- A built table reference that a select stands in is that select, or it needs nothing. -/
theorem TableRef.eq_or_contains_needs {outer : TableRef} {derived : SubSelect}
    (built : (Part.tableRef outer).Built)
    (stands : (Part.tableRef outer).Stands [] (.tableRef (.subSelect derived))) :
    outer = .subSelect derived ∨ ∀ table, outer.names.needs.tables.contains table = false := by
  cases outer with
  | join left kind right condition? =>
      exact .inr fun table => contains_needs_of_built_join built
  | table | cte =>
      obtain ⟨frames, stands⟩ : ∃ frames, Part.Stands _ frames _ := ⟨_, stands⟩
      cases stands with
      | tableRef mem _ => cases mem
  | subSelect other =>
      generalize sameFrames : [] = frames at stands
      cases stands with
      | refl => exact .inl rfl
      | tableRef mem stands =>
          subst sameFrames
          obtain ⟨ref, rfl⟩ := stands.exists_tableRef
          simp [parts] at mem

/-! ## What the check sees to -/

namespace Statement

variable {statement : Statement}

/-- Selects used as tables are closed exactly if those without a join need no table that the
statement provides. -/
theorem derivedTablesClosed_iff_of_built (built : (Part.statement statement).Built) :
    statement.DerivedTablesClosed
      ↔ ∀ kind derived, .source kind (.subSelect derived) ∈ statement.clauses →
        ∀ table, derived.select.unresolvedTables.contains table = true →
          table ∉ statement.identities := by
  have derivedBuilt {kind : SourceKind} {table : TableRef} {derived : SubSelect}
      (mem : .source kind table ∈ statement.clauses)
      (stands : (Part.tableRef table).Stands [] (.tableRef (.subSelect derived))) :
      (Part.tableRef table).Built ∧ (Part.select derived.select).Built := by
    have tableBuilt := built.of_mem_children (List.mem_flatMap.2 ⟨_, mem, .head _⟩)
    exact ⟨tableBuilt, (tableBuilt.of_contains stands.contains).of_mem_children (.head _)⟩
  constructor
  · intro closed kind derived mem table needed provided
    have selectBuilt := (derivedBuilt mem (.refl _)).2
    rw [← Part.needs_select] at needed
    obtain ⟨frames, column, refers, rfl, notResolved⟩ := Part.refers_of_needed _ selectBuilt needed
    rcases closed kind _ derived mem (.refl _) frames column refers with resolved | notProvided
    · exact notResolved resolved
    · exact notProvided provided
  · intro closed kind table derived mem stands frames column refers
    obtain ⟨tableBuilt, selectBuilt⟩ := derivedBuilt mem stands
    rcases refers.needed selectBuilt with needed | provided | resolved
    · refine .inr ?_
      rcases TableRef.eq_or_contains_needs tableBuilt stands with rfl | needsNothing
      · rw [Part.needs_select] at needed
        exact closed kind derived mem _ needed
      · rw [← Part.needs_subSelect] at needed
        have outerNeeds := TableRef.contains_needs_of_stands stands needed
        rw [needsNothing] at outerNeeds
        cases outerNeeds
    · cases provided
    · exact .inl resolved

/-- In a statement that can run by itself, selects used as tables are closed exactly if those
without a join need no table at all.  In the statements inside of it they are closed exactly if
those without a join need no table of their own statement. -/
theorem derivedTablesClosed_iff (built : (Part.statement statement).Built)
    (prepared : statement.checkPrepare = .ok ()) :
    (statement.DerivedTablesClosed
        ↔ ∀ kind derived, .source kind (.subSelect derived) ∈ statement.clauses →
          derived.select.unresolvedTables.isEmpty = true)
      ∧ ∀ inner, (Part.statement statement).Contains (.statement inner) →
        (inner.DerivedTablesClosed
          ↔ ∀ kind derived, .source kind (.subSelect derived) ∈ inner.clauses →
            ∀ table, derived.select.unresolvedTables.contains table = true →
              table ∉ inner.identities) := by
  refine ⟨?_, fun inner contains => derivedTablesClosed_iff_of_built (built.of_contains contains)⟩
  rw [derivedTablesClosed_iff_of_built built]
  constructor
  · intro closed kind derived mem
    rw [OrderedSet.isEmpty_iff]
    intro table
    rw [← Bool.not_eq_true]
    intro needed
    refine closed kind derived mem table needed ?_
    -- the check has found the table among those of the statement
    have isNeeded : (Part.tableRef (.subSelect derived)).needs.contains table = true := by
      rwa [Part.needs_subSelect, Part.needs_select]
    have stands : (Part.statement statement).Stands _ (.tableRef (.subSelect derived)) :=
      .statement mem (.head _) (.refl _)
    have resolved := IsRoot.self.resolves built prepared stands isNeeded
    rwa [List.nil_append, resolves_singleton] at resolved
  · intro needNothing kind derived mem table needed
    rw [OrderedSet.isEmpty_iff.1 (needNothing kind derived mem)] at needed
    cases needed

/-- A select of `foo.id` from nowhere, used as a table that is called `foo`. -/
def fromItself : SubSelect := ⟨.ofColumn "foo", "foo", (Select.ofColumn "foo").fields⟩

/-- A select from that table. -/
def selectFromItself : Select where
  clauses :=
    [.columns false [.static ⟨.value (.int 1), "one", true⟩], .source .from (.subSelect fromItself)]

theorem selectFromItself_built : (Part.select selectFromItself).Built := by
  have derived : (Part.tableRef (.subSelect fromItself)).Built := by
    have named : (Select.ofColumn "foo").as "foo" = .ok fromItself := rfl
    refine .made (.subSelect named) ?_
    rw [List.forall_mem_singleton]
    exact Select.ofColumn_built "foo"
  let columns : List (Entry SelectColumn) := [.static ⟨.value (.int 1), "one", true⟩]
  have named : ∀ column ∈ columns, column.value.IsMade := by
    rw [List.forall_mem_singleton]
    exact .inl rfl
  have columnsBuilt : ∀ column ∈ columns, (Part.expr column.value.expr).Built := by
    rw [List.forall_mem_singleton]
    exact .made (.value (.int 1)) (by simp)
  exact Select.built_of_start_from named columnsBuilt derived rfl

theorem selectFromItself_prepared : (select selectFromItself).checkPrepare = .ok () := by rfl

/-- The table of `selectFromItself` needs a table, so it is not closed. -/
theorem selectFromItself_not_closed :
    (select selectFromItself).checkPrepare = .ok ()
      ∧ ¬ (select selectFromItself).DerivedTablesClosed := by
  refine ⟨selectFromItself_prepared, ?_⟩
  rw [(derivedTablesClosed_iff selectFromItself_built selectFromItself_prepared).1]
  intro needNothing
  have isEmpty := needNothing .from fromItself (.tail _ (.head _))
  have isNotEmpty : fromItself.select.unresolvedTables.isEmpty = false := by rfl
  rw [isNotEmpty] at isEmpty
  cases isEmpty

/-- A built and accepted select reads from a select used as a table, and that one reads the name it
is given itself. -/
theorem selectFromItself_accepted :
    (Part.select selectFromItself).Built ∧ (select selectFromItself).checkPrepare = .ok ()
      ∧ .source .from (.subSelect fromItself) ∈ selectFromItself.clauses
      ∧ ∃ frames column, (Part.select fromItself.select).Refers frames column
        ∧ ¬ Resolves frames column.qualifier
        ∧ column.qualifier ∈ (select selectFromItself).identities := by
  refine ⟨selectFromItself_built, selectFromItself_prepared, .tail _ (.head _), ?_⟩
  refine ⟨_, .ofId "foo", .statement (.head _) (.head _) (.refl _), ?_, .head _⟩
  rintro ⟨frame, mem, provided⟩
  rw [List.nil_append, List.mem_singleton] at mem
  subst mem
  cases provided

end Statement

end CheckedSql
