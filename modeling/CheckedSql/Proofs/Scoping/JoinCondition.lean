import CheckedSql.Proofs.Scoping.Accounting

/-!
# Conditions of joins that are written

The condition of a static join is always written, although a dynamic join next to it may
be left out together with its tables.  So the call that makes a static join compares its
condition with the tables of the left side that may be absent.  It does not look at the
right side, where a join may stand as well.

`TableRef.conditionsAreClosed_iff` says that nothing else is missing: with all dynamic
joins inactive, the written conditions read written tables only exactly if the condition
of no written static join reads a table that may be absent from the right side.
-/

namespace CheckedSql

/-! ## What is written of joins -/

/-- A table reference is written as a part of the joins of another one. -/
inductive TableRef.Writes : TableRef → TableRef → Prop where
  | refl (table : TableRef) : Writes table table
  | left {left inner : TableRef} {kind : JoinKind} {right : Entry TableRef}
      {condition? : Option Expr} :
      Writes left inner → Writes (.join left kind right condition?) inner
  | right {left inner : TableRef} {kind : JoinKind} {right : Entry TableRef}
      {condition? : Option Expr} :
      right.isActive = true → Writes right.value inner →
      Writes (.join left kind right condition?) inner

/-- The identities of the tables that are written of a table reference. -/
def TableRef.writtenIdentities : TableRef → List String
  | join left _ ⟨presence, right⟩ _ =>
      left.writtenIdentities ++ if presence.isActive then right.writtenIdentities else []
  | reference => reference.identities

/-- All dynamic joins that are reached through written ones are inactive. -/
def TableRef.DynamicJoinsAreInactive (table : TableRef) : Prop :=
  ∀ left kind right condition?, table.Writes (.join left kind right condition?) →
    right.isStatic = false → right.isActive = false

/-- An expression reads a table even if the dynamic operands in it are left out.  As in the static
needs of an expression, a select counts with all that is in it. -/
inductive Expr.AlwaysReads (table : String) : Expr → Prop where
  | column {column : Column} : column.qualifier = table → AlwaysReads table (.column column)
  | operand {connective : Connective} {operands : List (Entry Expr)} {operand : Expr} :
      operand ∈ staticValues operands → AlwaysReads table operand →
      AlwaysReads table (.chain connective operands)
  | child {expr inner : Expr} : (∀ connective operands, expr ≠ .chain connective operands) →
      inner ∈ expr.children → AlwaysReads table inner → AlwaysReads table expr
  | select {expr : Expr} {select : Select} {frames : List Frame} {column : Column} :
      expr.select? = some select → (Part.select select).Refers frames column →
      column.qualifier = table → ¬ Resolves frames table → AlwaysReads table expr

/-- Every condition that is written reads tables only that are written. -/
def TableRef.ConditionsAreClosed (table : TableRef) : Prop :=
  ∀ left kind right condition, table.Writes (.join left kind right (some condition)) →
    right.isActive = true →
    ∀ name, condition.AlwaysReads name → name ∈ table.writtenIdentities

/-! ## Reading and needing -/

/-- A built expression needs what it always reads. -/
theorem Expr.AlwaysReads.needed {table : String} {expr : Expr} (reads : expr.AlwaysReads table)
    (built : (Part.expr expr).Built) : expr.needs.tables.contains table = true := by
  induction reads with
  | column same => exact (Expr.contains_needs _).2 (.inl ⟨_, rfl, same⟩)
  | @operand connective operands operand mem _ ih =>
      obtain ⟨entry, entryMem, rfl⟩ := List.mem_map.1 mem
      have childMem : Part.expr entry.value ∈ (Expr.chain connective operands).parts :=
        List.mem_append_left _ (List.mem_map_of_mem
          (List.mem_map_of_mem (List.mem_filter.1 entryMem).1))
      have needed := ih (built.of_mem_children childMem)
      exact (Expr.contains_needs _).2 (.inr ⟨_, childMem, needed⟩)
  | @child expr inner _ mem _ ih =>
      have childMem : Part.expr inner ∈ expr.parts :=
        List.mem_append_left _ (List.mem_map_of_mem mem)
      have needed := ih (built.of_mem_children childMem)
      exact (Expr.contains_needs _).2 (.inr ⟨_, childMem, needed⟩)
  | @select expr select frames column found refers same outside =>
      have childMem : Part.select select ∈ expr.parts :=
        List.mem_append_right _ (List.mem_map_of_mem (Option.mem_toList.2 found))
      subst same
      rcases refers.needed (built.of_mem_children childMem) with needed | provided | resolved
      · exact (Expr.contains_needs _).2 (.inr ⟨_, childMem, needed⟩)
      · cases provided
      · exact absurd resolved outside

namespace TableRef

variable {outer inner table left : TableRef} {kind : JoinKind} {right : Entry TableRef}
  {condition? : Option Expr} {name : String}

/-! ## Written and provided tables -/

theorem identities_join :
    (join left kind right condition?).identities = left.identities ++ right.value.identities := by
  cases right
  rw [identities]

theorem writtenIdentities_join :
    (join left kind right condition?).writtenIdentities
      = left.writtenIdentities
        ++ if right.isActive then right.value.writtenIdentities else [] := by
  cases right
  rw [writtenIdentities]
  rfl

theorem writtenIdentities_subset (table : TableRef) :
    table.writtenIdentities ⊆ table.identities := by
  induction table using writtenIdentities.induct with
  | case1 left kind presence right condition? leftIh rightIh =>
      rw [writtenIdentities_join, identities_join]
      refine List.append_subset.2 ⟨List.subset_append_of_subset_left _ leftIh, ?_⟩
      split
      · exact List.subset_append_of_subset_right _ rightIh
      · exact List.nil_subset _
  | case2 table notJoin =>
      rw [writtenIdentities]
      · exact List.Subset.refl _
      · exact notJoin

/-- The written tables of a written part are written. -/
theorem Writes.writtenIdentities_subset (writes : outer.Writes inner) :
    inner.writtenIdentities ⊆ outer.writtenIdentities := by
  induction writes with
  | refl => exact List.Subset.refl _
  | left _ ih =>
      rw [writtenIdentities_join]
      exact List.subset_append_of_subset_left _ ih
  | right active _ ih =>
      rw [writtenIdentities_join, if_pos active]
      exact List.subset_append_of_subset_right _ ih

theorem Writes.identities_subset (writes : outer.Writes inner) :
    inner.identities ⊆ outer.identities := by
  induction writes with
  | refl => exact List.Subset.refl _
  | left _ ih =>
      rw [identities_join]
      exact List.subset_append_of_subset_left _ ih
  | right _ _ ih =>
      rw [identities_join]
      exact List.subset_append_of_subset_right _ ih

/-- What stands in a built table reference was built. -/
theorem Writes.built (writes : outer.Writes inner) (built : (Part.tableRef outer).Built) :
    (Part.tableRef inner).Built := by
  induction writes with
  | refl => exact built
  | left _ ih => exact ih (built.of_mem_children (.head _))
  | right _ _ ih => exact ih (built.of_mem_children (.tail _ (.head _)))

/-- A table that a written part provides is written there if it is written at all: the sides of
joins provide different tables. -/
theorem Writes.mem_writtenIdentities (writes : outer.Writes inner)
    (built : (Part.tableRef outer).Built) (provided : name ∈ inner.identities)
    (written : name ∈ outer.writtenIdentities) : name ∈ inner.writtenIdentities := by
  induction writes with
  | refl => exact written
  | @left left inner kind right condition? writes ih =>
      refine ih (built.of_mem_children (.head _)) provided ?_
      have disjoint := built.join_disjoint name
      simp only [contains_names_tables] at disjoint
      rw [writtenIdentities_join] at written
      rcases List.mem_append.1 written with inLeft | inRight
      · exact inLeft
      · split at inRight
        · have providedRight := right.value.writtenIdentities_subset inRight
          exact absurd ⟨writes.identities_subset provided, providedRight⟩ disjoint
        · cases inRight
  | @right left inner kind right condition? active writes ih =>
      refine ih (built.of_mem_children (.tail _ (.head _))) provided ?_
      have disjoint := built.join_disjoint name
      simp only [contains_names_tables] at disjoint
      rw [writtenIdentities_join, if_pos active] at written
      rcases List.mem_append.1 written with inLeft | inRight
      · have providedLeft := left.writtenIdentities_subset inLeft
        exact absurd ⟨providedLeft, writes.identities_subset provided⟩ disjoint
      · exact inRight

/-! ## Inactive joins -/

theorem Writes.trans {middle : TableRef} (first : outer.Writes middle)
    (second : middle.Writes inner) : outer.Writes inner := by
  induction first with
  | refl => exact second
  | left _ ih => exact .left (ih second)
  | right active _ ih => exact .right active (ih second)

theorem DynamicJoinsAreInactive.of_writes (inactive : outer.DynamicJoinsAreInactive)
    (writes : outer.Writes inner) : inner.DynamicJoinsAreInactive := by
  intro left kind right condition? innerWrites
  exact inactive left kind right condition? (writes.trans innerWrites)

/-- With all dynamic joins inactive, the tables that are always there are those that are written. -/
theorem DynamicJoinsAreInactive.contains_staticTables
    (inactive : table.DynamicJoinsAreInactive) :
    table.names.staticTables.contains name = true ↔ name ∈ table.writtenIdentities := by
  induction table using writtenIdentities.induct with
  | case1 left kind presence right condition? leftIh rightIh =>
      have leftEq := leftIh (inactive.of_writes (.left (.refl left)))
      cases presence with
      | static =>
          have rightEq := rightIh (inactive.of_writes (.right rfl (.refl right)))
          simp [names, JoinKind.names, Presence.isStatic, writtenIdentities, Presence.isActive,
            leftEq, rightEq]
      | dynamic active =>
          have isInactive : active = false := inactive _ _ _ _ (.refl _) rfl
          simp [names, JoinKind.names, Presence.isStatic, writtenIdentities, Presence.isActive,
            leftEq, isInactive]
  | case2 table notJoin =>
      cases table with
      | table | cte => simp [names, Names.ofTable, writtenIdentities, identities, @eq_comm _ name]
      | subSelect derived =>
          cases derived
          simp [names, Names.ofTable, writtenIdentities, identities, @eq_comm _ name]
      | join left kind right condition? => exact absurd rfl (notJoin left kind _ _ condition?)

theorem DynamicJoinsAreInactive.contains_dynamicTables
    (inactive : table.DynamicJoinsAreInactive) :
    table.dynamicTables.contains name = true
      ↔ name ∈ table.identities ∧ name ∉ table.writtenIdentities := by
  rw [dynamicTables, OrderedSet.contains_difference, Bool.and_eq_true, contains_names_tables,
    Bool.not_eq_true', ← Bool.not_eq_true, inactive.contains_staticTables]

/-- With all dynamic joins inactive, the written conditions read written tables only exactly if
that of no written static join reads a table that may be absent from the right side. -/
theorem conditionsAreClosed_iff (built : (Part.tableRef table).Built)
    (inactive : table.DynamicJoinsAreInactive) :
    table.ConditionsAreClosed
      ↔ ∀ left kind right condition, table.Writes (.join left kind right (some condition)) →
        right.isStatic = true → ∀ name, condition.AlwaysReads name →
          right.value.dynamicTables.contains name = false := by
  constructor
  · intro closed left kind right condition writes isStatic name reads
    have active : right.isActive = true := Presence.isActive_of_isStatic isStatic
    have rightWritten : table.Writes right.value := writes.trans (.right active (.refl _))
    rw [← Bool.not_eq_true, (inactive.of_writes rightWritten).contains_dynamicTables]
    rintro ⟨provided, absent⟩
    have written := closed left kind right condition writes active name reads
    exact absent (rightWritten.mem_writtenIdentities built provided written)
  · intro rightIsThere left kind right condition writes active name reads
    have isStatic : right.isStatic = true := by
      cases isStatic : right.isStatic with
      | true => rfl
      | false =>
          have isInactive := inactive left kind right _ writes isStatic
          rw [active] at isInactive
          cases isInactive
    have joinBuilt := writes.built built
    have leftWritten : table.Writes left := writes.trans (.left (.refl _))
    have rightWritten : table.Writes right.value := writes.trans (.right active (.refl _))
    obtain ⟨-, -, canJoin⟩ := joinBuilt.join
    have needed := reads.needed (joinBuilt.of_mem_children (.tail _ (.tail _ (.head _))))
    have provided := OrderedSet.isSubsetOf_iff.1 (canJoin condition rfl).tables name needed
    rw [OrderedSet.contains_union, Bool.or_eq_true, contains_names_tables,
      contains_names_tables] at provided
    rcases provided with inLeft | inRight
    · -- the call that made the join has seen to the left side
      refine leftWritten.writtenIdentities_subset ?_
      have disjoint := (canJoin condition rfl).statics isStatic
      have isThere := OrderedSet.isDisjoint_iff.1 disjoint name needed
      rw [← Bool.not_eq_true, (inactive.of_writes leftWritten).contains_dynamicTables] at isThere
      exact Classical.not_not.1 fun absent => isThere ⟨inLeft, absent⟩
    · refine rightWritten.writtenIdentities_subset ?_
      have isThere := rightIsThere left kind right condition writes isStatic name reads
      rw [← Bool.not_eq_true, (inactive.of_writes rightWritten).contains_dynamicTables] at isThere
      exact Classical.not_not.1 fun absent => isThere ⟨inRight, absent⟩

/-- A join of `bar` with `baz`, if that is there. -/
def optionalBaz : TableRef :=
  .join (.table (.ofId "bar")) .inner (.dynamic false (.table (.ofId "baz")))
    (some (.sameId "bar" "baz"))

/-- A join of `foo` with that join, under a condition on `baz`. -/
def onOptionalBaz : TableRef :=
  .join (.table (.ofId "foo")) .inner (.static optionalBaz) (some (.sameId "foo" "baz"))

theorem onOptionalBaz_built : (Part.tableRef onOptionalBaz).Built := by
  have inner : mkJoin (.table (.ofId "bar")) .inner (.dynamic false (.table (.ofId "baz")))
      (some (.sameId "bar" "baz")) = .ok optionalBaz := rfl
  have innerBuilt : (Part.tableRef optionalBaz).Built :=
    built_of_mkJoin inner (Table.ofId_built "bar") (Table.ofId_built "baz")
      (List.forall_mem_singleton.2 (Expr.sameId_built "bar" "baz"))
  have joined : mkJoin (.table (.ofId "foo")) .inner (.static optionalBaz)
      (some (.sameId "foo" "baz")) = .ok onOptionalBaz := rfl
  exact built_of_mkJoin joined (Table.ofId_built "foo") innerBuilt
    (List.forall_mem_singleton.2 (Expr.sameId_built "foo" "baz"))

theorem onOptionalBaz_inactive : onOptionalBaz.DynamicJoinsAreInactive := by
  intro left kind right condition? writes isDynamic
  cases writes with
  | refl => cases isDynamic
  | left writes => cases writes
  | right _ writes =>
      cases writes with
      | refl => rfl
      | left writes => cases writes
      | right active _ => cases active

theorem sameId_alwaysReads (left right : String) : (Expr.sameId left right).AlwaysReads right :=
  .child nofun (.tail _ (.head _)) (.column rfl)

/-- The condition of `onOptionalBaz` reads a table that may be absent from the right side. -/
theorem onOptionalBaz_not_closed :
    onOptionalBaz.DynamicJoinsAreInactive ∧ ¬ onOptionalBaz.ConditionsAreClosed := by
  refine ⟨onOptionalBaz_inactive, ?_⟩
  rw [conditionsAreClosed_iff onOptionalBaz_built onOptionalBaz_inactive]
  intro rightIsThere
  have isThere := rightIsThere _ _ _ _ (.refl _) rfl "baz" (sameId_alwaysReads "foo" "baz")
  have mayBeAbsent : optionalBaz.dynamicTables.contains "baz" = true := by rfl
  rw [show (Entry.static optionalBaz).value = optionalBaz from rfl, mayBeAbsent] at isThere
  cases isThere

/-- A built static join is written with a condition on a table that is not written. -/
theorem onOptionalBaz_written :
    (Part.tableRef onOptionalBaz).Built ∧ onOptionalBaz.DynamicJoinsAreInactive
      ∧ (Dialect.generic.write (onOptionalBaz.tokens .generic)).toOption
        = some "foo INNER JOIN bar ON foo.id = baz.id"
      ∧ ∃ left kind right condition, onOptionalBaz.Writes (.join left kind right (some condition))
        ∧ right.isStatic = true ∧ condition.AlwaysReads "baz"
        ∧ "baz" ∉ onOptionalBaz.writtenIdentities := by
  refine ⟨onOptionalBaz_built, onOptionalBaz_inactive, rfl, _, _, _, _, .refl _, rfl,
    sameId_alwaysReads "foo" "baz", ?_⟩
  have written : onOptionalBaz.writtenIdentities = ["foo", "bar"] := by rfl
  rw [written]
  decide

end TableRef

end CheckedSql
