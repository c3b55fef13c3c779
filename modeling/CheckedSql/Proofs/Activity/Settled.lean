import CheckedSql.Proofs.Activity.Switched
import CheckedSql.Proofs.Scoping.CteReference
import CheckedSql.Proofs.Scoping.JoinCondition
import CheckedSql.Proofs.Scoping.Resolution
import CheckedSql.Proofs.Writing.Written

/-!
# Statements without their dynamic parts

A statement must also be well formed with all dynamic parts of its clauses inactive.  Such
a statement is *settled*.  The checks do not look at settled statements.  They compare what
clauses always read with what is always provided, and `Statement.settled_isClosed` says that
this is enough: what is written of the settled statement reads tables and common table
expressions that are written with it.

The selects in a statement are scopes of their own and keep all that is in them, active or
not.  The conditions of joins are set aside: what is left of a join may lack a table that
its condition reads.
-/

namespace CheckedSql

/-! ## What is written of a settled statement -/

/-- The statement with all dynamic parts of its own clauses inactive. -/
def Statement.settled (statement : Statement) : Statement := statement.switched false false

/-- The identities of the tables of a clause that are written. -/
def Clause.writtenIdentities : Clause → List String
  | source _ table => table.writtenIdentities
  | target _ table => [table.identity]
  | _ => []

/-- The identities of the tables of a statement that are written. -/
def Statement.writtenIdentities (statement : Statement) : List String :=
  statement.clauses.flatMap Clause.writtenIdentities

/-- A part is written in another one, in the same scope and not in the condition of a join. -/
inductive Part.Keeps : Part → Part → Prop where
  | refl (part : Part) : Keeps part part
  | expr {expr : Expr} {part inner : Part} :
      part ∈ expr.written → Keeps part inner → Keeps (.expr expr) inner
  | tableRef {table : TableRef} {part inner : Part} :
      part ∈ table.written → (∀ condition, part ≠ .expr condition) → Keeps part inner →
      Keeps (.tableRef table) inner

/-- A part that reads common table expressions in the same way whatever is active around it: a
reference, a select or a definition. -/
def Part.ReadsAsWhole : Part → Prop
  | tableRef (.cte _) => True
  | statement _ => True
  | cte _ => True
  | _ => False

/-- What is kept of a part finds what it reads: tables among the given ones or in the selects around
a column, and common table expressions among the defined ones or inside. -/
structure Part.IsClosed (tables defined : List String) (part : Part) : Prop where
  column : ∀ column, part = .column column → column.qualifier ∈ tables
  select : ∀ select, part = .select select → ∀ frames column, part.Refers frames column →
    Resolves frames column.qualifier ∨ column.qualifier ∈ tables
  definition : part.ReadsAsWhole → ∀ definition select, part.Contains (.cte definition) →
    select ∈ definition.selects → ∀ frames column, (Part.select select).Refers frames column →
    Resolves frames column.qualifier
  cte : part.ReadsAsWhole → ∀ inside name, part.ReadsCte inside name →
    name ∈ inside ∨ name ∈ defined

/-- All that is written of a statement finds the tables that it reads among those that are written,
and the common table expressions among the definitions in front of it. -/
def Statement.IsClosed (statement : Statement) : Prop :=
  ∀ front part back, (Part.statement statement).written = front ++ part :: back →
    ∀ inner, part.Keeps inner →
      inner.IsClosed statement.writtenIdentities (definedNames front)

/-! ## Settled parts -/

/-- The part with the dynamic parts of its scope inactive.  A statement is a scope of its own. -/
def Part.settled : Part → Part
  | expr e => .expr (e.switched false false)
  | statement s => .statement s
  | tableRef table => .tableRef (table.switched false false)
  | cte definition => .cte (definition.switched false false)

theorem Expr.parts_switched (expr : Expr) :
    (expr.switched false false).parts = expr.parts.map Part.settled := by
  have sameSelect : (expr.switched false false).select? = expr.select? := by
    cases expr with
    | existsIn select | subquery select => cases select; rfl
    | _ => rfl
  simp only [parts, children_switched, sameSelect, List.map_append, List.map_map]
  congr 1

/-- What is written of a settled expression is always read with it. -/
theorem Expr.exists_of_mem_written {expr : Expr} {written : Part}
    (mem : written ∈ (expr.switched false false).written) :
    ∃ part ∈ expr.parts, written = part.settled ∧ part.reads ≤ expr.needs := by
  have inParts := (written_sublist (expr.switched false false)).subset mem
  rw [parts_switched] at inParts
  cases expr with
  | chain connective operands =>
      rw [switched, Expr.written, activeValues_switched, List.map_map] at mem
      obtain ⟨operand, isStatic, rfl⟩ := List.mem_map.1 mem
      obtain ⟨entry, entryMem, rfl⟩ := List.mem_map.1 isStatic
      obtain ⟨entryMem, isStatic⟩ := List.mem_filter.1 entryMem
      refine ⟨.expr entry.value, ?_, rfl, ?_⟩
      · exact List.mem_append_left _ (List.mem_map_of_mem (List.mem_map_of_mem entryMem))
      · exact Needs.le_trans (Needs.le_within isStatic _) (needs_le_chain entryMem)
  | _ =>
      obtain ⟨part, partMem, rfl⟩ := List.mem_map.1 inParts
      exact ⟨part, partMem, rfl, reads_le_needs (by rintro _ _ ⟨⟩) partMem⟩

/-- A join always reads what its left side always reads. -/
theorem TableRef.left_le_join (left : TableRef) (kind : JoinKind) (right : Entry TableRef)
    (condition? : Option Expr) :
    left.names.needs ≤ (join left kind right condition?).names.needs := by
  obtain ⟨presence, right⟩ := right
  constructor
  · intro name read
    simp [names, JoinKind.names, read]
  · intro name read
    simp [names, JoinKind.names, left.needs_proper.tables name read]
  · intro name read
    simp [names, JoinKind.names, read]
  · intro name read
    cases presence <;> simp [names, JoinKind.names, Presence.isStatic, read]

/-- A static join always reads what its right side always reads. -/
theorem TableRef.right_le_join (left : TableRef) (kind : JoinKind) (right : Entry TableRef)
    (condition? : Option Expr) (isStatic : right.isStatic = true) :
    right.value.names.needs ≤ (join left kind right condition?).names.needs := by
  obtain ⟨presence, right⟩ := right
  change presence.isStatic = true at isStatic
  constructor
  · intro name read
    simp [names, JoinKind.names, read]
  · intro name read
    simp [names, JoinKind.names, right.needs_proper.tables name read]
  · intro name read
    simp [names, JoinKind.names, read]
  · intro name read
    simp [names, JoinKind.names, isStatic, read]

/-- What is written of a settled table reference is always read with it, conditions aside. -/
theorem TableRef.exists_of_mem_written {table : TableRef} {written : Part}
    (mem : written ∈ (table.switched false false).written)
    (notCondition : ∀ condition, written ≠ .expr condition) :
    ∃ part ∈ table.parts, written = part.settled ∧ part.reads ≤ table.names.needs := by
  cases table with
  | table | cte => cases mem
  | subSelect derived =>
      obtain ⟨select, name, fields⟩ := derived
      obtain rfl := List.mem_singleton.1 mem
      refine ⟨.select select, .head _, congrArg Part.select (Select.switched_false false select), ?_⟩
      rw [Part.reads_select]
      exact Needs.le_refl _
  | join left kind right condition? =>
      obtain ⟨presence, right⟩ := right
      simp only [switched, entrySwitched, TableRef.written, List.mem_cons] at mem
      rcases mem with rfl | inRight
      · exact ⟨.tableRef left, .head _, rfl, left.left_le_join kind _ condition?⟩
      · cases isStatic : presence.isStatic with
        | false => simp [activeValues, Entry.isActive, isStatic] at inRight
        | true =>
            simp only [activeValues, Entry.isActive, Presence.isActive_switched_false, isStatic,
              List.filter_cons_of_pos, List.filter_nil, List.map_cons, List.map_nil,
              List.flatMap_cons, List.flatMap_nil, List.append_nil, List.mem_cons, List.mem_map,
              Option.mem_toList] at inRight
            rcases inRight with rfl | ⟨condition, -, rfl⟩
            · exact ⟨.tableRef right, .tail _ (.head _), rfl,
                left.right_le_join kind ⟨presence, right⟩ condition? isStatic⟩
            · exact absurd rfl (notCondition condition)

theorem Assignment.exists_of_mem_written {assignments : List (Entry Assignment)} {shown : Part}
    (mem : shown ∈ Assignment.written (entriesSwitched false false assignments)) :
    ∃ part ∈ entriesParts assignments, shown = part.settled
      ∧ part.reads ≤ entriesNeeds assignments := by
  rw [Assignment.written, activeValues_switched, List.flatMap_map] at mem
  obtain ⟨assignment, isStatic, inValue⟩ := List.mem_flatMap.1 mem
  obtain ⟨entry, entryMem, rfl⟩ := List.mem_map.1 isStatic
  obtain ⟨entryMem, isStatic⟩ := List.mem_filter.1 entryMem
  cases given : entry.value.value? with
  | none => simp [given, Expr.optionSwitched] at inValue
  | some value =>
      simp only [given, Expr.optionSwitched, Option.toList_some, List.map_cons, List.map_nil,
        List.mem_singleton] at inValue
      subst inValue
      refine ⟨.expr value, List.mem_flatMap.2 ⟨entry, entryMem, ?_⟩, rfl, ?_⟩
      · rw [given]
        exact .head _
      · exact Needs.le_trans (Needs.le_within isStatic _) (within_le_entriesNeeds entryMem given)

theorem Expr.exists_of_mem_entries {entries : List (Entry Expr)} {shown : Part}
    (mem : shown ∈ (activeValues (entriesSwitched false false entries)).map Part.expr) :
    ∃ part ∈ entries.map (fun entry => Part.expr entry.value), shown = part.settled
      ∧ part.reads ≤ entriesNeeds entries := by
  rw [activeValues_switched, List.map_map] at mem
  obtain ⟨expr, isStatic, rfl⟩ := List.mem_map.1 mem
  obtain ⟨entry, entryMem, rfl⟩ := List.mem_map.1 isStatic
  obtain ⟨entryMem, isStatic⟩ := List.mem_filter.1 entryMem
  exact ⟨.expr entry.value, List.mem_map_of_mem entryMem, rfl,
    Needs.le_trans (Needs.le_within isStatic _) (within_le_entriesNeeds entryMem)⟩

theorem Expr.exists_of_mem_condition {condition? : Option (Entry Expr)} {shown : Part}
    (mem : shown ∈ (activeValues (entryOptionSwitched false false condition?).toList).map .expr) :
    ∃ part ∈ condition?.toList.map (fun condition => Part.expr condition.value),
      shown = part.settled ∧ part.reads ≤ entryOptionNeeds condition? := by
  cases condition? with
  | none => cases mem
  | some condition =>
      have single : shown ∈ (activeValues (entriesSwitched false false [condition])).map .expr := mem
      exact exists_of_mem_entries single

/-- What is written of a settled clause is always read with it.  The definitions of `WITH` may also
read each other. -/
theorem Clause.exists_of_mem_written {statement : Statement} {clause : Clause}
    (allowed : statement.allows clause = true) (notWith : ∀ ctes, clause ≠ .with ctes)
    {shown : Part} (mem : shown ∈ (clause.switched false false).written) :
    ∃ part ∈ clause.parts, shown = part.settled ∧ part.reads ≤ clause.names.needs := by
  cases clause with
  | «with» ctes => exact absurd rfl (notWith ctes)
  | columns distinct columns | returning columns =>
      rw [switched, Clause.written, SelectColumn.activeValues_switched, List.map_map] at mem
      obtain ⟨column, isStatic, rfl⟩ := List.mem_map.1 mem
      obtain ⟨entry, entryMem, rfl⟩ := List.mem_map.1 isStatic
      obtain ⟨entryMem, isStatic⟩ := List.mem_filter.1 entryMem
      exact ⟨.expr entry.value.expr, List.mem_map_of_mem entryMem, rfl,
        Needs.le_trans (Needs.le_within isStatic _) (SelectColumn.within_le_entriesNeeds entryMem)⟩
  | target => cases mem
  | set assignments => exact Assignment.exists_of_mem_written mem
  | values content =>
      cases content with
      | defaultValues => cases mem
      | set assignments => exact Assignment.exists_of_mem_written mem
      | rows columns rows =>
          simp only [switched, InsertValues.switched, Clause.written, InsertValues.written,
            InsertValues.parts, Expr.rowsSwitched_eq_map, List.mem_flatMap, List.mem_map] at mem
          obtain ⟨_, ⟨row, rowMem, rfl⟩, _, inRow, rfl⟩ := mem
          obtain ⟨expr, exprMem, rfl⟩ := List.mem_map.1 inRow
          exact ⟨.expr expr, List.mem_flatMap.2 ⟨row, rowMem, List.mem_map_of_mem exprMem⟩, rfl,
            Needs.le_trans (Expr.needs_le_listNeeds exprMem) (Expr.listNeeds_le_rowsNeeds rowMem)⟩
  | source kind table =>
      obtain rfl := List.mem_singleton.1 mem
      exact ⟨.tableRef table, .head _, rfl, Needs.le_refl _⟩
  | «where» condition? => exact Expr.exists_of_mem_condition mem
  | groupBy entries => exact Expr.exists_of_mem_entries mem
  | having condition =>
      have single : shown ∈ (activeValues (Expr.entriesSwitched false false [condition])).map .expr :=
        mem
      exact Expr.exists_of_mem_entries single
  | union distinct arm =>
      obtain ⟨presence, arm⟩ := arm
      cases isStatic : presence.isStatic with
      | false =>
          simp [switched, Clause.written, Select.entrySwitched, activeValues, Entry.isActive,
            isStatic] at mem
      | true =>
          simp only [switched, Clause.written, Select.entrySwitched, activeValues, Entry.isActive,
            Presence.isActive_switched_false, isStatic, List.filter_cons_of_pos, List.filter_nil,
            List.map_cons, List.map_nil, List.mem_singleton, Select.switched_false] at mem
          subst mem
          refine ⟨.select arm, .head _, rfl, ?_⟩
          rw [Part.reads_select]
          exact Needs.le_within isStatic _
  | orderBy orders =>
      rw [switched, Clause.written, SortOrder.activeValues_switched, List.map_map] at mem
      obtain ⟨order, isStatic, rfl⟩ := List.mem_map.1 mem
      obtain ⟨entry, entryMem, rfl⟩ := List.mem_map.1 isStatic
      obtain ⟨entryMem, isStatic⟩ := List.mem_filter.1 entryMem
      exact ⟨.expr entry.value.expr, List.mem_map_of_mem entryMem, rfl,
        Needs.le_trans (Needs.le_within isStatic _) (SortOrder.within_le_entriesNeeds entryMem)⟩
  | limit kind count =>
      have isLiteral : count.isLiteral = true := by
        cases statement <;> first | exact allowed | cases allowed
      obtain rfl := List.mem_singleton.1 mem
      refine ⟨.expr count, .head _, rfl, ?_⟩
      rw [Part.reads, Expr.needs_of_isLiteral isLiteral]
      exact Needs.le_refl _
  | onConflict keys action =>
      cases action with
      | doNothing => cases mem
      | doUpdate assignments condition? =>
          rcases List.mem_append.1 mem with isValue | isCondition
          · obtain ⟨part, partMem, same, included⟩ := Assignment.exists_of_mem_written isValue
            exact ⟨part, List.mem_append_left _ partMem, same,
              Needs.le_trans included (Needs.le_union_left _ _)⟩
          · obtain ⟨part, partMem, same, included⟩ := Expr.exists_of_mem_condition isCondition
            exact ⟨part, List.mem_append_right _ partMem, same,
              Needs.le_trans included (Needs.le_union_right _ _)⟩

/-! ## Kept parts -/

namespace Part

variable {part inner shown : Part}

/-- What is kept of a settled part stands in the part, and is always read with it. -/
theorem Keeps.exists_settled (keeps : part.settled.Keeps shown) :
    ∃ inner, part.Contains inner ∧ shown = inner.settled ∧ inner.reads ≤ part.reads := by
  generalize same : part.settled = outer at keeps
  induction keeps generalizing part with
  | refl => exact ⟨part, .refl, same.symm, Needs.le_refl _⟩
  | expr mem _ ih =>
      cases part with
      | expr expr =>
          obtain rfl := Part.expr.inj same
          obtain ⟨child, childMem, rfl, included⟩ := Expr.exists_of_mem_written mem
          obtain ⟨inner, contains, shown, read⟩ := ih rfl
          exact ⟨inner, .head childMem contains, shown, Needs.le_trans read included⟩
      | _ => cases same
  | tableRef mem notCondition _ ih =>
      cases part with
      | tableRef table =>
          obtain rfl := Part.tableRef.inj same
          obtain ⟨child, childMem, rfl, included⟩ :=
            TableRef.exists_of_mem_written mem notCondition
          obtain ⟨inner, contains, shown, read⟩ := ih rfl
          exact ⟨inner, .head childMem contains, shown, Needs.le_trans read included⟩
      | _ => cases same

theorem ReadsAsWhole.of_settled (whole : part.settled.ReadsAsWhole) : part.ReadsAsWhole := by
  cases part with
  | expr => cases whole
  | statement | cte => trivial
  | tableRef table =>
      cases table with
      | cte => trivial
      | _ => cases whole

end Part

/-! ## Settled definitions -/

theorem CteArm.selects_switched (arms : List CteArm) :
    (listSwitched false false arms).map (fun arm => arm.select.value)
      = arms.map fun arm => arm.select.value := by
  induction arms with
  | nil => rfl
  | cons arm arms ih =>
      obtain ⟨distinct, ⟨presence, select⟩, readsSelf⟩ := arm
      simp only [listSwitched, Select.entrySwitched, Select.switched_false, List.map_cons, ih]

/-- The selects of a settled definition are those of the definition. -/
theorem Cte.selects_switched (definition : Cte) :
    (definition.switched false false).selects = definition.selects := by
  obtain ⟨name, base, arms, fields⟩ := definition
  simp only [selects, switched, Select.switched_false, CteArm.selects_switched]

namespace Part

variable {part : Part}

/-- What a settled part reads as a whole, the part reads. -/
theorem ReadsCte.of_settled {defined : List String} {name : String}
    (whole : part.ReadsAsWhole) (reads : part.settled.ReadsCte defined name) :
    part.ReadsCte defined name := by
  cases part with
  | expr => cases whole
  | statement => exact reads
  | tableRef table =>
      cases table with
      | cte => exact reads
      | _ => cases whole
  | cte definition =>
      obtain ⟨own, base, arms, fields⟩ := definition
      cases reads with
      | base reads =>
          rw [Cte.switched, Select.switched_false] at reads
          exact .base reads
      | arm mem reads =>
          have inSelects := List.mem_map_of_mem (f := fun arm => arm.select.value) mem
          rw [Cte.switched, CteArm.selects_switched] at inSelects
          obtain ⟨arm, armMem, same⟩ := List.mem_map.1 inSelects
          rw [← same] at reads
          exact .arm armMem reads

/-- The selects of definitions in a settled part are those of definitions in the part. -/
theorem exists_definition_of_settled (whole : part.ReadsAsWhole) {definition : Cte}
    {select : Select} (contains : part.settled.Contains (.cte definition))
    (mem : select ∈ definition.selects) :
    ∃ original, part.Contains (.cte original) ∧ select ∈ original.selects := by
  cases part with
  | expr => cases whole
  | statement => exact ⟨definition, contains, mem⟩
  | tableRef table =>
      cases table with
      | cte => exact ⟨definition, contains, mem⟩
      | _ => cases whole
  | cte original =>
      rcases contains.cases_head with same | ⟨child, childMem, inChild⟩
      · obtain rfl := Part.cte.inj same
        rw [Cte.selects_switched] at mem
        exact ⟨original, .refl, mem⟩
      · refine ⟨definition, .head ?_ inChild, mem⟩
        simpa only [settled, children, Cte.selects_switched] using childMem

end Part

/-- The arms of a definition read the same whether they are always there or not. -/
theorem CteArm.listNeeds_staticCtes (arms : List CteArm) :
    (listNeeds arms).staticCtes = (listNeeds arms).ctes := by
  induction arms with
  | nil => rfl
  | cons arm arms ih =>
      obtain ⟨distinct, ⟨presence, select⟩, readsSelf⟩ := arm
      exact congrArg (select.names.unresolvedCtes ∪ ·) ih

/-- A part that reads as a whole always reads what it reads. -/
theorem Part.ReadsAsWhole.contains_staticCtes {part : Part} (whole : part.ReadsAsWhole)
    {name : String} (read : part.reads.ctes.contains name = true) :
    part.reads.staticCtes.contains name = true := by
  cases part with
  | expr => cases whole
  | statement => exact read
  | tableRef table =>
      cases table with
      | cte => exact read
      | _ => cases whole
  | cte definition =>
      obtain ⟨own, base, arms, fields⟩ := definition
      have same := congrArg (base.names.unresolvedCtes ∪ ·) (CteArm.listNeeds_staticCtes arms)
      exact (congrArg (fun names => (names \ OrderedSet.singleton own).contains name) same).trans read

/-! ## Provided names -/

/-- The tables that are always there are those that are written of a settled table reference. -/
theorem TableRef.contains_staticTables (table : TableRef) {name : String} :
    table.names.staticTables.contains name = true
      ↔ name ∈ (table.switched false false).writtenIdentities := by
  induction table using identities.induct with
  | case1 declared =>
      simp [names, Names.ofTable, switched, writtenIdentities, identities, @eq_comm _ name]
  | case2 reference =>
      simp [names, Names.ofTable, switched, writtenIdentities, identities, @eq_comm _ name]
  | case3 derived =>
      cases derived
      simp [names, Names.ofTable, switched, SubSelect.switched, writtenIdentities, identities,
        @eq_comm _ name]
  | case4 left kind presence right condition? leftIh rightIh =>
      cases presence <;>
        simp [names, JoinKind.names, switched, entrySwitched, writtenIdentities,
          Presence.isStatic, Presence.isActive, Presence.switched, leftIh, rightIh]

theorem Clause.contains_staticTables {clause : Clause} {name : String}
    (provided : clause.names.staticTables.contains name = true) :
    name ∈ (clause.switched false false).writtenIdentities := by
  cases clause with
  | source kind table => exact table.contains_staticTables.1 provided
  | target kind table =>
      simp only [names, Names.ofTable, OrderedSet.contains_singleton, beq_iff_eq] at provided
      exact List.mem_singleton.2 provided.symm
  | _ => cases provided

theorem Clause.contains_listNames_staticTables {clauses : List Clause} {name : String}
    (provided : (listNames clauses).staticTables.contains name = true) :
    ∃ clause ∈ clauses, clause.names.staticTables.contains name = true := by
  induction clauses with
  | nil => cases provided
  | cons clause clauses ih =>
      have inUnion := (OrderedSet.contains_union clause.names.staticTables
        (listNames clauses).staticTables name).symm.trans provided
      rw [Bool.or_eq_true] at inUnion
      rcases inUnion with inFirst | inRest
      · exact ⟨clause, .head _, inFirst⟩
      · obtain ⟨other, mem, found⟩ := ih inRest
        exact ⟨other, .tail _ mem, found⟩

namespace Statement

variable {statement : Statement} {clause : Clause} {name : String}

/-- The tables that are always there are written of the settled statement. -/
theorem mem_writtenIdentities_settled
    (provided : statement.scope.names.staticTables.contains name = true) :
    name ∈ statement.settled.writtenIdentities := by
  obtain ⟨clause, mem, found⟩ := Clause.contains_listNames_staticTables provided
  rw [writtenIdentities, settled, clauses_switched, List.flatMap_map]
  exact List.mem_flatMap.2 ⟨clause, mem, Clause.contains_staticTables found⟩

/-- What a clause of an accepted statement reads is provided. -/
theorem provided_of_checkPrepare (prepared : statement.checkPrepare = .ok ())
    (mem : clause ∈ statement.clauses) :
    (∀ name, clause.names.needs.tables.contains name = true →
        statement.scope.names.tables.contains name = true)
      ∧ ∀ name, clause.names.needs.ctes.contains name = true →
        statement.scope.names.ctes.contains name = true := by
  obtain ⟨-, provided⟩ := checkPrepare_eq_ok.1 prepared
  obtain ⟨tables, ctes⟩ := Clause.checkProvided_eq_ok.1 (provided clause mem)
  exact ⟨OrderedSet.isEmpty_difference_iff.1 tables, OrderedSet.isEmpty_difference_iff.1 ctes⟩

/-- What a clause of an accepted statement always reads is always provided. -/
theorem statics_provided (prepared : statement.checkPrepare = .ok ())
    (mem : clause ∈ statement.clauses) :
    (∀ name, clause.names.needs.staticTables.contains name = true →
        statement.scope.names.staticTables.contains name = true)
      ∧ ∀ name, clause.names.needs.staticCtes.contains name = true →
        statement.scope.names.staticCtes.contains name = true := by
  obtain ⟨tables, ctes⟩ := provided_of_checkPrepare prepared mem
  obtain ⟨consistent, -⟩ := checkPrepare_eq_ok.1 prepared
  have statics := (checkConsistency_eq_ok.1 consistent).2.1 clause mem
  obtain ⟨staticTables, staticCtes⟩ := check_eq_ok.1 statics
  -- what is read is provided, and it is not among what is provided dynamically only
  have isStatic : ∀ {read provided static : NameSet},
      (read ∩ (provided \ static)).isEmpty = true → ∀ name, read.contains name = true →
      provided.contains name = true → static.contains name = true := by
    intro read provided static isEmpty name isRead isProvided
    have outside := OrderedSet.isEmpty_iff.1 isEmpty name
    rw [OrderedSet.contains_intersection, OrderedSet.contains_difference, isRead, isProvided,
      Bool.true_and, Bool.true_and, Bool.not_eq_false'] at outside
    exact outside
  exact ⟨fun name read => isStatic (requireEmpty_eq_ok.1 staticTables) name read
      (tables name (clause.needs_proper.tables name read)),
    fun name read => isStatic (requireEmpty_eq_ok.1 staticCtes) name read
      (ctes name (clause.needs_proper.ctes name read))⟩

/-- Columns in the definitions of an accepted statement are found in the definitions. -/
theorem resolves_in_definition (built : (Part.statement statement).Built)
    (prepared : statement.checkPrepare = .ok ()) {part : Part}
    (contains : (Part.statement statement).Contains part) (whole : part.settled.ReadsAsWhole)
    {definition : Cte} {select : Select} (inside : part.settled.Contains (.cte definition))
    (mem : select ∈ definition.selects) {frames : List Frame} {column : Column}
    (refers : (Part.select select).Refers frames column) : Resolves frames column.qualifier := by
  obtain ⟨found, foundInside, foundMem⟩ :=
    Part.exists_definition_of_settled whole.of_settled inside mem
  have isRoot : statement.IsRoot (.select select) := .select (contains.trans foundInside) foundMem
  exact isRoot.resolves built prepared refers (Part.needs_column column)

/-- What is kept of a clause of a settled statement is closed. -/
theorem isClosed_of_reads (built : (Part.statement statement).Built)
    (prepared : statement.checkPrepare = .ok ()) (clauseMem : clause ∈ statement.clauses)
    {part inner : Part} {front : List Part} (partMem : part ∈ clause.parts)
    (read : part.reads ≤ clause.names.needs) (keeps : part.settled.Keeps inner)
    (behind : ∀ name, statement.scope.names.staticCtes.contains name = true →
      name ∈ definedNames front) :
    inner.IsClosed statement.settled.writtenIdentities (definedNames front) := by
  obtain ⟨original, contains, rfl, included⟩ := keeps.exists_settled
  have childMem : part ∈ (Part.statement statement).children :=
    List.mem_flatMap.2 ⟨clause, clauseMem, partMem⟩
  have inStatement : (Part.statement statement).Contains original := .head childMem contains
  have originalBuilt := built.of_contains inStatement
  have needs := Needs.le_trans included read
  obtain ⟨tables, ctes⟩ := statics_provided prepared clauseMem
  have tableWritten : ∀ table, original.reads.staticTables.contains table = true →
      table ∈ statement.settled.writtenIdentities := fun table isRead =>
    mem_writtenIdentities_settled (tables table (needs.staticTables table isRead))
  refine ⟨?_, ?_, ?_, ?_⟩
  · intro column same
    cases original with
    | expr expr =>
        cases expr <;> cases same
        exact tableWritten _ (by simp [Part.reads, Expr.needs, Needs.ofTable])
    | _ => cases same
  · intro select same frames column refers
    cases original with
    | statement inside =>
        rcases refers.needed originalBuilt with needed | provided | resolved
        · exact .inr (tableWritten _ needed)
        · cases provided
        · exact .inl resolved
    | _ => cases same
  · intro whole definition select inside mem frames column refers
    exact resolves_in_definition built prepared inStatement whole inside mem refers
  · intro whole inside name reads
    refine (reads.of_settled whole.of_settled |>.needed originalBuilt).imp id fun isRead => ?_
    have always := whole.of_settled.contains_staticCtes isRead
    exact behind name (ctes name (needs.staticCtes name always))

/-- A static value stands behind entries whose static values are those in front of it. -/
theorem exists_entry_of_staticValues {α : Type} {entries : List (Entry α)} {front back : List α}
    {value : α} (split : staticValues entries = front ++ value :: back) :
    ∃ (earlier : List (Entry α)) (entry : Entry α) (later : List (Entry α)),
      entries = earlier ++ entry :: later ∧ staticValues earlier = front
        ∧ entry.isStatic = true ∧ entry.value = value := by
  obtain ⟨statics, rest, isFilter, rfl, atValue⟩ := List.map_eq_append_iff.1 split
  obtain ⟨entry, others, rfl, rfl, -⟩ := List.map_eq_cons_iff.1 atValue
  obtain ⟨earlier, remaining, rfl, rfl, isRest⟩ := List.filter_eq_append_iff.1 isFilter
  obtain ⟨dynamics, later, rfl, noneStatic, isStatic, -⟩ := List.filter_eq_cons_iff.1 isRest
  refine ⟨earlier ++ dynamics, entry, later, by rw [List.append_assoc], ?_, isStatic, rfl⟩
  rw [staticValues, List.filter_append, List.filter_eq_nil_iff.2 noneStatic, List.append_nil]

/-- The static definitions are written of a settled `WITH`. -/
theorem written_with_settled (ctes : List (Entry Cte)) :
    (Clause.switched false false (.with ctes)).written
      = (staticValues ctes).map fun definition => (Part.cte definition).settled := by
  rw [Clause.switched, Clause.written, Cte.activeValues_switched, List.map_map]
  rfl

theorem mem_definedNames_settled {entry : Entry Cte} {ctes : List (Entry Cte)}
    (mem : entry ∈ ctes) (isStatic : entry.isStatic = true) (others : List Part) :
    entry.value.name ∈ definedNames
      ((staticValues ctes).map (fun definition => (Part.cte definition).settled) ++ others) := by
  have isValue : entry.value ∈ staticValues ctes :=
    List.mem_map_of_mem (List.mem_filter.2 ⟨mem, isStatic⟩)
  rw [← Cte.name_switched false false]
  exact mem_definedNames (List.mem_append_left _ (List.mem_map_of_mem isValue))

/-- What is kept of the definitions of a settled statement is closed. -/
theorem isClosed_of_with (built : (Part.statement statement).Built)
    (prepared : statement.checkPrepare = .ok ()) {ctes : List (Entry Cte)}
    (isWith : .with ctes ∈ statement.clauses) {front back : List Part} {part inner : Part}
    (split : (Clause.switched false false (.with ctes)).written = front ++ part :: back)
    (keeps : part.Keeps inner) :
    inner.IsClosed statement.settled.writtenIdentities (definedNames front) := by
  rw [written_with_settled] at split
  obtain ⟨definitions, rest, isStatic, rfl, atPart⟩ := List.map_eq_append_iff.1 split
  obtain ⟨definition, others, rfl, rfl, -⟩ := List.map_eq_cons_iff.1 atPart
  obtain ⟨earlier, entry, later, rfl, rfl, entryStatic, rfl⟩ :=
    exists_entry_of_staticValues isStatic
  have entryMem : entry ∈ earlier ++ entry :: later := List.mem_append_right _ (.head _)
  have inStatement : (Part.statement statement).Contains (.cte entry.value) :=
    .single (List.mem_flatMap.2 ⟨_, isWith, List.mem_map_of_mem entryMem⟩)
  -- a definition is kept as a whole
  cases keeps
  refine ⟨nofun, nofun, ?_, ?_⟩
  · intro whole definition select inside mem frames column refers
    exact resolves_in_definition built prepared inStatement whole inside mem refers
  · intro whole inside name reads
    refine (reads.of_settled whole.of_settled |>.needed (built.of_contains inStatement)).imp id
      fun isRead => ?_
    have known : ∃ other ∈ earlier ++ entry :: later, other.value.name = name := by
      by_cases known : ∃ other ∈ earlier ++ entry :: later, other.value.name = name
      · exact known
      · have needed := (Clause.contains_with_needs _ name).2 ⟨⟨entry, entryMem, isRead⟩, known⟩
        obtain ⟨ctes, isOther, provided⟩ := (Clause.contains_listNames_ctes _).1
          ((provided_of_checkPrepare prepared isWith).2 name needed)
        obtain rfl := (ordered_of_built built).with_unique isWith isOther
        exact provided
    have made := checked_of_built built _ isWith
    obtain ⟨other, otherMem, rfl, otherStatic⟩ := With.exists_earlier made isRead known
    have isDefined := mem_definedNames_settled otherMem (otherStatic entryStatic) []
    rwa [List.append_nil] at isDefined

/-- What is written of a settled statement reads tables and common table expressions that are
written with it: in an accepted statement, what clauses always read is always provided. -/
theorem settled_isClosed (built : (Part.statement statement).Built)
    (prepared : statement.checkPrepare = .ok ()) :
    (∀ clause ∈ statement.clauses,
        clause.names.needs.staticTables.isSubsetOf statement.scope.names.staticTables = true
          ∧ clause.names.needs.staticCtes.isSubsetOf statement.scope.names.staticCtes = true)
      ∧ statement.settled.IsClosed := by
  constructor
  · intro clause mem
    obtain ⟨tables, ctes⟩ := statics_provided prepared mem
    exact ⟨OrderedSet.isSubsetOf_iff.2 tables, OrderedSet.isSubsetOf_iff.2 ctes⟩
  · intro front part back split inner keeps
    have ordered := ordered_of_built built
    simp only [Part.written, settled, clauses_switched, List.flatMap_map] at split
    rcases ordered.place split with
      ⟨ctes, back', isWith, inWith⟩ | ⟨clause, clauseMem, notWith, inClause, behind⟩
    · exact isClosed_of_with built prepared isWith inWith keeps
    · obtain ⟨original, originalMem, rfl, read⟩ := Clause.exists_of_mem_written
        (ordered.allowed clause clauseMem) notWith inClause
      refine isClosed_of_reads built prepared clauseMem originalMem read keeps ?_
      intro name provided
      obtain ⟨ctes, isWith, cte, cteMem, isStatic, rfl⟩ :=
        (Clause.contains_listNames_staticCtes _).1 provided
      obtain ⟨between, rfl⟩ := behind ctes isWith
      rw [written_with_settled]
      exact mem_definedNames_settled cteMem isStatic between

/-- The definition of `c` by the numbers of `foo`. -/
def numbers : Cte := ⟨"c", .ofId "foo" "foo", [], (Select.ofId "foo" "foo").fields⟩

/-- The column of `c`. -/
def numbersId : Column := ⟨"c", .derived "id" (.of .integral)⟩

/-- The definition of `c` in front of the select of its column. -/
def withNumbers : Select where
  clauses :=
    [.with [.static numbers], .columns false [.static ⟨.column numbersId, "id", false⟩]]

/-- The select of the column of `c` from `c` and, if it is there, from `bar`. -/
def numbersAndBar : Select where
  clauses := withNumbers.clauses ++ [.source .from
    (.join (.cte numbers.reference) .cross (.dynamic true (.table (.ofId "bar"))) none)]

theorem numbers_built : (Part.cte numbers).Built := by
  have defined : Cte.define "c" (.ofId "foo" "foo") = .ok numbers := rfl
  refine .made (.define defined) ?_
  rw [List.forall_mem_singleton]
  exact Select.ofId_built "foo" "foo"

theorem numbersReference_built : (Part.tableRef (.cte numbers.reference)).Built := by
  refine .made (.cteReference numbers) ?_
  rw [List.forall_mem_singleton]
  exact numbers_built

theorem numbersId_built : (Part.column numbersId).Built := by
  have offered : numbersId ∈ (TableRef.cte numbers.reference).columns := .head _
  refine .made (.column offered) ?_
  rw [List.forall_mem_singleton]
  exact numbersReference_built

theorem withNumbers_built : (Part.select withNumbers).Built := by
  let definitions : With := ⟨[.static numbers]⟩
  let columns : List (Entry SelectColumn) := [.static ⟨.column numbersId, "id", false⟩]
  have defined : With.AreMade (some definitions) := by
    rintro given ⟨⟩
    rfl
  have named : ∀ column ∈ columns, column.value.IsMade := by
    rw [List.forall_mem_singleton]
    exact .inr rfl
  have started : Select.start (some definitions) columns = .ok withNumbers := rfl
  refine .made (.select defined named started) ?_
  rintro argument (_ | ⟨_, _ | ⟨_, ⟨⟩⟩⟩)
  · exact numbers_built
  · exact numbersId_built

theorem numbersAndBar_built : (Part.select numbersAndBar).Built := by
  let source : TableRef :=
    .join (.cte numbers.reference) .cross (.dynamic true (.table (.ofId "bar"))) none
  have joined : TableRef.mkJoin (.cte numbers.reference) .cross
      (.dynamic true (.table (.ofId "bar"))) none = .ok source := rfl
  have sourceBuilt : (Part.tableRef source).Built :=
    TableRef.built_of_mkJoin joined numbersReference_built (Table.ofId_built "bar") nofun
  have sourced : withNumbers.from source = .ok numbersAndBar := rfl
  exact .of_pair (.selectFrom sourced) withNumbers_built sourceBuilt

/-- Without `bar`, the select of the numbers of `c` still reads `c` only, behind its definition. -/
theorem numbersAndBar_settled :
    (Part.select numbersAndBar).Built ∧ (select numbersAndBar).checkPrepare = .ok ()
      ∧ (select numbersAndBar).settled.writtenIdentities = ["c"]
      ∧ (select numbersAndBar).settled.IsClosed := by
  have prepared : (select numbersAndBar).checkPrepare = .ok () := by rfl
  exact ⟨numbersAndBar_built, prepared, rfl, (settled_isClosed numbersAndBar_built prepared).2⟩

end Statement

end CheckedSql
