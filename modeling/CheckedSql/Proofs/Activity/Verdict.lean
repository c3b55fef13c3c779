import CheckedSql.Proofs.Activity.Equality
import CheckedSql.Proofs.Built.Basic
import CheckedSql.Proofs.Verdict

/-!
# Verdicts and activity

A statement is checked before anybody decides which of its dynamic parts are active, so
its verdict must not depend on that.  The one rule that looks at the decisions asks that
some assignment of an `UPDATE`, or of the update after a conflict, is active.

Take two statements that differ in the decisions only.  As long as their `GROUP BY`
entries are plain, they have the same scope and the same result row, and they pass or fail
in the same way, unless one of them fails for lack of an active assignment
(`Statement.verdicts_agree`).  Where an entry has dynamic operands, other clauses may find
it with some decisions and not with others, because `==` looks at them.
-/

namespace CheckedSql

variable {active : Bool}

/-- A set that is made from a list has elements of the list only. -/
theorem OrderedSet.mem_of_mem_ofList {α : Type} [BEq α] {items : List α} {item : α}
    (mem : item ∈ (ofList items).toList) : item ∈ items := by
  have inserted : ∀ (items : List α) (set : OrderedSet α), item ∈ (set.insertAll items).toList →
      item ∈ set.toList ∨ item ∈ items := by
    intro items
    induction items with
    | nil => exact fun set mem => .inl mem
    | cons first items ih =>
        intro set mem
        rcases ih (set.insert first) mem with isInserted | isLater
        · rw [toList_insert] at isInserted
          split at isInserted
          · exact .inl isInserted
          · rcases List.mem_append.1 isInserted with isOld | isFirst
            · exact .inl isOld
            · exact .inr (List.mem_cons.2 (.inl (List.mem_singleton.1 isFirst)))
        · exact .inr (.tail _ isLater)
  exact (inserted items empty mem).resolve_left List.not_mem_nil

/-! ## Expressions -/

/-- A summary does not depend on what is active if its step does not. -/
theorem Expr.summarize_switched {α : Type} {step : Expr → List α → α} {active inside : Bool}
    (blind : ∀ expr results, step (expr.switched active inside) results = step expr results)
    (expr : Expr) : (expr.switched active inside).summarize step = expr.summarize step := by
  rw [summarize_eq, summarize_eq, blind, children_switched, List.map_map]
  congr 1
  exact List.map_congr_left fun child mem => summarize_switched blind child
termination_by sizeOf expr
decreasing_by exact sizeOf_lt_of_mem_children mem

theorem Expr.containsAggregate_switched (active : Bool) (expr : Expr) :
    (expr.switched active true).containsAggregate = expr.containsAggregate :=
  summarize_switched (fun expr _ => by cases expr <;> rfl) expr

theorem Expr.aggregateKind_switched (active : Bool) (expr : Expr) :
    (expr.switched active true).aggregateKind = expr.aggregateKind :=
  summarize_switched (fun expr _ => by cases expr <;> rfl) expr

theorem Expr.isAggregateOver_switched {known : OrderedSet Expr}
    (plain : ∀ key ∈ known.toList, key.IsPlain) (active : Bool) (expr : Expr) :
    (expr.switched active true).isAggregateOver known = expr.isAggregateOver known := by
  refine summarize_switched (fun expr results => ?_) expr
  rw [OrderedSet.contains_switched plain]
  cases expr <;> rfl

/-! ## Scopes -/

namespace Statement

/-- The entries of `GROUP BY` have no dynamic parts. -/
def GroupsArePlain (statement : Statement) : Prop :=
  ∀ entries, .groupBy entries ∈ statement.clauses → ∀ entry ∈ entries, entry.value.IsPlain

/-- All entries of `GROUP BY`. -/
def groups (statement : Statement) : List (Entry Expr) :=
  (statement.clauses.filterMap Clause.groupEntries?).flatten

theorem GroupsArePlain.of_mem_groups {statement : Statement} (plain : statement.GroupsArePlain)
    {entry : Entry Expr} (mem : entry ∈ statement.groups) : entry.value.IsPlain := by
  obtain ⟨entries, entriesMem, entryMem⟩ := List.mem_flatten.1 mem
  obtain ⟨clause, clauseMem, found⟩ := List.mem_filterMap.1 entriesMem
  cases clause with
  | groupBy given =>
      obtain rfl := Option.some.inj found
      exact plain _ clauseMem entry entryMem
  | _ => cases found

theorem groupEntries_switched (active inside : Bool) (statement : Statement) :
    (statement.switched active inside).clauses.filterMap Clause.groupEntries?
      = (statement.clauses.filterMap Clause.groupEntries?).map
        (Expr.entriesSwitched active inside) := by
  rw [clauses_switched, List.filterMap_map, List.map_filterMap]
  congr 1
  funext clause
  cases clause <;> rfl

theorem groups_switched (active inside : Bool) (statement : Statement) :
    (statement.switched active inside).groups
      = statement.groups.map (Expr.entrySwitched active inside) := by
  rw [groups, groupEntries_switched, groups, List.map_flatten]
  congr 2
  funext entries
  exact Expr.entriesSwitched_eq_map active inside entries

/-- Switching keeps plain entries of `GROUP BY` and which of them are static. -/
theorem GroupsArePlain.values_switched {statement : Statement} (plain : statement.GroupsArePlain)
    (active : Bool) :
    (statement.switched active true).groups.map Entry.value = statement.groups.map Entry.value
      ∧ staticValues (statement.switched active true).groups
        = staticValues statement.groups := by
  have unchanged : ∀ entry ∈ statement.groups,
      (Expr.entrySwitched active true entry).value = entry.value := by
    intro entry mem
    rw [Expr.value_entrySwitched, plain.of_mem_groups mem active]
  have sameStatic : Entry.isStatic ∘ Expr.entrySwitched active true = Entry.isStatic := by
    funext entry
    obtain ⟨presence, expr⟩ := entry
    exact Presence.isStatic_switched active presence
  rw [groups_switched, staticValues, staticValues, List.filter_map, List.map_map, List.map_map,
    sameStatic]
  exact ⟨List.map_congr_left unchanged,
    List.map_congr_left fun entry mem => unchanged entry (List.mem_filter.1 mem).1⟩

theorem targets_switched (active inside : Bool) (statement : Statement) :
    (statement.switched active inside).clauses.filterMap Clause.target?
      = statement.clauses.filterMap Clause.target? := by
  rw [clauses_switched, List.filterMap_map]
  congr 1
  funext clause
  cases clause <;> rfl

/-- The names of a statement do not depend on what is active. -/
theorem names_switched (active inside : Bool) (statement : Statement) :
    (statement.switched active inside).scope.names = statement.scope.names := by
  rw [scope, clauses_switched, ← Clause.listSwitched_eq_map]
  exact Clause.listNames_switched active inside statement.clauses

/-- With plain entries of `GROUP BY`, the scope does not depend on what is active. -/
theorem scope_switched {statement : Statement} (plain : statement.GroupsArePlain) (active : Bool) :
    (statement.switched active true).scope = statement.scope := by
  obtain ⟨values, statics⟩ := plain.values_switched active
  have grouped := groupEntries_switched active true statement
  unfold groups at values statics
  rw [grouped] at values statics
  rw [scope, scope, Scope.ofClauses, Scope.ofClauses, grouped, List.isEmpty_map,
    targets_switched, values, statics]
  congr 1
  exact names_switched active true statement

/-- The grouped expressions of a scope are entries of `GROUP BY`. -/
theorem GroupsArePlain.scope {statement : Statement} (plain : statement.GroupsArePlain) :
    (∀ key ∈ statement.scope.groupBy.toList, key.IsPlain)
      ∧ ∀ key ∈ statement.scope.staticGroupBy.toList, key.IsPlain := by
  constructor
  · intro key mem
    obtain ⟨entry, entryMem, rfl⟩ := List.mem_map.1 (OrderedSet.mem_of_mem_ofList mem)
    exact plain.of_mem_groups entryMem
  · intro key mem
    obtain ⟨entry, entryMem, rfl⟩ := List.mem_map.1 (OrderedSet.mem_of_mem_ofList mem)
    exact plain.of_mem_groups (List.mem_filter.1 entryMem).1

end Statement

/-! ## Checks -/

/-- The assignments of an update, and the call that gives them. -/
def Clause.update? : Clause → Option (Origin × List (Entry Assignment))
  | .set assignments => some (.set, assignments)
  | .onConflict _ (.doUpdate assignments _) => some (.doUpdate, assignments)
  | _ => none

/-- The verdict says that the clause is an update that assigns nothing, and that is so. -/
def Clause.LacksAssignments (clause : Clause) (verdict : Except Error Unit) : Prop :=
  ∃ origin assignments, clause.update? = some (origin, assignments)
    ∧ (∀ assignment ∈ assignments, assignment.isActive = false)
    ∧ verdict = fail origin .assignmentsRequired

theorem Clause.not_lacksAssignments_ok (clause : Clause) :
    ¬ clause.LacksAssignments (.ok ()) := by
  rintro ⟨origin, assignments, -, -, failed⟩
  cases failed

/-- The verdict says that an update of the statement assigns nothing, and that is so. -/
def Statement.LacksAssignments (statement : Statement) (verdict : Except Error Unit) : Prop :=
  ∃ clause ∈ statement.clauses, clause.LacksAssignments verdict

namespace Clause

theorem origin_switched (active inside : Bool) (clause : Clause) :
    (clause.switched active inside).origin = clause.origin := by
  cases clause with
  | values content => cases content <;> rfl
  | _ => rfl

theorem checkStatics_switched (active inside : Bool) (names : Names) (clause : Clause) :
    (clause.switched active inside).checkStatics names = clause.checkStatics names := by
  rw [checkStatics, checkStatics, names_switched, origin_switched]

theorem checkProvided_switched (active inside : Bool) (names : Names) (clause : Clause) :
    (clause.switched active inside).checkProvided names = clause.checkProvided names := by
  rw [checkProvided, checkProvided, names_switched, origin_switched]

end Clause

theorem assignedColumns_switched (active inside : Bool) (assignments : List (Entry Assignment)) :
    assignedColumns (Assignment.entriesSwitched active inside assignments)
      = assignedColumns assignments := by
  induction assignments with
  | nil => rfl
  | cons assignment assignments ih =>
      obtain ⟨presence, column, value?⟩ := assignment
      unfold assignedColumns at ih ⊢
      rw [Assignment.entriesSwitched, List.map_cons, List.map_cons, ih]

theorem staticColumns_switched (active inside : Bool) (assignments : List (Entry Assignment)) :
    (staticValues (Assignment.entriesSwitched active inside assignments)).map Assignment.column
      = (staticValues assignments).map Assignment.column := by
  induction assignments with
  | nil => rfl
  | cons assignment assignments ih =>
      obtain ⟨presence, column, value?⟩ := assignment
      unfold staticValues at ih ⊢
      cases isStatic : presence.isStatic <;>
        simp [Assignment.entriesSwitched, Entry.isStatic, isStatic, ih]

theorem InsertValues.origin_switched (active inside : Bool) (content : InsertValues) :
    (content.switched active inside).origin = content.origin := by
  cases content <;> rfl

theorem InsertValues.columns_switched (active inside : Bool) (content : InsertValues) :
    (content.switched active inside).columns = content.columns := by
  cases content with
  | set assignments => exact assignedColumns_switched active inside assignments
  | _ => rfl

theorem InsertValues.missingColumns_switched (active inside : Bool) (content : InsertValues)
    (target : Table) :
    (content.switched active inside).missingColumns target = content.missingColumns target := by
  have sameStatic :
      (content.switched active inside).staticColumns = content.staticColumns := by
    cases content with
    | set assignments => exact staticColumns_switched active inside assignments
    | _ => rfl
  rw [missingColumns, missingColumns, sameStatic]

theorem kinds_switched (active : Bool) (columns : List (Entry SelectColumn)) :
    (SelectColumn.entriesSwitched active true columns).map
        (fun ⟨_, column⟩ => column.expr.aggregateKind)
      = columns.map fun ⟨_, column⟩ => column.expr.aggregateKind := by
  induction columns with
  | nil => rfl
  | cons column columns ih =>
      obtain ⟨presence, expr, name, aliased⟩ := column
      simp only [SelectColumn.entriesSwitched, List.map_cons, Expr.aggregateKind_switched, ih]

theorem any_containsAggregate_switched (active : Bool) (orders : List (Entry SortOrder)) :
    (SortOrder.entriesSwitched active true orders).any
        (fun order => order.value.expr.containsAggregate)
      = orders.any fun order => order.value.expr.containsAggregate := by
  induction orders with
  | nil => rfl
  | cons order orders ih =>
      obtain ⟨presence, expr, direction, nulls?⟩ := order
      simp only [SortOrder.entriesSwitched, List.any_cons, Expr.containsAggregate_switched, ih]

/-- Made active, assignments are active if there are some. -/
theorem any_isActive_switched (inside : Bool) (assignments : List (Entry Assignment)) :
    (Assignment.entriesSwitched true inside assignments).any Entry.isActive
      = !assignments.isEmpty := by
  cases assignments with
  | nil => rfl
  | cons assignment assignments =>
      obtain ⟨presence, column, value?⟩ := assignment
      simp [Assignment.entriesSwitched, Entry.isActive]

/-- The rule that some assignment is active holds of assignments that are made active, or all of
them are inactive. -/
theorem require_isActive_or (origin : Origin) (assignments : List (Entry Assignment)) :
    require (assignments.any Entry.isActive) origin .assignmentsRequired
        = require (!assignments.isEmpty) origin .assignmentsRequired
      ∨ (∀ assignment ∈ assignments, assignment.isActive = false)
        ∧ require (assignments.any Entry.isActive) origin .assignmentsRequired
          = fail origin .assignmentsRequired := by
  cases someActive : assignments.any Entry.isActive with
  | true =>
      cases assignments with
      | nil => cases someActive
      | cons => exact .inl rfl
  | false =>
      rw [List.any_eq_false] at someActive
      refine .inr ⟨fun assignment mem => ?_, rfl⟩
      exact Bool.eq_false_iff.2 (someActive assignment mem)

section Consistency

variable {scope : Scope} (grouped : ∀ key ∈ scope.groupBy.toList, key.IsPlain)
  (groupedStatically : ∀ key ∈ scope.staticGroupBy.toList, key.IsPlain)

include grouped groupedStatically

theorem requireGrouped_switched (origin : Origin) (isStatic active : Bool) (expr : Expr) :
    requireGrouped origin scope isStatic (expr.switched active true)
      = requireGrouped origin scope isStatic expr := by
  rw [requireGrouped, requireGrouped, Expr.isAggregateOver_switched grouped,
    Expr.isAggregateOver_switched groupedStatically]

theorem forM_columns_switched (active : Bool) (columns : List (Entry SelectColumn)) :
    (SelectColumn.entriesSwitched active true columns).forM (fun ⟨presence, column⟩ =>
        requireGrouped .select scope presence.isStatic column.expr)
      = columns.forM fun ⟨presence, column⟩ =>
        requireGrouped .select scope presence.isStatic column.expr := by
  induction columns with
  | nil => rfl
  | cons column columns ih =>
      obtain ⟨presence, expr, name, aliased⟩ := column
      simp only [SelectColumn.entriesSwitched, List.forM, Presence.isStatic_switched,
        requireGrouped_switched grouped groupedStatically, ih]

theorem forM_orders_switched (active : Bool) (orders : List (Entry SortOrder)) :
    (SortOrder.entriesSwitched active true orders).forM (fun ⟨presence, order⟩ =>
        requireGrouped .orderBy scope presence.isStatic order.expr)
      = orders.forM fun ⟨presence, order⟩ =>
        requireGrouped .orderBy scope presence.isStatic order.expr := by
  induction orders with
  | nil => rfl
  | cons order orders ih =>
      obtain ⟨presence, expr, direction, nulls?⟩ := order
      simp only [SortOrder.entriesSwitched, List.forM, Presence.isStatic_switched,
        requireGrouped_switched grouped groupedStatically, ih]

/-- The check of a clause that is no update does not depend on what is active. -/
theorem Clause.checkConsistency_switched {clause : Clause} (noUpdate : clause.update? = none)
    (active : Bool) :
    (clause.switched active true).checkConsistency scope = clause.checkConsistency scope := by
  cases clause with
  | columns distinct columns =>
      simp only [switched, checkConsistency,
        forM_columns_switched grouped groupedStatically, kinds_switched]
  | set assignments => cases noUpdate
  | values content =>
      simp only [switched, checkConsistency, InsertValues.origin_switched,
        InsertValues.columns_switched, InsertValues.missingColumns_switched]
  | having condition =>
      obtain ⟨presence, condition⟩ := condition
      have noKeys : ∀ key ∈ (∅ : OrderedSet Expr).toList, key.IsPlain := by rintro key ⟨⟩
      have alone := Expr.isAggregateOver_switched noKeys active condition
      simp only [switched, Expr.entrySwitched, checkConsistency, Presence.isStatic_switched,
        requireGrouped_switched grouped groupedStatically, alone]
  | orderBy orders =>
      simp only [switched, checkConsistency, forM_orders_switched grouped groupedStatically,
        any_containsAggregate_switched]
  | onConflict keys action =>
      cases action with
      | doNothing => rfl
      | doUpdate assignments condition? => cases noUpdate
  | _ => rfl

/-- Made active, a clause passes or fails as it does, unless it is an update that assigns
nothing. -/
theorem Clause.checkConsistency_eq_or (clause : Clause) :
    clause.checkConsistency scope = (clause.switched true true).checkConsistency scope
      ∨ clause.LacksAssignments (clause.checkConsistency scope) := by
  cases found : clause.update? with
  | none =>
      exact .inl (checkConsistency_switched grouped groupedStatically found true).symm
  | some update =>
      cases clause with
      | set assignments =>
          simp only [switched, checkConsistency, assignedColumns_switched, any_isActive_switched]
          cases own : requireOwnColumns .set scope.target? (assignedColumns assignments) with
          | error error => exact .inl rfl
          | ok =>
              refine (require_isActive_or .set assignments).imp id fun lacks => ?_
              exact ⟨.set, assignments, rfl, lacks.1, lacks.2⟩
      | onConflict keys action =>
          cases action with
          | doNothing => cases found
          | doUpdate assignments condition? =>
              have given : (Expr.entryOptionSwitched true true condition?).isSome
                  = condition?.isSome := by cases condition? <;> rfl
              simp only [switched, ConflictAction.switched, checkConsistency,
                assignedColumns_switched, any_isActive_switched, given]
              cases ownKeys : requireOwnColumns .onConflict scope.target? keys with
              | error error => exact .inl rfl
              | ok =>
                  cases own : requireOwnColumns .doUpdate scope.target?
                      (assignedColumns assignments) with
                  | error error => exact .inl rfl
                  | ok =>
                      rcases require_isActive_or .doUpdate assignments with
                        same | ⟨inactive, fails⟩
                      · rw [same]
                        exact .inl rfl
                      · rw [fails]
                        exact .inr ⟨.doUpdate, assignments, rfl, inactive, rfl⟩
      | _ => cases found

end Consistency

/-! ## Statements -/

/-- Two checks fail alike, or the first one has an excuse, no matter what is checked next. -/
theorem bind_eq_or {check other : Except Error Unit} {Excuse : Except Error Unit → Prop}
    (next : Except Error Unit) (excuses : ¬ Excuse (.ok ())) (alike : check = other ∨ Excuse check) :
    (check >>= fun _ => next) = (other >>= fun _ => next) ∨ Excuse (check >>= fun _ => next) := by
  rcases alike with rfl | excused
  · exact .inl rfl
  · cases check with
    | error error => exact .inr excused
    | ok => exact absurd excused excuses

/-- Two checks of a list fail alike, or the first one fails at an item with an excuse. -/
theorem forM_eq_or {α : Type} {items : List α} {check other : α → Except Error Unit}
    {Excuse : α → Except Error Unit → Prop} (excuses : ∀ item, ¬ Excuse item (.ok ()))
    (step : ∀ item, check item = other item ∨ Excuse item (check item)) :
    items.forM check = items.forM other ∨ ∃ item ∈ items, Excuse item (items.forM check) := by
  induction items with
  | nil => exact .inl rfl
  | cons item items ih =>
      rw [List.forM, List.forM]
      rcases bind_eq_or (items.forM check) (excuses item) (step item) with same | excused
      · rw [same]
        cases other item with
        | error error => exact .inl rfl
        | ok =>
            refine ih.imp id ?_
            rintro ⟨later, mem, excused⟩
            exact ⟨later, .tail _ mem, excused⟩
      · exact .inr ⟨item, .head _, excused⟩

namespace Statement

theorem isEmpty_entriesSwitched (active inside : Bool) (columns : List (Entry SelectColumn)) :
    (SelectColumn.entriesSwitched active inside columns).isEmpty = columns.isEmpty := by
  rcases columns with _ | ⟨⟨presence, expr, name, aliased⟩, columns⟩ <;> rfl

theorem isComplete_switched (active inside : Bool) (content : InsertValues) :
    (content.switched active inside).isComplete = content.isComplete := by
  cases content with
  | rows columns rows => cases rows <;> rfl
  | _ => rfl

theorem inserted?_switched (active inside : Bool) (clause : Clause) :
    (clause.switched active inside).inserted?
      = clause.inserted?.map (InsertValues.switched active inside) := by
  cases clause <;> rfl

theorem any_switched {active inside : Bool} {test : Clause → Bool}
    (same : ∀ clause, test (clause.switched active inside) = test clause)
    (statement : Statement) :
    (statement.switched active inside).clauses.any test = statement.clauses.any test := by
  rw [clauses_switched, List.any_map]
  congr 1
  exact funext same

/-- Whether a statement is complete does not depend on what is active. -/
theorem checkComplete_switched (active inside : Bool) (statement : Statement) :
    (statement.switched active inside).checkComplete = statement.checkComplete := by
  have whereKept : ∀ clause : Clause, (clause.switched active inside).isWhere = clause.isWhere :=
    fun clause => by cases clause <;> rfl
  have setKept : ∀ clause : Clause, (clause.switched active inside).isSet = clause.isSet :=
    fun clause => by cases clause <;> rfl
  cases statement with
  | select statement =>
      have found := findSome?_switched (Clause.selected?_switched active inside) statement.clauses
      simp only [switched, checkComplete, Clause.listSwitched_eq_map, found]
      cases statement.clauses.findSome? Clause.selected? with
      | none => rfl
      | some columns =>
          simp only [Option.map_some, Option.getD_some, isEmpty_entriesSwitched]
  | insert statement =>
      have found := findSome?_switched (inserted?_switched active inside) statement.clauses
      simp only [switched, checkComplete, Clause.listSwitched_eq_map, found]
      cases statement.clauses.findSome? Clause.inserted? with
      | none => rfl
      | some content => simp only [Option.map_some, isComplete_switched]
  | update statement =>
      have sets := any_switched setKept (.update statement)
      have wheres := any_switched whereKept (.update statement)
      simp only [switched, clauses] at sets wheres
      simp only [switched, checkComplete, sets, wheres]
  | delete statement =>
      have wheres := any_switched whereKept (.delete statement)
      simp only [switched, clauses] at wheres
      simp only [switched, checkComplete, wheres]

/-- A check of each clause, if the clauses are switched first. -/
theorem forM_switched {active inside : Bool} {statement : Statement}
    {check other : Clause → Except Error Unit}
    (same : ∀ clause, check (clause.switched active inside) = other clause) :
    (statement.switched active inside).clauses.forM check = statement.clauses.forM other := by
  rw [clauses_switched]
  induction statement.clauses with
  | nil => rfl
  | cons clause clauses ih => rw [List.map_cons, List.forM, List.forM, same, ih]

theorem not_lacksAssignments_ok (statement : Statement) :
    ¬ statement.LacksAssignments (.ok ()) := by
  rintro ⟨clause, -, lacks⟩
  exact clause.not_lacksAssignments_ok lacks

/-- A statement passes or fails as it does with all of it active, unless an update in it assigns
nothing. -/
theorem checkConsistency_eq_or {statement : Statement} (plain : statement.GroupsArePlain) :
    statement.checkConsistency = (statement.switched true true).checkConsistency
      ∨ statement.LacksAssignments statement.checkConsistency := by
  obtain ⟨grouped, groupedStatically⟩ := plain.scope
  have statics : (statement.switched true true).clauses.forM
      (Clause.checkStatics statement.scope.names)
        = statement.clauses.forM (Clause.checkStatics statement.scope.names) :=
    forM_switched (Clause.checkStatics_switched true true _)
  have rules : (statement.switched true true).clauses.forM
      (Clause.checkConsistency statement.scope)
        = statement.clauses.forM fun clause =>
          (clause.switched true true).checkConsistency statement.scope :=
    forM_switched fun clause => rfl
  rw [checkConsistency, checkConsistency, scope_switched plain, checkComplete_switched, statics,
    rules]
  exact bind_eq_or _ statement.not_lacksAssignments_ok
    (forM_eq_or Clause.not_lacksAssignments_ok
      (Clause.checkConsistency_eq_or grouped groupedStatically))

/-- The same of the check that asks for every name. -/
theorem checkPrepare_eq_or {statement : Statement} (plain : statement.GroupsArePlain) :
    statement.checkPrepare = (statement.switched true true).checkPrepare
      ∨ statement.LacksAssignments statement.checkPrepare := by
  have provided : (statement.switched true true).clauses.forM
      (Clause.checkProvided statement.scope.names)
        = statement.clauses.forM (Clause.checkProvided statement.scope.names) :=
    forM_switched (Clause.checkProvided_switched true true _)
  rw [checkPrepare, checkPrepare, names_switched, provided]
  exact bind_eq_or _ statement.not_lacksAssignments_ok (checkConsistency_eq_or plain)

/-- Statements that differ in what is active have the same scope and the same result row, and both
checks give them the same verdict, unless one of them fails because an update in it has no active
assignment. -/
theorem verdicts_agree {first second : Statement}
    (same : first.switched true true = second.switched true true)
    (firstPlain : first.GroupsArePlain) (secondPlain : second.GroupsArePlain) :
    first.scope = second.scope ∧ first.fields = second.fields
      ∧ (first.checkConsistency = second.checkConsistency
        ∨ first.LacksAssignments first.checkConsistency
        ∨ second.LacksAssignments second.checkConsistency)
      ∧ (first.checkPrepare = second.checkPrepare
        ∨ first.LacksAssignments first.checkPrepare
        ∨ second.LacksAssignments second.checkPrepare) := by
  refine ⟨?_, ?_, ?_, ?_⟩
  · rw [← scope_switched firstPlain true, same, scope_switched secondPlain]
  · rw [← fields_switched true true first, same, fields_switched]
  · rcases checkConsistency_eq_or firstPlain with firstSame | lacks
    · rcases checkConsistency_eq_or secondPlain with secondSame | lacks
      · exact .inl (by rw [firstSame, same, secondSame])
      · exact .inr (.inr lacks)
    · exact .inr (.inl lacks)
  · rcases checkPrepare_eq_or firstPlain with firstSame | lacks
    · rcases checkPrepare_eq_or secondPlain with secondSame | lacks
      · exact .inl (by rw [firstSame, same, secondSame])
      · exact .inr (.inr lacks)
    · exact .inr (.inl lacks)

/-- A select of `foo.id` in groups of the same number, under a condition that may be there. -/
def grouped (active : Bool) : Statement :=
  .select ⟨(Select.ofId "foo" "foo").clauses
    ++ [.where (some (.dynamic active (.value (.bool true)))),
      .groupBy [.static (.column (.ofId "foo"))]]⟩

theorem grouped_plain (active : Bool) : (grouped active).GroupsArePlain := by
  intro entries mem entry entryMem
  simp only [grouped, clauses, Select.ofId, Select.ofColumn, List.cons_append, List.nil_append,
    List.mem_cons, reduceCtorEq, Clause.groupBy.injEq, List.not_mem_nil, or_false,
    false_or] at mem
  subst mem
  obtain rfl := List.mem_singleton.1 entryMem
  exact fun _ => rfl

/-- The verdict on `grouped` is the same with the condition and without it. -/
theorem grouped_verdicts :
    (grouped true).switched true true = (grouped false).switched true true
      ∧ (grouped true).checkPrepare = (grouped false).checkPrepare := by
  have same : (grouped true).switched true true = (grouped false).switched true true := rfl
  obtain ⟨-, -, -, verdicts⟩ := verdicts_agree same (grouped_plain true) (grouped_plain false)
  have noUpdate : ∀ active, ¬ (grouped active).LacksAssignments (grouped active).checkPrepare := by
    rintro active ⟨clause, mem, origin, assignments, isUpdate, -⟩
    simp only [grouped, clauses, Select.ofId, Select.ofColumn, List.cons_append, List.nil_append,
      List.mem_cons, List.not_mem_nil, or_false] at mem
    rcases mem with rfl | rfl | rfl | rfl <;> cases isUpdate
  exact ⟨same, verdicts.resolve_right (not_or.2 ⟨noUpdate true, noUpdate false⟩)⟩

end Statement

end CheckedSql
