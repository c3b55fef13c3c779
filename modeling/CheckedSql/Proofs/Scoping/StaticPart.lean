import CheckedSql.Proofs.Scoping.Accounting
import CheckedSql.Proofs.Scoping.Inclusion

/-!
# Static parts

The static part of an expression, a table reference or a clause is what is left of it
without its dynamic elements: operands of `AND` and `OR` at any depth, joins with their
conditions, and the entries of clauses.  Selects in it are scopes of their own and are left
as they are.

The checks keep a second set of needed names for what is always there, which is computed
beside the first one and not from the static part.  `Needs.Accounts` compares the two: what
is always needed is all that the static part needs.  It holds of every expression
(`Expr.accounts`).  In a table reference the conditions of static joins are the exception.
They count with all common table expressions that they read
(`TableRef.contains_needs_staticCtes`).
-/

namespace CheckedSql

/-! ## Static parts -/

mutual

/-- The expression without its dynamic operands.  A select in it is left as it is. -/
def Expr.staticPart : Expr → Expr
  | .column given => .column given
  | .value given => .value given
  | .parameter given => .parameter given
  | .unary operator operand => .unary operator (Expr.staticPart operand)
  | .binary operator left right type =>
      .binary operator (Expr.staticPart left) (Expr.staticPart right) type
  | .concat left right => .concat (Expr.staticPart left) (Expr.staticPart right)
  | .chain connective operands => .chain connective (Expr.entriesStaticPart operands)
  | .within negated tested items =>
      .within negated (Expr.staticPart tested) (Expr.listStaticPart items)
  | .between tested low high =>
      .between (Expr.staticPart tested) (Expr.staticPart low) (Expr.staticPart high)
  | .cases branches otherwise type =>
      .cases (Expr.branchesStaticPart branches) (Expr.staticPart otherwise) type
  | .aggregate call argument? => .aggregate call (Expr.optionStaticPart argument?)
  | .groupKey inner => .groupKey (Expr.staticPart inner)
  | .existsIn select => .existsIn select
  | .subquery select => .subquery select

/-- An optional expression without dynamic operands. -/
def Expr.optionStaticPart : Option Expr → Option Expr
  | none => none
  | some expr => some (Expr.staticPart expr)

/-- Expressions without dynamic operands. -/
def Expr.listStaticPart : List Expr → List Expr
  | [] => []
  | expr :: exprs => Expr.staticPart expr :: Expr.listStaticPart exprs

/-- The branches of a `CASE` without dynamic operands. -/
def Expr.branchesStaticPart : List (Expr × Expr) → List (Expr × Expr)
  | [] => []
  | (condition, result) :: branches =>
      (Expr.staticPart condition, Expr.staticPart result) :: Expr.branchesStaticPart branches

/-- The static entries. -/
def Expr.entriesStaticPart : List (Entry Expr) → List (Entry Expr)
  | [] => []
  | ⟨presence, expr⟩ :: entries =>
      if presence.isStatic then ⟨presence, Expr.staticPart expr⟩ :: Expr.entriesStaticPart entries
      else Expr.entriesStaticPart entries

end

/-- The static entries, each without its own dynamic parts. -/
def staticEntries {α : Type} (staticPart : α → α) (entries : List (Entry α)) : List (Entry α) :=
  (entries.filter Entry.isStatic).map (Entry.map staticPart)

/-- The entry without its own dynamic parts, if it is static. -/
def Expr.entryStaticPart? (entry : Entry Expr) : Option (Entry Expr) :=
  if entry.isStatic then some (entry.map Expr.staticPart) else none

/-- The result column without the dynamic operands in its expression. -/
def SelectColumn.staticPart (column : SelectColumn) : SelectColumn :=
  { column with expr := column.expr.staticPart }

/-- The assignment without the dynamic operands in its value. -/
def Assignment.staticPart (assignment : Assignment) : Assignment :=
  { assignment with value? := Expr.optionStaticPart assignment.value? }

/-- The sort order without the dynamic operands in its expression. -/
def SortOrder.staticPart (order : SortOrder) : SortOrder :=
  { order with expr := order.expr.staticPart }

/-- Inserted values without dynamic parts. -/
def InsertValues.staticPart : InsertValues → InsertValues
  | .defaultValues => .defaultValues
  | .set assignments => .set (staticEntries Assignment.staticPart assignments)
  | .rows listed given => .rows listed (given.map Expr.listStaticPart)

/-- A conflict action without dynamic parts. -/
def ConflictAction.staticPart : ConflictAction → ConflictAction
  | .doNothing => .doNothing
  | .doUpdate assignments condition? =>
      .doUpdate (staticEntries Assignment.staticPart assignments)
        (condition?.bind Expr.entryStaticPart?)

/-- The table reference without its dynamic joins, and the conditions without dynamic operands. -/
def TableRef.staticPart : TableRef → TableRef
  | .table declared => .table declared
  | .cte reference => .cte reference
  | .subSelect derived => .subSelect derived
  | .join left kind ⟨presence, right⟩ condition? =>
      if presence.isStatic then
        .join (TableRef.staticPart left) kind ⟨presence, TableRef.staticPart right⟩
          (Expr.optionStaticPart condition?)
      else TableRef.staticPart left

/-- What is left of a clause without its dynamic parts: the clause, or nothing if it is dynamic
itself. -/
def Clause.staticPart : Clause → List Clause
  | .with ctes => [.with (ctes.filter Entry.isStatic)]
  | .columns distinct entries => [.columns distinct (staticEntries SelectColumn.staticPart entries)]
  | .target kind declared => [.target kind declared]
  | .set assignments => [.set (staticEntries Assignment.staticPart assignments)]
  | .values content => [.values content.staticPart]
  | .source kind ref => [.source kind ref.staticPart]
  | .where none => [.where none]
  | .where (some condition) => (Expr.entryStaticPart? condition).toList.map (.where ∘ some)
  | .groupBy entries => [.groupBy (Expr.entriesStaticPart entries)]
  | .having condition => (Expr.entryStaticPart? condition).toList.map .having
  | .union distinct arm => if arm.isStatic then [.union distinct arm] else []
  | .orderBy orders => [.orderBy (staticEntries SortOrder.staticPart orders)]
  | .limit kind count => [.limit kind count.staticPart]
  | .onConflict keys action => [.onConflict keys action.staticPart]
  | .returning entries => [.returning (staticEntries SelectColumn.staticPart entries)]

/-! ## What is accounted for -/

namespace Needs

/-- What is always read is all that the rest reads. -/
structure Accounts (needs rest : Needs) : Prop where
  tables : ∀ table, needs.staticTables.contains table = rest.tables.contains table
  ctes : ∀ name, needs.staticCtes.contains name = rest.ctes.contains name

namespace Accounts

variable {needs rest left leftRest right rightRest : Needs}

theorem empty : Accounts ∅ ∅ := ⟨fun _ => rfl, fun _ => rfl⟩

theorem ofTable (identity : String) : Accounts (.ofTable identity) (.ofTable identity) :=
  ⟨fun _ => rfl, fun _ => rfl⟩

/-- All that a select reads counts as always read. -/
theorem unresolved (names : Names) : Accounts names.unresolved names.unresolved :=
  ⟨fun _ => rfl, fun _ => rfl⟩

theorem union (leftAccounts : Accounts left leftRest) (rightAccounts : Accounts right rightRest) :
    Accounts (left ∪ right) (leftRest ∪ rightRest) where
  tables table := by simp [leftAccounts.tables, rightAccounts.tables]
  ctes name := by simp [leftAccounts.ctes, rightAccounts.ctes]

/-- Nothing is always read in a dynamic part. -/
theorem asDynamic (needs : Needs) : Accounts needs.asDynamic ∅ := ⟨fun _ => rfl, fun _ => rfl⟩

theorem union_empty (accounts : Accounts needs rest) : Accounts needs (rest ∪ ∅) where
  tables table := by simpa using accounts.tables table
  ctes name := by simpa using accounts.ctes name

theorem empty_union (accounts : Accounts needs (∅ ∪ rest)) : Accounts needs rest where
  tables table := by simpa using accounts.tables table
  ctes name := by simpa using accounts.ctes name

end Accounts

end Needs

/-! ## Expressions -/

mutual

/-- An expression always reads what it reads without its dynamic operands. -/
theorem Expr.accounts : ∀ expr : Expr, expr.needs.Accounts expr.staticPart.needs
  | .column given => .ofTable given.qualifier
  | .value _ => .empty
  | .parameter _ => .empty
  | .unary _ operand => Expr.accounts operand
  | .binary _ left right _ => (Expr.accounts left).union (Expr.accounts right)
  | .concat left right => (Expr.accounts left).union (Expr.accounts right)
  | .chain _ operands => Expr.accounts_entries operands
  | .within _ tested items => (Expr.accounts tested).union (Expr.accounts_list items)
  | .between tested low high =>
      ((Expr.accounts tested).union (Expr.accounts low)).union (Expr.accounts high)
  | .cases branches otherwise _ =>
      (Expr.accounts_branches branches).union (Expr.accounts otherwise)
  | .aggregate _ argument? => Expr.accounts_option argument?
  | .groupKey inner => Expr.accounts inner
  | .existsIn select => .unresolved select.names
  | .subquery select => .unresolved select.names

theorem Expr.accounts_option : ∀ expr? : Option Expr,
    (Expr.optionNeeds expr?).Accounts (Expr.optionNeeds (Expr.optionStaticPart expr?))
  | none => .empty
  | some expr => Expr.accounts expr

theorem Expr.accounts_list : ∀ exprs : List Expr,
    (Expr.listNeeds exprs).Accounts (Expr.listNeeds (Expr.listStaticPart exprs))
  | [] => .empty
  | expr :: exprs => (Expr.accounts expr).union (Expr.accounts_list exprs)

theorem Expr.accounts_branches : ∀ branches : List (Expr × Expr),
    (Expr.branchesNeeds branches).Accounts
      (Expr.branchesNeeds (Expr.branchesStaticPart branches))
  | [] => .empty
  | (condition, result) :: branches =>
      ((Expr.accounts condition).union (Expr.accounts result)).union
        (Expr.accounts_branches branches)

theorem Expr.accounts_entries : ∀ entries : List (Entry Expr),
    (Expr.entriesNeeds entries).Accounts (Expr.entriesNeeds (Expr.entriesStaticPart entries))
  | [] => .empty
  | ⟨.static, expr⟩ :: entries => (Expr.accounts expr).union (Expr.accounts_entries entries)
  | ⟨.dynamic _, expr⟩ :: entries =>
      ((Needs.Accounts.asDynamic expr.needs).union (Expr.accounts_entries entries)).empty_union

end

/-! ## Lists of entries -/

/-- The static entries always read what they read without their own dynamic parts. -/
theorem Needs.Accounts.of_entries {α : Type} {n : α → Needs} {f : List (Entry α) → Needs}
    (nil : f [] = ∅)
    (cons : ∀ entry entries, f (entry :: entries)
      = .within entry.presence (n entry.value) ∪ f entries)
    {staticPart : α → α} (each : ∀ value, (n value).Accounts (n (staticPart value)))
    (entries : List (Entry α)) : (f entries).Accounts (f (staticEntries staticPart entries)) := by
  induction entries with
  | nil =>
      rw [show staticEntries staticPart [] = [] from rfl, nil]
      exact empty
  | cons entry entries ih =>
      obtain ⟨presence, value⟩ := entry
      rw [cons]
      cases presence with
      | static =>
          rw [show staticEntries staticPart (⟨.static, value⟩ :: entries)
            = ⟨.static, staticPart value⟩ :: staticEntries staticPart entries from rfl, cons]
          exact (each value).union ih
      | dynamic active => exact ((asDynamic (n value)).union ih).empty_union

theorem SelectColumn.accounts_entries (columns : List (Entry SelectColumn)) :
    (entriesNeeds columns).Accounts (entriesNeeds (staticEntries staticPart columns)) :=
  .of_entries (n := fun column => column.expr.needs) rfl (fun ⟨_, _, _, _⟩ _ => rfl)
    (fun column => column.expr.accounts) columns

theorem Assignment.accounts_entries (assignments : List (Entry Assignment)) :
    (entriesNeeds assignments).Accounts (entriesNeeds (staticEntries staticPart assignments)) :=
  .of_entries (n := fun assignment => Expr.optionNeeds assignment.value?) rfl
    (fun ⟨_, _, _⟩ _ => rfl) (fun assignment => Expr.accounts_option assignment.value?) assignments

theorem SortOrder.accounts_entries (orders : List (Entry SortOrder)) :
    (entriesNeeds orders).Accounts (entriesNeeds (staticEntries staticPart orders)) :=
  .of_entries (n := fun order => order.expr.needs) rfl (fun ⟨_, _, _, _⟩ _ => rfl)
    (fun order => order.expr.accounts) orders

theorem Expr.accounts_rows (rows : List (List Expr)) :
    (rowsNeeds rows).Accounts (rowsNeeds (rows.map listStaticPart)) := by
  induction rows with
  | nil => exact .empty
  | cons row rows ih => exact (accounts_list row).union ih

theorem Expr.accounts_entry (condition : Entry Expr) :
    (entryNeeds condition).Accounts (entryOptionNeeds (entryStaticPart? condition)) := by
  obtain ⟨_ | active, expr⟩ := condition
  · exact expr.accounts
  · exact .asDynamic expr.needs

theorem Expr.accounts_entryOption (condition? : Option (Entry Expr)) :
    (entryOptionNeeds condition?).Accounts
      (entryOptionNeeds (condition?.bind entryStaticPart?)) := by
  cases condition? with
  | none => exact .empty
  | some condition => exact accounts_entry condition

theorem InsertValues.accounts (content : InsertValues) :
    content.needs.Accounts content.staticPart.needs := by
  cases content with
  | defaultValues => exact .empty
  | set assignments => exact Assignment.accounts_entries assignments
  | rows listed given => exact Expr.accounts_rows given

theorem ConflictAction.accounts (action : ConflictAction) :
    action.needs.Accounts action.staticPart.needs := by
  cases action with
  | doNothing => exact .empty
  | doUpdate assignments condition? =>
      exact (Assignment.accounts_entries assignments).union (Expr.accounts_entryOption condition?)

/-! ## Table references -/

namespace TableRef

/-- The conditions of the static joins, as they were given. -/
def staticConditions : TableRef → List Expr
  | join left _ ⟨presence, right⟩ condition? =>
      if presence.isStatic then
        staticConditions left ++ staticConditions right ++ condition?.toList
      else staticConditions left
  | table _ | cte _ | subSelect _ => []

/-- What is not a join always provides what it provides. -/
theorem staticTables_subSelect (derived : SubSelect) :
    (subSelect derived).names.staticTables = (subSelect derived).names.tables := by
  cases derived
  rfl

/-- A table reference always provides what it provides without its dynamic joins. -/
theorem contains_staticTables_eq (ref : TableRef) (table : String) :
    ref.names.staticTables.contains table = ref.staticPart.names.tables.contains table := by
  induction ref using staticPart.induct with
  | case1 declared => rfl
  | case2 reference => rfl
  | case3 derived => rw [staticTables_subSelect, staticPart]
  | case4 left kind presence right condition? isStatic leftIh rightIh =>
      simp [staticPart, isStatic, names, JoinKind.names, leftIh, rightIh]
  | case5 left kind presence right condition? isDynamic leftIh =>
      simp [staticPart, isDynamic, names, JoinKind.names, leftIh]

/-- A table reference without its dynamic joins needs no further tables. -/
theorem contains_needs_of_staticPart (ref : TableRef) {table : String}
    (needed : ref.staticPart.names.needs.tables.contains table = true) :
    ref.names.needs.tables.contains table = true := by
  induction ref using staticPart.induct with
  | case1 declared => exact needed
  | case2 reference => exact needed
  | case3 derived => rwa [staticPart] at needed
  | case4 left kind presence right condition? isStatic leftIh rightIh =>
      simp only [staticPart, isStatic, if_true, names, JoinKind.names, OrderedSet.contains_union,
        Bool.or_eq_true] at needed ⊢
      exact needed.imp leftIh rightIh
  | case5 left kind presence right condition? isDynamic leftIh =>
      simp only [staticPart, isDynamic, names, JoinKind.names, OrderedSet.contains_union,
        Bool.or_eq_true] at needed ⊢
      exact .inl (leftIh needed)

/-- A built table reference always needs the tables that it needs without its dynamic joins. -/
theorem contains_needs_staticTables {ref : TableRef} (built : (Part.tableRef ref).Built)
    (table : String) :
    ref.names.needs.staticTables.contains table
      = ref.staticPart.names.needs.tables.contains table := by
  cases ref with
  | table | cte => rfl
  | subSelect derived => cases derived; rfl
  | join left kind right condition? =>
      have closed : (join left kind right condition?).names.needs.tables.contains table = false :=
        contains_needs_of_built_join built
      show (join left kind right condition?).names.needs.tables.contains table = _
      rw [closed, eq_comm, ← Bool.not_eq_true]
      intro needed
      rw [contains_needs_of_staticPart _ needed] at closed
      cases closed

/-- A table reference always reads what it reads without its dynamic joins and operands, and all
that the conditions of its static joins read. -/
theorem contains_needs_staticCtes (ref : TableRef) (name : String) :
    ref.names.needs.staticCtes.contains name = true
      ↔ ref.staticPart.names.needs.ctes.contains name = true
        ∨ ∃ condition ∈ ref.staticConditions, condition.needs.ctes.contains name = true := by
  induction ref using staticPart.induct with
  | case1 declared => simp [names, staticPart, staticConditions]
  | case2 reference => simp [names, staticPart, staticConditions, Needs.ofCte]
  | case3 derived =>
      obtain ⟨select, given, fields⟩ := derived
      simp [names, staticPart, staticConditions, Names.unresolved]
  | case4 left kind presence right condition? isStatic leftIh rightIh =>
      have kept : (Expr.optionNeeds (Expr.optionStaticPart condition?)).ctes.contains name = true →
          (Expr.optionNeeds condition?).ctes.contains name = true := by
        rw [← (Expr.accounts_option condition?).ctes]
        exact (Expr.optionNeeds_proper condition?).ctes name
      have read : (Expr.optionNeeds condition?).ctes.contains name = true
          ↔ ∃ condition ∈ condition?, condition.needs.ctes.contains name = true := by
        cases condition? <;> simp [Expr.optionNeeds]
      rw [read] at kept
      simp only [names, JoinKind.names, staticPart, staticConditions, isStatic, if_true,
        OrderedSet.contains_union, Bool.or_eq_true, leftIh, rightIh, read, List.mem_append,
        Option.mem_toList, or_and_right, exists_or]
      constructor
      · rintro (((inLeft | inConditions) | (inRight | inConditions)) | inCondition)
        · exact .inl (.inl (.inl inLeft))
        · exact .inr (.inl (.inl inConditions))
        · exact .inl (.inl (.inr inRight))
        · exact .inr (.inl (.inr inConditions))
        · exact .inr (.inr inCondition)
      · rintro (((inLeft | inRight) | inKept) | ((inConditions | inConditions) | inCondition))
        · exact .inl (.inl (.inl inLeft))
        · exact .inl (.inr (.inl inRight))
        · exact .inr (kept inKept)
        · exact .inl (.inl (.inr inConditions))
        · exact .inl (.inr (.inr inConditions))
        · exact .inr inCondition
  | case5 left kind presence right condition? isDynamic leftIh =>
      simp [names, JoinKind.names, staticPart, staticConditions, isDynamic, leftIh]

end TableRef

end CheckedSql
