import CheckedSql.Proofs.Part

/-!
# Switching dynamic parts

Whether a dynamic part is active is decided when the statement is built.  `switched`
decides it again: it makes every dynamic part active, or every one inactive, and
changes nothing else.  Two statements differ in the decisions only if they become the
same when they are switched.

A select inside of a statement is a scope of its own.  It is switched with the rest if
`inside` holds, and left as it is otherwise.

The names that a part provides and reads do not depend on the decisions
(`Clause.names_switched`), and neither do types and result rows
(`Expr.type_switched`, `Statement.fields_switched`).
-/

namespace CheckedSql

/-- The presence with its decision replaced. -/
def Presence.switched (active : Bool) : Presence → Presence
  | static => static
  | dynamic _ => dynamic active

@[simp] theorem Presence.isStatic_switched (active : Bool) (presence : Presence) :
    (presence.switched active).isStatic = presence.isStatic := by
  cases presence <;> rfl

@[simp] theorem Presence.isActive_switched_true (presence : Presence) :
    (presence.switched true).isActive = true := by
  cases presence <;> rfl

@[simp] theorem Presence.isActive_switched_false (presence : Presence) :
    (presence.switched false).isActive = presence.isStatic := by
  cases presence <;> rfl

@[simp] theorem Needs.within_switched (active : Bool) (presence : Presence) (needs : Needs) :
    Needs.within (presence.switched active) needs = .within presence needs := by
  cases presence <;> rfl

mutual

/-- The expression with its dynamic operands switched. -/
def Expr.switched (active inside : Bool) : Expr → Expr
  | .column column => .column column
  | .value value => .value value
  | .parameter parameter => .parameter parameter
  | .unary operator operand => .unary operator (Expr.switched active inside operand)
  | .binary operator left right type =>
      .binary operator (Expr.switched active inside left) (Expr.switched active inside right) type
  | .concat left right =>
      .concat (Expr.switched active inside left) (Expr.switched active inside right)
  | .chain connective operands =>
      .chain connective (Expr.entriesSwitched active inside operands)
  | .within negated tested items =>
      .within negated (Expr.switched active inside tested) (Expr.listSwitched active inside items)
  | .between tested low high =>
      .between (Expr.switched active inside tested) (Expr.switched active inside low)
        (Expr.switched active inside high)
  | .cases branches otherwise type =>
      .cases (Expr.branchesSwitched active inside branches)
        (Expr.switched active inside otherwise) type
  | .aggregate call argument? => .aggregate call (Expr.optionSwitched active inside argument?)
  | .groupKey inner => .groupKey (Expr.switched active inside inner)
  | .existsIn select => .existsIn (Select.switched active inside select)
  | .subquery select => .subquery (Select.switched active inside select)

/-- An optional expression with its dynamic operands switched. -/
def Expr.optionSwitched (active inside : Bool) : Option Expr → Option Expr
  | none => none
  | some expr => some (Expr.switched active inside expr)

/-- A list of expressions with their dynamic operands switched. -/
def Expr.listSwitched (active inside : Bool) : List Expr → List Expr
  | [] => []
  | expr :: exprs => Expr.switched active inside expr :: Expr.listSwitched active inside exprs

/-- A list of rows with their dynamic operands switched. -/
def Expr.rowsSwitched (active inside : Bool) : List (List Expr) → List (List Expr)
  | [] => []
  | row :: rows => Expr.listSwitched active inside row :: Expr.rowsSwitched active inside rows

/-- The branches of a `CASE` with their dynamic operands switched. -/
def Expr.branchesSwitched (active inside : Bool) : List (Expr × Expr) → List (Expr × Expr)
  | [] => []
  | (condition, result) :: branches =>
      (Expr.switched active inside condition, Expr.switched active inside result)
        :: Expr.branchesSwitched active inside branches

/-- An entry, switched with what is in it. -/
def Expr.entrySwitched (active inside : Bool) : Entry Expr → Entry Expr
  | ⟨presence, expr⟩ => ⟨presence.switched active, Expr.switched active inside expr⟩

/-- An optional entry, switched with what is in it. -/
def Expr.entryOptionSwitched (active inside : Bool) : Option (Entry Expr) → Option (Entry Expr)
  | none => none
  | some entry => some (Expr.entrySwitched active inside entry)

/-- A list of entries, switched with what is in them. -/
def Expr.entriesSwitched (active inside : Bool) : List (Entry Expr) → List (Entry Expr)
  | [] => []
  | entry :: entries =>
      Expr.entrySwitched active inside entry :: Expr.entriesSwitched active inside entries

/-- The select of a part, which is switched if `inside` holds. -/
def Select.switched (active inside : Bool) : Select → Select
  | ⟨clauses⟩ => if inside then ⟨Clause.listSwitched active inside clauses⟩ else ⟨clauses⟩

/-- An entry, switched with the select in it. -/
def Select.entrySwitched (active inside : Bool) : Entry Select → Entry Select
  | ⟨presence, select⟩ => ⟨presence.switched active, Select.switched active inside select⟩

/-- Result columns, switched with what is in them. -/
def SelectColumn.entriesSwitched (active inside : Bool) :
    List (Entry SelectColumn) → List (Entry SelectColumn)
  | [] => []
  | ⟨presence, expr, name, aliased⟩ :: columns =>
      ⟨presence.switched active, Expr.switched active inside expr, name, aliased⟩
        :: SelectColumn.entriesSwitched active inside columns

/-- Assignments, switched with what is in them. -/
def Assignment.entriesSwitched (active inside : Bool) :
    List (Entry Assignment) → List (Entry Assignment)
  | [] => []
  | ⟨presence, column, value?⟩ :: assignments =>
      ⟨presence.switched active, column, Expr.optionSwitched active inside value?⟩
        :: Assignment.entriesSwitched active inside assignments

/-- Sort orders, switched with what is in them. -/
def SortOrder.entriesSwitched (active inside : Bool) :
    List (Entry SortOrder) → List (Entry SortOrder)
  | [] => []
  | ⟨presence, expr, direction, nulls?⟩ :: orders =>
      ⟨presence.switched active, Expr.switched active inside expr, direction, nulls?⟩
        :: SortOrder.entriesSwitched active inside orders

/-- Inserted values, switched with what is in them. -/
def InsertValues.switched (active inside : Bool) : InsertValues → InsertValues
  | .defaultValues => .defaultValues
  | .set assignments => .set (Assignment.entriesSwitched active inside assignments)
  | .rows columns rows => .rows columns (Expr.rowsSwitched active inside rows)

/-- A conflict action, switched with what is in it. -/
def ConflictAction.switched (active inside : Bool) : ConflictAction → ConflictAction
  | .doNothing => .doNothing
  | .doUpdate assignments condition? =>
      .doUpdate (Assignment.entriesSwitched active inside assignments)
        (Expr.entryOptionSwitched active inside condition?)

/-- The clause with its dynamic parts switched. -/
def Clause.switched (active inside : Bool) : Clause → Clause
  | .with ctes => .with (Cte.entriesSwitched active inside ctes)
  | .columns distinct columns =>
      .columns distinct (SelectColumn.entriesSwitched active inside columns)
  | .target kind table => .target kind table
  | .set assignments => .set (Assignment.entriesSwitched active inside assignments)
  | .values content => .values (InsertValues.switched active inside content)
  | .source kind table => .source kind (TableRef.switched active inside table)
  | .where condition? => .where (Expr.entryOptionSwitched active inside condition?)
  | .groupBy entries => .groupBy (Expr.entriesSwitched active inside entries)
  | .having condition => .having (Expr.entrySwitched active inside condition)
  | .union distinct arm => .union distinct (Select.entrySwitched active inside arm)
  | .orderBy orders => .orderBy (SortOrder.entriesSwitched active inside orders)
  | .limit kind count => .limit kind (Expr.switched active inside count)
  | .onConflict columns action => .onConflict columns (ConflictAction.switched active inside action)
  | .returning columns => .returning (SelectColumn.entriesSwitched active inside columns)

/-- Clauses with their dynamic parts switched. -/
def Clause.listSwitched (active inside : Bool) : List Clause → List Clause
  | [] => []
  | clause :: clauses =>
      Clause.switched active inside clause :: Clause.listSwitched active inside clauses

/-- The table reference with its dynamic joins switched. -/
def TableRef.switched (active inside : Bool) : TableRef → TableRef
  | .table table => .table table
  | .cte reference => .cte reference
  | .subSelect derived => .subSelect (SubSelect.switched active inside derived)
  | .join left kind right condition? =>
      .join (TableRef.switched active inside left) kind
        (TableRef.entrySwitched active inside right) (Expr.optionSwitched active inside condition?)

/-- An entry, switched with the table reference in it. -/
def TableRef.entrySwitched (active inside : Bool) : Entry TableRef → Entry TableRef
  | ⟨presence, table⟩ => ⟨presence.switched active, TableRef.switched active inside table⟩

/-- A sub-select, switched with what is in it. -/
def SubSelect.switched (active inside : Bool) : SubSelect → SubSelect
  | ⟨select, name, fields⟩ => ⟨Select.switched active inside select, name, fields⟩

/-- The common table expression with its arms switched. -/
def Cte.switched (active inside : Bool) : Cte → Cte
  | ⟨name, base, arms, fields⟩ =>
      ⟨name, Select.switched active inside base, CteArm.listSwitched active inside arms, fields⟩

/-- Definitions, switched with what is in them. -/
def Cte.entriesSwitched (active inside : Bool) : List (Entry Cte) → List (Entry Cte)
  | [] => []
  | ⟨presence, cte⟩ :: ctes =>
      ⟨presence.switched active, Cte.switched active inside cte⟩
        :: Cte.entriesSwitched active inside ctes

/-- Arms, switched with what is in them. -/
def CteArm.listSwitched (active inside : Bool) : List CteArm → List CteArm
  | [] => []
  | ⟨distinct, select, readsSelf⟩ :: arms =>
      ⟨distinct, Select.entrySwitched active inside select, readsSelf⟩
        :: CteArm.listSwitched active inside arms

end

/-- The statement with the dynamic parts of its clauses switched. -/
def Statement.switched (active inside : Bool) : Statement → Statement
  | select statement => .select ⟨Clause.listSwitched active inside statement.clauses⟩
  | insert statement => .insert ⟨Clause.listSwitched active inside statement.clauses⟩
  | update statement => .update ⟨Clause.listSwitched active inside statement.clauses⟩
  | delete statement => .delete ⟨Clause.listSwitched active inside statement.clauses⟩

/-! ## Names -/

@[simp] theorem Cte.name_switched (active inside : Bool) (cte : Cte) :
    (cte.switched active inside).name = cte.name := by
  cases cte
  rfl

/-- Switching keeps the names that definitions define. -/
theorem Cte.names_entriesSwitched (active inside : Bool) (ctes : List (Entry Cte)) :
    (Cte.entriesSwitched active inside ctes).map (fun cte => cte.value.name)
      = ctes.map fun cte => cte.value.name := by
  induction ctes with
  | nil => rfl
  | cons cte ctes ih =>
      obtain ⟨presence, cte⟩ := cte
      simp only [Cte.entriesSwitched, List.map_cons, Cte.name_switched, ih]

/-- Switching keeps the names that static definitions define. -/
theorem Cte.staticNames_entriesSwitched (active inside : Bool) (ctes : List (Entry Cte)) :
    (staticValues (Cte.entriesSwitched active inside ctes)).map Cte.name
      = (staticValues ctes).map Cte.name := by
  induction ctes with
  | nil => rfl
  | cons cte ctes ih =>
      obtain ⟨presence, cte⟩ := cte
      unfold staticValues at ih ⊢
      cases isStatic : presence.isStatic <;>
        simp [Cte.entriesSwitched, Entry.isStatic, isStatic, ih]

mutual

theorem Expr.needs_switched (active inside : Bool) :
    (expr : Expr) → (expr.switched active inside).needs = expr.needs
  | .column _ | .value _ | .parameter _ => rfl
  | .unary _ operand => Expr.needs_switched active inside operand
  | .binary _ left right _ | .concat left right => by
      simp only [Expr.switched, Expr.needs, Expr.needs_switched active inside left,
        Expr.needs_switched active inside right]
  | .chain _ operands => Expr.entriesNeeds_switched active inside operands
  | .within _ tested items => by
      simp only [Expr.switched, Expr.needs, Expr.needs_switched active inside tested,
        Expr.listNeeds_switched active inside items]
  | .between tested low high => by
      simp only [Expr.switched, Expr.needs, Expr.needs_switched active inside tested,
        Expr.needs_switched active inside low, Expr.needs_switched active inside high]
  | .cases branches otherwise _ => by
      simp only [Expr.switched, Expr.needs, Expr.branchesNeeds_switched active inside branches,
        Expr.needs_switched active inside otherwise]
  | .aggregate _ argument? => Expr.optionNeeds_switched active inside argument?
  | .groupKey inner => Expr.needs_switched active inside inner
  | .existsIn select | .subquery select => by
      simp only [Expr.switched, Expr.needs, Select.names_switched active inside select]

theorem Expr.optionNeeds_switched (active inside : Bool) :
    (expr? : Option Expr) →
      Expr.optionNeeds (Expr.optionSwitched active inside expr?) = Expr.optionNeeds expr?
  | none => rfl
  | some expr => Expr.needs_switched active inside expr

theorem Expr.listNeeds_switched (active inside : Bool) :
    (exprs : List Expr) →
      Expr.listNeeds (Expr.listSwitched active inside exprs) = Expr.listNeeds exprs
  | [] => rfl
  | expr :: exprs => by
      simp only [Expr.listSwitched, Expr.listNeeds, Expr.needs_switched active inside expr,
        Expr.listNeeds_switched active inside exprs]

theorem Expr.rowsNeeds_switched (active inside : Bool) :
    (rows : List (List Expr)) →
      Expr.rowsNeeds (Expr.rowsSwitched active inside rows) = Expr.rowsNeeds rows
  | [] => rfl
  | row :: rows => by
      simp only [Expr.rowsSwitched, Expr.rowsNeeds, Expr.listNeeds_switched active inside row,
        Expr.rowsNeeds_switched active inside rows]

theorem Expr.branchesNeeds_switched (active inside : Bool) :
    (branches : List (Expr × Expr)) →
      Expr.branchesNeeds (Expr.branchesSwitched active inside branches)
        = Expr.branchesNeeds branches
  | [] => rfl
  | (condition, result) :: branches => by
      simp only [Expr.branchesSwitched, Expr.branchesNeeds,
        Expr.needs_switched active inside condition, Expr.needs_switched active inside result,
        Expr.branchesNeeds_switched active inside branches]

theorem Expr.entryNeeds_switched (active inside : Bool) :
    (entry : Entry Expr) →
      Expr.entryNeeds (Expr.entrySwitched active inside entry) = Expr.entryNeeds entry
  | ⟨presence, expr⟩ => by
      simp only [Expr.entrySwitched, Expr.entryNeeds, Expr.needs_switched active inside expr,
        Needs.within_switched]

theorem Expr.entryOptionNeeds_switched (active inside : Bool) :
    (condition? : Option (Entry Expr)) →
      Expr.entryOptionNeeds (Expr.entryOptionSwitched active inside condition?)
        = Expr.entryOptionNeeds condition?
  | none => rfl
  | some entry => Expr.entryNeeds_switched active inside entry

theorem Expr.entriesNeeds_switched (active inside : Bool) :
    (entries : List (Entry Expr)) →
      Expr.entriesNeeds (Expr.entriesSwitched active inside entries) = Expr.entriesNeeds entries
  | [] => rfl
  | entry :: entries => by
      simp only [Expr.entriesSwitched, Expr.entriesNeeds,
        Expr.entryNeeds_switched active inside entry,
        Expr.entriesNeeds_switched active inside entries]

theorem Select.names_switched (active inside : Bool) :
    (select : Select) → (select.switched active inside).names = select.names
  | ⟨clauses⟩ => by
      cases inside with
      | false => rfl
      | true => exact Clause.listNames_switched active true clauses

theorem SelectColumn.entriesNeeds_switched (active inside : Bool) :
    (columns : List (Entry SelectColumn)) →
      SelectColumn.entriesNeeds (SelectColumn.entriesSwitched active inside columns)
        = SelectColumn.entriesNeeds columns
  | [] => rfl
  | ⟨presence, expr, _, _⟩ :: columns => by
      simp only [SelectColumn.entriesSwitched, SelectColumn.entriesNeeds,
        Expr.needs_switched active inside expr, Needs.within_switched,
        SelectColumn.entriesNeeds_switched active inside columns]

theorem Assignment.entriesNeeds_switched (active inside : Bool) :
    (assignments : List (Entry Assignment)) →
      Assignment.entriesNeeds (Assignment.entriesSwitched active inside assignments)
        = Assignment.entriesNeeds assignments
  | [] => rfl
  | ⟨presence, _, value?⟩ :: assignments => by
      simp only [Assignment.entriesSwitched, Assignment.entriesNeeds,
        Expr.optionNeeds_switched active inside value?, Needs.within_switched,
        Assignment.entriesNeeds_switched active inside assignments]

theorem SortOrder.entriesNeeds_switched (active inside : Bool) :
    (orders : List (Entry SortOrder)) →
      SortOrder.entriesNeeds (SortOrder.entriesSwitched active inside orders)
        = SortOrder.entriesNeeds orders
  | [] => rfl
  | ⟨presence, expr, _, _⟩ :: orders => by
      simp only [SortOrder.entriesSwitched, SortOrder.entriesNeeds,
        Expr.needs_switched active inside expr, Needs.within_switched,
        SortOrder.entriesNeeds_switched active inside orders]

theorem InsertValues.needs_switched (active inside : Bool) :
    (content : InsertValues) → (content.switched active inside).needs = content.needs
  | .defaultValues => rfl
  | .set assignments => Assignment.entriesNeeds_switched active inside assignments
  | .rows _ rows => Expr.rowsNeeds_switched active inside rows

theorem ConflictAction.needs_switched (active inside : Bool) :
    (action : ConflictAction) → (action.switched active inside).needs = action.needs
  | .doNothing => rfl
  | .doUpdate assignments condition? => by
      simp only [ConflictAction.switched, ConflictAction.needs,
        Assignment.entriesNeeds_switched active inside assignments,
        Expr.entryOptionNeeds_switched active inside condition?]

/-- The names of a clause do not depend on what is active. -/
theorem Clause.names_switched (active inside : Bool) :
    (clause : Clause) → (clause.switched active inside).names = clause.names
  | .with ctes => by
      simp only [Clause.switched, Clause.names, Cte.entriesNeeds_switched active inside ctes,
        Cte.names_entriesSwitched active inside ctes,
        Cte.staticNames_entriesSwitched active inside ctes]
  | .columns _ columns | .returning columns => by
      simp only [Clause.switched, Clause.names,
        SelectColumn.entriesNeeds_switched active inside columns]
  | .target _ _ | .limit _ _ => rfl
  | .set assignments => by
      simp only [Clause.switched, Clause.names,
        Assignment.entriesNeeds_switched active inside assignments]
  | .values content => by
      simp only [Clause.switched, Clause.names, InsertValues.needs_switched active inside content]
  | .source _ table => TableRef.names_switched active inside table
  | .where condition? => by
      simp only [Clause.switched, Clause.names,
        Expr.entryOptionNeeds_switched active inside condition?]
  | .groupBy entries => by
      simp only [Clause.switched, Clause.names, Expr.entriesNeeds_switched active inside entries]
  | .having condition => by
      simp only [Clause.switched, Clause.names, Expr.entryNeeds_switched active inside condition]
  | .union _ ⟨presence, arm⟩ => by
      simp only [Clause.switched, Select.entrySwitched, Clause.names,
        Select.names_switched active inside arm, Needs.within_switched]
  | .orderBy orders => by
      simp only [Clause.switched, Clause.names,
        SortOrder.entriesNeeds_switched active inside orders]
  | .onConflict _ action => by
      simp only [Clause.switched, Clause.names, ConflictAction.needs_switched active inside action]

theorem Clause.listNames_switched (active inside : Bool) :
    (clauses : List Clause) →
      Clause.listNames (Clause.listSwitched active inside clauses) = Clause.listNames clauses
  | [] => rfl
  | clause :: clauses => by
      simp only [Clause.listSwitched, Clause.listNames, Clause.names_switched active inside clause,
        Clause.listNames_switched active inside clauses]

theorem TableRef.names_switched (active inside : Bool) :
    (table : TableRef) → (table.switched active inside).names = table.names
  | .table _ | .cte _ => rfl
  | .subSelect ⟨select, _, _⟩ => by
      simp only [TableRef.switched, SubSelect.switched, TableRef.names,
        Select.names_switched active inside select]
  | .join left _ ⟨presence, right⟩ condition? => by
      simp only [TableRef.switched, TableRef.entrySwitched, TableRef.names,
        TableRef.names_switched active inside left, TableRef.names_switched active inside right,
        Expr.optionNeeds_switched active inside condition?, JoinKind.names,
        Presence.isStatic_switched]

theorem Cte.needs_switched (active inside : Bool) :
    (cte : Cte) → (cte.switched active inside).needs = cte.needs
  | ⟨_, base, arms, _⟩ => by
      simp only [Cte.switched, Cte.needs, Select.names_switched active inside base,
        CteArm.listNeeds_switched active inside arms]

theorem Cte.entriesNeeds_switched (active inside : Bool) :
    (ctes : List (Entry Cte)) →
      Cte.entriesNeeds (Cte.entriesSwitched active inside ctes) = Cte.entriesNeeds ctes
  | [] => rfl
  | ⟨presence, cte⟩ :: ctes => by
      simp only [Cte.entriesSwitched, Cte.entriesNeeds, Cte.needs_switched active inside cte,
        Needs.within_switched, Cte.entriesNeeds_switched active inside ctes]

theorem CteArm.listNeeds_switched (active inside : Bool) :
    (arms : List CteArm) →
      CteArm.listNeeds (CteArm.listSwitched active inside arms) = CteArm.listNeeds arms
  | [] => rfl
  | ⟨_, ⟨_, select⟩, _⟩ :: arms => by
      simp only [CteArm.listSwitched, Select.entrySwitched, CteArm.listNeeds,
        Select.names_switched active inside select,
        CteArm.listNeeds_switched active inside arms]

end

/-! ## Types and result rows -/

mutual

/-- The type of an expression does not depend on what is active. -/
theorem Expr.type_switched (active inside : Bool) :
    (expr : Expr) → (expr.switched active inside).type = expr.type
  | .column _ | .value _ | .parameter _ | .existsIn _ | .binary _ _ _ _ | .cases _ _ _ => rfl
  | .unary operator operand =>
      congrArg operator.resultType (Expr.type_switched active inside operand)
  | .concat left right => by
      simp only [Expr.switched, Expr.type, Expr.type_switched active inside left,
        Expr.type_switched active inside right]
  | .chain _ operands =>
      congrArg conditionType (Expr.anyOptionalEntry_switched active inside operands)
  | .within _ tested items => by
      simp only [Expr.switched, Expr.type, Expr.type_switched active inside tested,
        Expr.anyOptional_switched active inside items]
  | .between tested low high => by
      simp only [Expr.switched, Expr.type, Expr.type_switched active inside tested,
        Expr.type_switched active inside low, Expr.type_switched active inside high]
  | .aggregate _ none => rfl
  | .aggregate call (some argument) =>
      congrArg call.function.resultType (Expr.type_switched active inside argument)
  | .groupKey inner => Expr.type_switched active inside inner
  | .subquery ⟨clauses⟩ => by
      cases inside with
      | false => rfl
      | true =>
          simp only [Expr.switched, Select.switched, if_true, Expr.type,
            Clause.firstColumnType?_switched active true clauses]

theorem Expr.anyOptional_switched (active inside : Bool) :
    (exprs : List Expr) →
      Expr.anyOptional (Expr.listSwitched active inside exprs) = Expr.anyOptional exprs
  | [] => rfl
  | expr :: exprs => by
      simp only [Expr.listSwitched, Expr.anyOptional, Expr.type_switched active inside expr,
        Expr.anyOptional_switched active inside exprs]

theorem Expr.anyOptionalEntry_switched (active inside : Bool) :
    (entries : List (Entry Expr)) →
      Expr.anyOptionalEntry (Expr.entriesSwitched active inside entries)
        = Expr.anyOptionalEntry entries
  | [] => rfl
  | ⟨_, expr⟩ :: entries => by
      simp only [Expr.entriesSwitched, Expr.entrySwitched, Expr.anyOptionalEntry,
        Expr.type_switched active inside expr,
        Expr.anyOptionalEntry_switched active inside entries]

theorem Clause.firstColumnType?_switched (active inside : Bool) :
    (clauses : List Clause) →
      Clause.firstColumnType? (Clause.listSwitched active inside clauses)
        = Clause.firstColumnType? clauses
  | [] => rfl
  | .columns _ (⟨_, expr, _, _⟩ :: _) :: _ =>
      congrArg some (Expr.type_switched active inside expr)
  | .columns _ [] :: _ => rfl
  | .with _ :: clauses | .target _ _ :: clauses | .set _ :: clauses | .values _ :: clauses
  | .source _ _ :: clauses | .where _ :: clauses | .groupBy _ :: clauses | .having _ :: clauses
  | .union _ _ :: clauses | .orderBy _ :: clauses | .limit _ _ :: clauses
  | .onConflict _ _ :: clauses | .returning _ :: clauses =>
      Clause.firstColumnType?_switched active inside clauses

end

/-! ## Children -/

theorem Expr.entriesSwitched_eq_map (active inside : Bool) (entries : List (Entry Expr)) :
    entriesSwitched active inside entries = entries.map (entrySwitched active inside) := by
  induction entries with
  | nil => rfl
  | cons entry entries ih => rw [entriesSwitched, ih, List.map_cons]

@[simp] theorem Expr.value_entrySwitched (active inside : Bool) (entry : Entry Expr) :
    (entrySwitched active inside entry).value = entry.value.switched active inside := by
  cases entry
  rfl

theorem Expr.listSwitched_eq_map (active inside : Bool) (exprs : List Expr) :
    listSwitched active inside exprs = exprs.map (switched active inside) := by
  induction exprs with
  | nil => rfl
  | cons expr exprs ih => rw [listSwitched, ih, List.map_cons]

theorem Expr.rowsSwitched_eq_map (active inside : Bool) (rows : List (List Expr)) :
    rowsSwitched active inside rows = rows.map fun row => row.map (switched active inside) := by
  induction rows with
  | nil => rfl
  | cons row rows ih => rw [rowsSwitched, ih, listSwitched_eq_map, List.map_cons]

theorem Expr.flatMap_branchesSwitched (active inside : Bool) (branches : List (Expr × Expr)) :
    (branchesSwitched active inside branches).flatMap (fun branch => [branch.1, branch.2])
      = (branches.flatMap fun branch => [branch.1, branch.2]).map (switched active inside) := by
  induction branches with
  | nil => rfl
  | cons branch branches ih =>
      simp only [branchesSwitched, List.flatMap_cons, List.map_append, List.map_cons, List.map_nil,
        ih]

/-- The children of a switched expression are its children, switched. -/
theorem Expr.children_switched (active inside : Bool) (expr : Expr) :
    (expr.switched active inside).children = expr.children.map (switched active inside) := by
  cases expr with
  | chain connective operands =>
      simp only [switched, children, entriesSwitched_eq_map, List.map_map, Function.comp_def,
        value_entrySwitched]
  | within negated tested items =>
      simp only [switched, children, listSwitched_eq_map, List.map_cons]
  | cases branches otherwise type =>
      simp only [switched, children, flatMap_branchesSwitched, List.map_append, List.map_cons,
        List.map_nil]
  | aggregate call argument? => cases argument? <;> rfl
  | _ => rfl

/-- A select that is not looked into stays as it is. -/
@[simp] theorem Select.switched_false (active : Bool) (select : Select) :
    select.switched active false = select := by
  cases select
  rfl

/-! ## Active entries -/

/-- With the dynamic entries of a list inactive, its static values remain. -/
theorem activeValues_switched {α : Type} {f : List (Entry α) → List (Entry α)} {g : α → α}
    (nil : f [] = [])
    (cons : ∀ presence value entries,
      f (⟨presence, value⟩ :: entries) = ⟨presence.switched false, g value⟩ :: f entries)
    (entries : List (Entry α)) :
    activeValues (f entries) = (staticValues entries).map g := by
  induction entries with
  | nil =>
      rw [nil]
      rfl
  | cons entry entries ih =>
      obtain ⟨presence, value⟩ := entry
      rw [cons, activeValues_cons, ih]
      cases presence <;> rfl

theorem Expr.activeValues_switched (inside : Bool) (entries : List (Entry Expr)) :
    activeValues (entriesSwitched false inside entries)
      = (staticValues entries).map (switched false inside) :=
  CheckedSql.activeValues_switched rfl (fun _ _ _ => rfl) entries

theorem SelectColumn.activeValues_switched (inside : Bool) (columns : List (Entry SelectColumn)) :
    activeValues (entriesSwitched false inside columns)
      = (staticValues columns).map fun column =>
        { column with expr := column.expr.switched false inside } :=
  CheckedSql.activeValues_switched rfl (fun _ ⟨_, _, _⟩ _ => rfl) columns

theorem Assignment.activeValues_switched (inside : Bool) (assignments : List (Entry Assignment)) :
    activeValues (entriesSwitched false inside assignments)
      = (staticValues assignments).map fun assignment =>
        { assignment with value? := Expr.optionSwitched false inside assignment.value? } :=
  CheckedSql.activeValues_switched rfl (fun _ ⟨_, _⟩ _ => rfl) assignments

theorem SortOrder.activeValues_switched (inside : Bool) (orders : List (Entry SortOrder)) :
    activeValues (entriesSwitched false inside orders)
      = (staticValues orders).map fun order =>
        { order with expr := order.expr.switched false inside } :=
  CheckedSql.activeValues_switched rfl (fun _ ⟨_, _, _⟩ _ => rfl) orders

theorem Cte.activeValues_switched (inside : Bool) (ctes : List (Entry Cte)) :
    activeValues (entriesSwitched false inside ctes)
      = (staticValues ctes).map (switched false inside) :=
  CheckedSql.activeValues_switched rfl (fun _ _ _ => rfl) ctes

/-! ## Statements -/

theorem Clause.listSwitched_eq_map (active inside : Bool) (clauses : List Clause) :
    Clause.listSwitched active inside clauses = clauses.map (Clause.switched active inside) := by
  induction clauses with
  | nil => rfl
  | cons clause clauses ih => rw [listSwitched, ih, List.map_cons]

@[simp] theorem Statement.clauses_switched (active inside : Bool) (statement : Statement) :
    (statement.switched active inside).clauses
      = statement.clauses.map (Clause.switched active inside) := by
  rw [← Clause.listSwitched_eq_map]
  cases statement <;> rfl

/-- Statements that are the same when they are switched have clauses that are. -/
theorem Statement.clauses_of_switched_eq {active inside : Bool} {first second : Statement}
    (same : first.switched active inside = second.switched active inside) :
    first.clauses.map (Clause.switched active inside)
      = second.clauses.map (Clause.switched active inside) := by
  rw [← clauses_switched, ← clauses_switched, same]

theorem Clause.selected?_switched (active inside : Bool) (clause : Clause) :
    (clause.switched active inside).selected?
      = clause.selected?.map (SelectColumn.entriesSwitched active inside) := by
  cases clause <;> rfl

theorem Clause.returned?_switched (active inside : Bool) (clause : Clause) :
    (clause.switched active inside).returned?
      = clause.returned?.map (SelectColumn.entriesSwitched active inside) := by
  cases clause <;> rfl

/-- The row that columns give does not depend on what is active. -/
theorem resultFields_switched (active inside : Bool) (optionalTables : NameSet)
    (columns : List (Entry SelectColumn)) :
    resultFields optionalTables (SelectColumn.entriesSwitched active inside columns)
      = resultFields optionalTables columns := by
  induction columns with
  | nil => rfl
  | cons column columns ih =>
      obtain ⟨presence, expr, name, aliased⟩ := column
      unfold resultFields at ih ⊢
      simp only [SelectColumn.entriesSwitched, List.map_cons, ih,
        Expr.needs_switched active inside expr, Expr.type_switched active inside expr,
        Presence.isStatic_switched]

/-- What `pick` finds among switched clauses is what it finds, switched. -/
theorem findSome?_switched {α : Type} {active inside : Bool} {pick : Clause → Option α}
    {switch : α → α}
    (switches : ∀ clause, pick (clause.switched active inside) = (pick clause).map switch)
    (clauses : List Clause) :
    (clauses.map (Clause.switched active inside)).findSome? pick
      = (clauses.findSome? pick).map switch := by
  induction clauses with
  | nil => rfl
  | cons clause clauses ih =>
      rw [List.map_cons, List.findSome?_cons, List.findSome?_cons, switches clause, ih]
      cases pick clause <;> rfl

theorem fieldsOf_switched {active inside : Bool}
    {pick : Clause → Option (List (Entry SelectColumn))}
    (switches : ∀ clause, pick (clause.switched active inside)
      = (pick clause).map (SelectColumn.entriesSwitched active inside)) (clauses : List Clause) :
    fieldsOf pick (clauses.map (Clause.switched active inside)) = fieldsOf pick clauses := by
  rw [fieldsOf, fieldsOf, findSome?_switched switches, ← Clause.listSwitched_eq_map,
    Clause.listNames_switched]
  cases clauses.findSome? pick with
  | none => rfl
  | some columns => exact resultFields_switched active inside _ columns

/-- The result row of a statement does not depend on what is active. -/
theorem Statement.fields_switched (active inside : Bool) (statement : Statement) :
    (statement.switched active inside).fields = statement.fields := by
  cases statement with
  | select statement =>
      rw [switched, Clause.listSwitched_eq_map]
      exact fieldsOf_switched (Clause.selected?_switched active inside) statement.clauses
  | insert statement | update statement | delete statement =>
      rw [switched, Clause.listSwitched_eq_map]
      exact fieldsOf_switched (Clause.returned?_switched active inside) statement.clauses

end CheckedSql
