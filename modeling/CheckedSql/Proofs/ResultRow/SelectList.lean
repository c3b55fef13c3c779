import CheckedSql.Proofs.Activity.Switched
import CheckedSql.Proofs.Aggregation.SingleGroup
import CheckedSql.Proofs.Built.Checked
import CheckedSql.Proofs.Built.Order
import CheckedSql.Proofs.Writing.PartLayout

/-!
# Select lists

A database names the columns of its rows by the select list that it is sent.  The library
has promised a row before, with a field for each column, active or not.  `ListedColumn` is what
stands in a select list for one column, and `ListedColumn.outputName?` the name that the column
gets from it: the name behind `AS`, or that of the column that is read.

A column that is not active is written as `NULL` under its name, so it keeps its place
(`SelectColumn.listed`).  A column without `AS` was made from an expression that gives the
name, since the name of an aggregate function is always written (`SelectColumn.IsMade.isNamed`).
So the names of a written list are those of the row, for any setting of the dynamic parts
(`Select.exists_lists`).
-/

namespace CheckedSql

/-! ## Entries of select lists -/

/-- What is written for one column: an expression, or `NULL` without one, and a name behind
`AS`. -/
structure ListedColumn where
  expr? : Option Expr
  alias? : Option String

/-- The name of the column that the expression is, where it is one. -/
def Expr.columnName? : Expr → Option String
  | .column c => some c.name
  | .groupKey inner => inner.columnName?
  | _ => none

namespace ListedColumn

/-- The written column. -/
def tokens (dialect : Dialect) (listed : ListedColumn) : List Token :=
  match listed.expr?, listed.alias? with
  | none, none => [.text "NULL"]
  | none, some name => namedTokens [.text "NULL"] name
  | some expr, none => expr.tokens dialect
  | some expr, some name => namedTokens (Token.operand expr.isCompound (expr.tokens dialect)) name

/-- The name that the column gets in the rows of the database. -/
def outputName? (listed : ListedColumn) : Option String :=
  match listed.alias? with
  | some name => some name
  | none => listed.expr?.bind Expr.columnName?

end ListedColumn

namespace SelectColumn

/-- What stands in the list for a column.  In the place of an inactive one stands `NULL`. -/
def listed (column : Entry SelectColumn) : ListedColumn :=
  if column.isActive then
    ⟨some column.value.expr, if column.value.aliased then some column.value.name else none⟩
  else ⟨none, some column.value.name⟩

/-- What stands in the list for a column is what is written in its place. -/
theorem tokens_listed (dialect : Dialect) (column : Entry SelectColumn) :
    (listed column).tokens dialect
      = if column.isActive then column.value.tokens dialect
        else namedTokens [.text "NULL"] column.value.name := by
  obtain ⟨presence, expr, name, aliased⟩ := column
  cases active : presence.isActive with
  | false => simp [listed, Entry.isActive, active, ListedColumn.tokens]
  | true => cases aliased <;> simp [listed, Entry.isActive, active, ListedColumn.tokens, tokens]

/-! ## Names -/

/-- The name of the column is written, or its expression is a column of that name. -/
def IsNamed (column : SelectColumn) : Prop :=
  column.aliased = true ∨ column.expr.columnName? = some column.name

end SelectColumn

/-- Without aggregate functions, the name that an expression gives is that of a column. -/
theorem Expr.implicitName?_eq_columnName? {expr : Expr} (plain : expr.containsAggregate = false) :
    expr.implicitName? = expr.columnName? := by
  cases expr with
  | aggregate call argument? =>
      rw [containsAggregate_eq] at plain
      cases plain
  | groupKey inner =>
      rw [containsAggregate_eq, children, List.any_cons, List.any_nil, Bool.or_false] at plain
      have same : inner.implicitName? = inner.columnName? :=
        implicitName?_eq_columnName? (Bool.or_eq_false_iff.1 plain).2
      exact same
  | _ => rfl

/-- A column that calls make is named. -/
theorem SelectColumn.IsMade.isNamed {column : SelectColumn} (made : column.IsMade)
    (built : (Part.expr column.expr).Built) : column.IsNamed := by
  obtain ⟨expr, name, aliased⟩ := column
  rcases made with given | implicit
  · obtain ⟨-, same⟩ := check_eq_ok.1 given
    cases pure_eq_ok.1 same
    exact .inl rfl
  · dsimp only [mkUnnamed] at implicit
    split at implicit
    · next found named =>
        cases implicit
        cases expr with
        | aggregate call argument? => exact .inl rfl
        | groupKey inner =>
            have plain : inner.containsAggregate = false := Expr.keepsCallsApart_of_built built
            refine .inr ?_
            rw [Expr.columnName?, ← Expr.implicitName?_eq_columnName? plain]
            exact named
        | column => exact .inr named
        | _ => cases named
    · cases implicit

/-- A named column goes by its name in the rows of the database, active or not. -/
theorem SelectColumn.outputName?_listed {column : Entry SelectColumn}
    (named : column.value.IsNamed) : (listed column).outputName? = some column.value.name := by
  unfold listed
  split
  · cases aliased : column.value.aliased with
    | true => rfl
    | false =>
        rcases named with isAliased | isColumn
        · rw [aliased] at isAliased
          cases isAliased
        · exact isColumn
  · rfl

/-! ### What does not depend on what is active -/

theorem Expr.columnName?_switched (active inside : Bool) (expr : Expr) :
    (expr.switched active inside).columnName? = expr.columnName? := by
  cases expr with
  | groupKey inner => exact columnName?_switched active inside inner
  | _ => simp only [switched, columnName?]

theorem SelectColumn.isNamed_switched (active inside : Bool)
    (columns : List (Entry SelectColumn)) :
    (∀ column ∈ entriesSwitched active inside columns, column.value.IsNamed)
      ↔ ∀ column ∈ columns, column.value.IsNamed := by
  induction columns with
  | nil => rfl
  | cons column columns ih =>
      obtain ⟨presence, expr, name, aliased⟩ := column
      rw [entriesSwitched, List.forall_mem_cons, List.forall_mem_cons, ih]
      simp only [IsNamed, Expr.columnName?_switched]

/-! ## Written lists -/

namespace Select

/-- The text of the select has this list behind `SELECT`, where the definitions of `WITH` end. -/
def Lists (select : Select) (distinct : Bool) (list : List ListedColumn) : Prop :=
  ∃ definitions columns others,
    select.clauses = definitions ++ .columns distinct columns :: others
      ∧ (definitions = [] ∨ ∃ ctes, definitions = [.with ctes])
      ∧ ∀ dialect, (Statement.select select).tokens dialect
        = Clause.listTokens dialect definitions
          ++ .text (if distinct then "SELECT DISTINCT " else "SELECT ")
            :: (Token.withCommas (list.map (ListedColumn.tokens dialect))
              ++ Clause.listTokens dialect others)

/-- A select lists what stands for its columns. -/
theorem lists_of_clauses {select : Select} {definitions others : List Clause} {distinct : Bool}
    {columns : List (Entry SelectColumn)}
    (clauses : select.clauses = definitions ++ .columns distinct columns :: others)
    (defines : definitions = [] ∨ ∃ ctes, definitions = [.with ctes]) :
    select.Lists distinct (columns.map SelectColumn.listed) := by
  refine ⟨definitions, columns, others, clauses, defines, fun dialect => ?_⟩
  rw [Statement.tokens, Statement.clauses, clauses, Clause.listTokens_append, Clause.listTokens,
    Clause.tokens, SelectColumn.listTokens_eq, List.map_map]
  simp only [← SelectColumn.tokens_listed]
  rfl

/-- The result row of a select has a field for each column, under its name. -/
theorem fields_names {select : Select} {definitions others : List Clause} {distinct : Bool}
    {columns : List (Entry SelectColumn)}
    (clauses : select.clauses = definitions ++ .columns distinct columns :: others)
    (defines : definitions = [] ∨ ∃ ctes, definitions = [.with ctes]) :
    select.fields.map ResultField.name = columns.map fun column => column.value.name := by
  have selected : select.clauses.findSome? Clause.selected? = some columns := by
    rcases defines with rfl | ⟨ctes, rfl⟩ <;> rw [clauses] <;> rfl
  rw [fields, fieldsOf, selected, Option.getD_some, resultFields, List.map_map]
  rfl

section Built

variable {select : Select} (built : (Part.select select).Built)

include built

/-- A built select starts with its columns, behind the definitions of `WITH`. -/
theorem exists_columns_of_built : ∃ definitions distinct columns others,
    select.clauses = definitions ++ .columns distinct columns :: others
      ∧ (definitions = [] ∨ ∃ ctes, definitions = [.with ctes]) := by
  have ordered := Statement.ordered_of_built built
  obtain ⟨definitions, head, others, clauses, defines, rank, -⟩ := ordered.split
  have allowed : (Statement.select select).allows head = true :=
    ordered.allowed head (by simp [clauses])
  cases head with
  | columns distinct columns => exact ⟨definitions, distinct, columns, others, clauses, defines⟩
  | target kind table => cases kind <;> cases allowed
  | limit kind count => cases kind <;> cases rank
  | _ => cases rank

/-- The columns of a built select are named, and no two of them have one name. -/
theorem isNamed_of_built {distinct : Bool} {columns : List (Entry SelectColumn)}
    (mem : .columns distinct columns ∈ select.clauses) :
    (∀ column ∈ columns, column.value.IsNamed)
      ∧ (columns.map fun column => column.value.name).Nodup := by
  constructor
  · intro column columnMem
    have made := Statement.entriesAreMade_of_built built _ mem column columnMem
    exact made.isNamed (built.of_mem_children
      (List.mem_flatMap.2 ⟨_, mem, List.mem_map_of_mem columnMem⟩))
  · have checked : Clause.Checked (.columns distinct columns) :=
      Statement.checked_of_built built _ mem
    have unique := require_eq_ok.1 (Clause.mkColumns_eq_ok.1 checked).1
    rwa [Bool.not_eq_true', hasDuplicates_eq_false_iff] at unique

/-- No two fields of the row of a built select have one name. -/
theorem nodup_names_of_built : (select.fields.map ResultField.name).Nodup := by
  obtain ⟨definitions, distinct, columns, others, clauses, defines⟩ :=
    exists_columns_of_built built
  have mem : .columns distinct columns ∈ select.clauses := by simp [clauses]
  rw [fields_names clauses defines]
  exact (isNamed_of_built built mem).2

end Built

/-- Selects that differ in what is active have columns that differ in it, in the same place. -/
theorem exists_columns_of_switched_eq {setting select : Select}
    (same : (Statement.select setting).switched true true
      = (Statement.select select).switched true true)
    {definitions others : List Clause} {distinct : Bool} {columns : List (Entry SelectColumn)}
    (clauses : select.clauses = definitions ++ .columns distinct columns :: others)
    (defines : definitions = [] ∨ ∃ ctes, definitions = [.with ctes]) :
    ∃ definitions columns' others,
      setting.clauses = definitions ++ .columns distinct columns' :: others
        ∧ (definitions = [] ∨ ∃ ctes, definitions = [.with ctes])
        ∧ SelectColumn.entriesSwitched true true columns'
          = SelectColumn.entriesSwitched true true columns := by
  have switched : setting.clauses.map (Clause.switched true true)
      = select.clauses.map (Clause.switched true true) :=
    Statement.clauses_of_switched_eq same
  rw [clauses, List.map_append, List.map_cons] at switched
  obtain ⟨front, rest, split, sameFront, sameRest⟩ := List.map_eq_append_iff.1 switched
  obtain ⟨head, back, rfl, sameHead, -⟩ := List.map_eq_cons_iff.1 sameRest
  cases head with
  | columns distinct' columns' =>
      obtain ⟨rfl, sameColumns⟩ := Clause.columns.inj sameHead
      refine ⟨front, columns', back, split, ?_, sameColumns⟩
      rcases defines with rfl | ⟨ctes, rfl⟩
      · exact .inl (List.map_eq_nil_iff.1 sameFront)
      · obtain ⟨definition, rfl, isWith⟩ := List.map_eq_singleton_iff.1 sameFront
        cases definition with
        | «with» given => exact .inr ⟨given, rfl⟩
        | _ => cases isWith
  | _ => cases sameHead

/-- With any setting, a built select is written with a list that has one entry for each field of its
result row, and the entries have the names of the fields. -/
theorem exists_lists {select : Select} (built : (Part.select select).Built) {setting : Select}
    (same : (Statement.select setting).switched true true
      = (Statement.select select).switched true true) :
    ∃ distinct list, setting.Lists distinct list ∧ list.length = setting.fields.length
      ∧ list.map ListedColumn.outputName? = setting.fields.map fun field => some field.name := by
  obtain ⟨definitions, distinct, columns, others, clauses, defines⟩ :=
    exists_columns_of_built built
  have mem : .columns distinct columns ∈ select.clauses := by simp [clauses]
  obtain ⟨front, settingColumns, back, settingClauses, settingDefines, sameColumns⟩ :=
    exists_columns_of_switched_eq same clauses defines
  have named : ∀ column ∈ settingColumns, column.value.IsNamed := by
    rw [← SelectColumn.isNamed_switched true true, sameColumns, SelectColumn.isNamed_switched]
    exact (isNamed_of_built built mem).1
  have names := fields_names settingClauses settingDefines
  refine ⟨distinct, _, lists_of_clauses settingClauses settingDefines, ?_, ?_⟩
  · rw [List.length_map, ← List.length_map ResultField.name, names, List.length_map]
  · have some_names := congrArg (List.map some) names
    rw [List.map_map, List.map_map] at some_names
    rw [List.map_map, ← Function.comp_def, some_names]
    exact List.map_congr_left fun column columnMem =>
      SelectColumn.outputName?_listed (named column columnMem)

end Select

end CheckedSql
