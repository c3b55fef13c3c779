import CheckedSql.Proofs.Activity.Verdict
import CheckedSql.Proofs.Built.Checked
import CheckedSql.Proofs.Built.Order
import CheckedSql.Proofs.Writing.PartLayout

/-!
# Required columns of an `INSERT`

A column that cannot be NULL, has no default and is open to assignments needs a value in
every new row.  The values of an `INSERT` are given in three ways, and only what is written
in the end counts: columns, and rows with an expression or `DEFAULT` for each of them
(`InsertedRows`).

The check asks whether the static assignments name every required column.  So none is left
out, whatever is active.  It does not look at what is assigned, and an assignment may
give `DEFAULT` to any column.  In a consistent `INSERT`, that is the only way to miss a
required column (`Insert.suppliesRequired_iff`).
-/

namespace CheckedSql

/-! ## Written rows -/

/-- The columns and rows that an `INSERT` writes, with `none` where it writes `DEFAULT`. -/
structure InsertedRows where
  columns : List String
  rows : List (List (Option Expr))

namespace InsertedRows

/-- A written value. -/
def valueTokens (dialect : Dialect) : Option Expr → List Token
  | none => [.text "DEFAULT"]
  | some value => value.tokens dialect

/-- The columns and the rows behind them. -/
def tokens (dialect : Dialect) (inserted : InsertedRows) : List Token :=
  .text " " :: (columnListTokens inserted.columns
    ++ .text " VALUES " :: Token.withCommas (inserted.rows.map fun row =>
      Token.parenthesized (Token.withCommas (row.map (valueTokens dialect)))))

/-- There are rows, and each of them has an expression for the column, and never `DEFAULT`. -/
structure Supplies (inserted : InsertedRows) (name : String) : Prop where
  nonempty : inserted.rows ≠ []
  widths : ∀ row ∈ inserted.rows, row.length = inserted.columns.length
  given : ∀ row ∈ inserted.rows, ∃ value, (name, some value) ∈ inserted.columns.zip row
  noDefault : ∀ row ∈ inserted.rows, (name, none) ∉ inserted.columns.zip row

end InsertedRows

namespace InsertValues

/-- The rows that are written, unless a row of defaults is. -/
def writtenRows? : InsertValues → Option InsertedRows
  | defaultValues => none
  | set assignments =>
      let written := activeValues assignments
      if written.isEmpty then none
      else some ⟨written.map fun assignment => assignment.column.name,
        [written.map Assignment.value?]⟩
  | rows listed given => some ⟨listed.map Column.name, given.map fun row => row.map some⟩

theorem tokens_eq (dialect : Dialect) (content : InsertValues) :
    content.tokens dialect = match content.writtenRows? with
      | none => [.text " DEFAULT VALUES"]
      | some inserted => inserted.tokens dialect := by
  cases content with
  | defaultValues => rfl
  | set assignments =>
      have values : ∀ assignment : Assignment, assignment.valueTokens dialect
          = InsertedRows.valueTokens dialect assignment.value? := by
        rintro ⟨column, value?⟩
        cases value? <;> rfl
      rw [tokens, Assignment.activeTokens_eq, insertedTokens, List.isEmpty_map, writtenRows?]
      cases (activeValues assignments).isEmpty with
      | true => rfl
      | false =>
          simp [InsertedRows.tokens, values, Token.withCommas, Token.separatedBy,
            Function.comp_def]
  | rows listed given =>
      rw [tokens, Expr.rowTokens_eq]
      simp [writtenRows?, InsertedRows.tokens, InsertedRows.valueTokens, Function.comp_def]

/-- The names of the columns that are given `DEFAULT`, active or not. -/
def defaulted : InsertValues → List String
  | set assignments =>
      (assignments.filter fun assignment => assignment.value.value?.isNone).map
        fun assignment => assignment.value.column.name
  | _ => []

/-- Every row has a value for each column. -/
def RowsFit : InsertValues → Prop
  | rows listed given => ∀ row ∈ given, row.length = listed.length
  | _ => True

theorem mem_defaulted {assignments : List (Entry Assignment)} {name : String} :
    name ∈ (set assignments).defaulted
      ↔ ∃ assignment ∈ assignments, assignment.value.value? = none
        ∧ assignment.value.column.name = name := by
  simp [defaulted, and_assoc]

/-- If no column is missing, a required one is named by what is always assigned. -/
theorem mem_staticColumns {content : InsertValues} {target : Table} {spec : ColumnSpec}
    (noneMissing : content.missingColumns target = []) (mem : spec ∈ target.specs)
    (required : spec.isRequiredForInsert = true) :
    spec.name ∈ content.staticColumns.map Column.name := by
  have inRequired : spec.name ∈ target.requiredColumns.map Column.name := by
    refine List.mem_map.2 ⟨⟨target.identity, spec⟩, ?_, rfl⟩
    exact List.mem_map_of_mem (List.mem_filter.2 ⟨mem, required⟩)
  have notMissing := List.filter_eq_nil_iff.1 noneMissing spec.name inRequired
  simpa using notMissing

/-- Assignments that name a column statically, and never give it `DEFAULT`, supply the column. -/
theorem supplies_of_assignments {assignments : List (Entry Assignment)} {name : String}
    (named : name ∈ (set assignments).staticColumns.map Column.name)
    (explicit : name ∉ (set assignments).defaulted) :
    ∃ inserted, (set assignments).writtenRows? = some inserted ∧ inserted.Supplies name := by
  obtain ⟨column, columnMem, rfl⟩ := List.mem_map.1 named
  obtain ⟨assignment, isStatic, rfl⟩ := List.mem_map.1 columnMem
  have active := staticValues_subset_activeValues assignments isStatic
  have notEmpty : (activeValues assignments).isEmpty = false :=
    List.isEmpty_eq_false_iff.2 (List.ne_nil_of_mem active)
  have hasValue : ∀ other ∈ activeValues assignments,
      other.column.name = assignment.column.name → other.value? ≠ none := by
    intro other otherMem same isDefault
    obtain ⟨entry, entryMem, rfl⟩ := List.mem_map.1 otherMem
    exact explicit (mem_defaulted.2 ⟨entry, (List.mem_filter.1 entryMem).1, isDefault, same⟩)
  refine ⟨_, by rw [writtenRows?, notEmpty]; rfl, ?_⟩
  constructor
  · exact List.cons_ne_nil _ _
  · rw [List.forall_mem_singleton, List.length_map, List.length_map]
  · rw [List.forall_mem_singleton, List.zip_map']
    obtain ⟨value, given⟩ := Option.ne_none_iff_exists'.1 (hasValue assignment active rfl)
    exact ⟨value, List.mem_map.2 ⟨assignment, active, by rw [given]⟩⟩
  · rw [List.forall_mem_singleton, List.zip_map']
    intro isDefault
    obtain ⟨other, otherMem, same⟩ := List.mem_map.1 isDefault
    obtain ⟨sameName, noValue⟩ := Prod.mk.inj same
    exact hasValue other otherMem sameName noValue

/-- Rows of the right width supply every column that they are listed under. -/
theorem supplies_of_rows {listed : List Column} {given : List (List Expr)} {name : String}
    (named : name ∈ listed.map Column.name) (complete : (rows listed given).isComplete = true)
    (fit : (rows listed given).RowsFit) :
    ∃ inserted, (rows listed given).writtenRows? = some inserted ∧ inserted.Supplies name := by
  have widths : ∀ row ∈ given.map fun row => row.map some,
      row.length = (listed.map Column.name).length := by
    intro row mem
    obtain ⟨values, valuesMem, rfl⟩ := List.mem_map.1 mem
    rw [List.length_map, List.length_map, fit values valuesMem]
  refine ⟨_, rfl, ?_⟩
  constructor
  · intro none
    rw [isComplete, List.map_eq_nil_iff.1 none] at complete
    cases complete
  · exact widths
  · intro row mem
    have columns : ((listed.map Column.name).zip row).map Prod.fst = listed.map Column.name :=
      List.map_fst_zip (Nat.le_of_eq (widths row mem).symm)
    rw [← columns] at named
    obtain ⟨⟨_, value?⟩, inRow, rfl⟩ := List.mem_map.1 named
    obtain ⟨values, -, rfl⟩ := List.mem_map.1 mem
    obtain ⟨value, -, rfl⟩ := List.mem_map.1 (List.of_mem_zip inRow).2
    exact ⟨value, inRow⟩
  · intro row mem isDefault
    obtain ⟨values, -, rfl⟩ := List.mem_map.1 mem
    obtain ⟨value, -, same⟩ := List.mem_map.1 (List.of_mem_zip isDefault).2
    cases same

/-- A column that an active assignment gives `DEFAULT` is not supplied. -/
theorem not_supplies_of_default {assignments : List (Entry Assignment)} {assignment : Assignment}
    (active : assignment ∈ activeValues assignments) (isDefault : assignment.value? = none)
    {inserted : InsertedRows} (written : (set assignments).writtenRows? = some inserted) :
    ¬ inserted.Supplies assignment.column.name := by
  have notEmpty : (activeValues assignments).isEmpty = false :=
    List.isEmpty_eq_false_iff.2 (List.ne_nil_of_mem active)
  rw [writtenRows?, notEmpty] at written
  obtain rfl := Option.some_inj.1 written
  intro supplies
  have noDefault := supplies.noDefault _ (.head _)
  rw [List.zip_map'] at noDefault
  exact noDefault (List.mem_map.2 ⟨assignment, active, by rw [isDefault]⟩)

/-! ## What does not depend on what is active -/

theorem defaulted_switched (active inside : Bool) (content : InsertValues) :
    (content.switched active inside).defaulted = content.defaulted := by
  cases content with
  | set assignments =>
      induction assignments with
      | nil => rfl
      | cons assignment assignments ih =>
          obtain ⟨presence, column, value?⟩ := assignment
          simp only [switched, defaulted] at ih ⊢
          cases value? <;>
            simp [Assignment.entriesSwitched, Expr.optionSwitched, ih]
  | _ => rfl

theorem rowsFit_switched (active inside : Bool) (content : InsertValues) :
    (content.switched active inside).RowsFit ↔ content.RowsFit := by
  cases content with
  | rows listed given =>
      simp [switched, RowsFit, Expr.rowsSwitched_eq_map]
  | _ => rfl

/-! ## Accepted values -/

/-- What the calls and the check have found out about the values of an `INSERT` into a table. -/
structure Accepted (content : InsertValues) (target : Table) : Prop where
  complete : content.isComplete = true
  noneMissing : content.missingColumns target = []
  own : ∀ column ∈ content.columns, column.qualifier = target.identity
  checked : (Clause.values content).Checked

namespace Accepted

variable {content : InsertValues} {target : Table} {spec : ColumnSpec}

theorem rowsFit (accepted : content.Accepted target) : content.RowsFit := by
  cases content with
  | rows listed given =>
      intro row mem
      have fits := accepted.checked.2 row mem
      rw [Insert.requireRow, check_eq_ok, require_eq_ok] at fits
      exact beq_iff_eq.1 fits.1
  | _ => exact trivial

/-- Of accepted assignments, no two assign columns of one name. -/
theorem eq_of_name_eq {assignments : List (Entry Assignment)}
    (accepted : (set assignments).Accepted target) {first second : Entry Assignment}
    (firstMem : first ∈ assignments) (secondMem : second ∈ assignments)
    (same : first.value.column.name = second.value.column.name) : first = second := by
  have distinct : (assignments.map fun assignment => assignment.value.column.key).Nodup := by
    have passed := (Clause.mkInsertSet_eq_ok.1 accepted.checked).1
    have keys := Clause.nodup_of_requireAssignedColumns passed
    rwa [assignedColumns, List.map_map] at keys
  refine List.inj_on_of_nodup_map distinct firstMem secondMem ?_
  have own : ∀ assignment ∈ assignments,
      assignment.value.column.qualifier = target.identity := fun assignment mem =>
    accepted.own _ (List.mem_map_of_mem mem)
  rw [Column.key, Column.key, own first firstMem, own second secondMem, same]

/-- With any setting, accepted values write an expression for each required column that they do not
give `DEFAULT`. -/
theorem supplies {other : InsertValues} (accepted : content.Accepted target)
    (same : other.switched true true = content.switched true true)
    (mem : spec ∈ target.specs) (required : spec.isRequiredForInsert = true)
    (explicit : spec.name ∉ content.defaulted) :
    ∃ inserted, other.writtenRows? = some inserted ∧ inserted.Supplies spec.name := by
  have noneMissing : other.missingColumns target = [] := by
    rw [← missingColumns_switched true true, same, missingColumns_switched]
    exact accepted.noneMissing
  have named := mem_staticColumns noneMissing mem required
  cases other with
  | defaultValues => cases named
  | set assignments =>
      refine supplies_of_assignments named ?_
      rwa [← defaulted_switched true true, same, defaulted_switched]
  | rows listed given =>
      refine supplies_of_rows named ?_ ?_
      · rw [← Statement.isComplete_switched true true, same, Statement.isComplete_switched]
        exact accepted.complete
      · rw [← rowsFit_switched true true, same, rowsFit_switched]
        exact accepted.rowsFit

/-- Accepted values do not supply a required column that they give `DEFAULT`. -/
theorem not_supplies (accepted : content.Accepted target)
    (mem : spec ∈ target.specs) (required : spec.isRequiredForInsert = true)
    (isDefault : spec.name ∈ content.defaulted) {inserted : InsertedRows}
    (written : content.writtenRows? = some inserted) : ¬ inserted.Supplies spec.name := by
  have named := mem_staticColumns accepted.noneMissing mem required
  cases content with
  | defaultValues | rows => cases isDefault
  | set assignments =>
      obtain ⟨entry, entryMem, noValue, entryName⟩ := mem_defaulted.1 isDefault
      obtain ⟨column, columnMem, staticName⟩ := List.mem_map.1 named
      obtain ⟨assignment, isStatic, rfl⟩ := List.mem_map.1 columnMem
      obtain ⟨static, staticMem, rfl⟩ := List.mem_map.1 isStatic
      -- the static assignment that names the column is the one with `DEFAULT`
      have sameEntry := accepted.eq_of_name_eq (List.mem_filter.1 staticMem).1 entryMem
        (staticName.trans entryName.symm)
      obtain rfl := sameEntry
      rw [← entryName]
      exact not_supplies_of_default
        (staticValues_subset_activeValues assignments isStatic) noValue written

end Accepted

end InsertValues

namespace Insert

/-- The text of an `INSERT` has these rows in it, where its values are. -/
structure Writes (insert : Insert) (inserted : InsertedRows) : Prop where
  values : ∃ content, .values content ∈ insert.clauses ∧ content.writtenRows? = some inserted
  tokens : ∀ dialect, ∃ front back,
    (Statement.insert insert).tokens dialect = front ++ inserted.tokens dialect ++ back

theorem writes_of_mem {insert : Insert} {content : InsertValues} {inserted : InsertedRows}
    (mem : .values content ∈ insert.clauses) (written : content.writtenRows? = some inserted) :
    insert.Writes inserted := by
  refine ⟨⟨content, mem, written⟩, fun dialect => ?_⟩
  obtain ⟨earlier, later, split⟩ := List.append_of_mem mem
  refine ⟨Clause.listTokens dialect earlier, Clause.listTokens dialect later, ?_⟩
  have rows := content.tokens_eq dialect
  rw [written] at rows
  rw [Statement.tokens, Statement.clauses, split, Clause.listTokens_append, Clause.listTokens,
    Clause.tokens, rows, List.append_assoc]

/-- A consistent `INSERT` into a table has values, and their columns are those of the table. -/
theorem exists_values {insert : Insert} {target : Table}
    (ordered : (Statement.insert insert).Ordered)
    (consistent : (Statement.insert insert).checkConsistency = .ok ())
    (isTarget : .target .insertInto target ∈ insert.clauses) :
    ∃ content, .values content ∈ insert.clauses ∧ content.isComplete = true
      ∧ content.missingColumns target = []
      ∧ ∀ column ∈ content.columns, column.qualifier = target.identity := by
  obtain ⟨clausesPass, -, isComplete⟩ := Statement.checkConsistency_eq_ok.1 consistent
  rw [Statement.checkComplete, require_eq_ok] at isComplete
  cases found : insert.clauses.findSome? Clause.inserted? with
  | none => simp [found] at isComplete
  | some content =>
      obtain ⟨clause, mem, given⟩ := List.exists_of_findSome?_eq_some found
      cases clause with
      | values inserted =>
          obtain rfl := Option.some_inj.1 given
          have passed := clausesPass _ mem
          rw [Clause.checkConsistency, ordered.target?_scope isTarget] at passed
          obtain ⟨own, noneMissing⟩ := check_eq_ok.1 passed
          exact ⟨inserted, mem, by simpa [found] using isComplete,
            List.isEmpty_iff.1 (require_eq_ok.1 noneMissing),
            requireOwnColumns_eq_ok.1 own target rfl⟩
      | _ => cases given

section Consistent

variable {insert : Insert} {target : Table} (built : (Part.statement (.insert insert)).Built)
  (consistent : (Statement.insert insert).checkConsistency = .ok ())
  (isTarget : .target .insertInto target ∈ insert.clauses)

include built consistent isTarget

/-- A consistent `INSERT` has accepted values. -/
theorem exists_accepted :
    ∃ content, .values content ∈ insert.clauses ∧ content.Accepted target := by
  have ordered := Statement.ordered_of_built built
  obtain ⟨content, mem, complete, noneMissing, own⟩ := exists_values ordered consistent isTarget
  exact ⟨content, mem, complete, noneMissing, own, Statement.checked_of_built built _ mem⟩

/-- It has no other ones. -/
theorem accepted_of_mem {content : InsertValues} (mem : .values content ∈ insert.clauses) :
    content.Accepted target := by
  obtain ⟨found, foundMem, accepted⟩ := exists_accepted built consistent isTarget
  have ordered := Statement.ordered_of_built built
  obtain rfl := Clause.values.inj (ordered.eq_of_rank_eq foundMem mem rfl)
  exact accepted

end Consistent

/-- Statements that differ in what is active have values that differ in it. -/
theorem exists_values_of_switched_eq {setting insert : Insert}
    (same : (Statement.insert setting).switched true true
      = (Statement.insert insert).switched true true)
    {content : InsertValues} (mem : .values content ∈ insert.clauses) :
    ∃ other, .values other ∈ setting.clauses
      ∧ other.switched true true = content.switched true true := by
  have clauses : setting.clauses.map (Clause.switched true true)
      = insert.clauses.map (Clause.switched true true) :=
    Statement.clauses_of_switched_eq same
  have inSetting : Clause.switched true true (.values content)
      ∈ setting.clauses.map (Clause.switched true true) := by
    rw [clauses]
    exact List.mem_map_of_mem mem
  obtain ⟨clause, clauseMem, isValues⟩ := List.mem_map.1 inSetting
  cases clause with
  | values other => exact ⟨other, clauseMem, Clause.values.inj isValues⟩
  | _ => cases isValues

/-- A consistent `INSERT` writes an expression for every required column of its table in each row,
no matter what is active, exactly if its values give none of these columns `DEFAULT`. -/
theorem suppliesRequired_iff {insert : Insert} {target : Table}
    (built : (Part.statement (.insert insert)).Built)
    (consistent : (Statement.insert insert).checkConsistency = .ok ())
    (isTarget : .target .insertInto target ∈ insert.clauses) :
    (∀ setting : Insert,
      (Statement.insert setting).switched true true = (Statement.insert insert).switched true true →
      ∀ spec ∈ target.specs, spec.isRequiredForInsert = true →
        ∃ inserted, setting.Writes inserted ∧ inserted.Supplies spec.name)
      ↔ ∀ content, .values content ∈ insert.clauses →
        ∀ spec ∈ target.specs, spec.isRequiredForInsert = true → spec.name ∉ content.defaulted := by
  constructor
  · intro supplied content mem spec specMem required isDefault
    obtain ⟨inserted, writes, supplies⟩ := supplied insert rfl spec specMem required
    obtain ⟨other, otherMem, written⟩ := writes.values
    have ordered := Statement.ordered_of_built built
    obtain rfl := Clause.values.inj (ordered.eq_of_rank_eq mem otherMem rfl)
    have accepted := accepted_of_mem built consistent isTarget mem
    exact accepted.not_supplies specMem required isDefault written supplies
  · intro explicit setting same spec specMem required
    obtain ⟨content, mem, accepted⟩ := exists_accepted built consistent isTarget
    obtain ⟨other, otherMem, sameValues⟩ := exists_values_of_switched_eq same mem
    obtain ⟨inserted, written, supplies⟩ :=
      accepted.supplies sameValues specMem required (explicit content mem spec specMem required)
    exact ⟨inserted, writes_of_mem otherMem written, supplies⟩

/-- The `INSERT` that gives the number of `foo` its default, which it does not have. -/
def defaultId : Insert :=
  ⟨[.target .insertInto (.ofId "foo"), .values (.set [.static ⟨.ofId "foo", none⟩])]⟩

theorem defaultId_built : (Part.statement (.insert defaultId)).Built := by
  have startedBuilt : (Part.statement (.insert (start none (.ofId "foo")))).Built := by
    refine .made (.insert (.ofId "foo") With.areMade_none) ?_
    rw [With.parts, With.clauses, List.flatMap_nil, List.forall_mem_singleton]
    exact Table.ofId_built "foo"
  let assignments : List (Entry Assignment) := [.static ⟨.ofId "foo", none⟩]
  have assigned : ∀ assignment ∈ assignments, assignment.value.IsMade := by
    rw [List.forall_mem_singleton]
    exact .inr rfl
  have made : (start none (.ofId "foo")).set assignments = .ok defaultId := rfl
  refine .made (.insertSet assigned made) ?_
  rw [List.forall_mem_cons]
  refine ⟨startedBuilt, ?_⟩
  rintro argument (_ | ⟨_, ⟨⟩⟩)
  exact Column.ofId_built "foo"

theorem defaultId_consistent : (Statement.insert defaultId).checkConsistency = .ok () := by rfl

/-- The number of `foo` is required, and its `DEFAULT` keeps the `INSERT` from supplying it. -/
theorem defaultId_not_supplied :
    (Statement.insert defaultId).checkConsistency = .ok ()
      ∧ ¬ ∀ setting : Insert,
        (Statement.insert setting).switched true true
          = (Statement.insert defaultId).switched true true →
        ∀ spec ∈ (Table.ofId "foo").specs, spec.isRequiredForInsert = true →
          ∃ inserted, setting.Writes inserted ∧ inserted.Supplies spec.name := by
  refine ⟨defaultId_consistent, ?_⟩
  rw [suppliesRequired_iff defaultId_built defaultId_consistent (.head _)]
  intro explicit
  exact explicit _ (.tail _ (.head _)) (.new "id" .integral) (.head _) rfl (.head _)

/-- The `INSERT` is accepted and writes `DEFAULT` for a required column. -/
theorem defaultId_accepted :
    (Part.statement (.insert defaultId)).Built
      ∧ (Statement.insert defaultId).checkConsistency = .ok ()
      ∧ (Table.ofId "foo").requiredColumns = [.ofId "foo"]
      ∧ (∀ inserted, defaultId.Writes inserted → ¬ inserted.Supplies "id")
      ∧ (Statement.insert defaultId).text.toOption
        = some "INSERT INTO foo (id) VALUES (DEFAULT)" := by
  refine ⟨defaultId_built, rfl, rfl, ?_, by decide⟩
  intro inserted writes
  obtain ⟨content, mem, written⟩ := writes.values
  have accepted := accepted_of_mem defaultId_built defaultId_consistent (.head _) mem
  rcases List.mem_cons.1 mem with isTarget | isValues
  · cases isTarget
  · obtain rfl := Clause.values.inj (List.mem_singleton.1 isValues)
    have inSpecs : ColumnSpec.new "id" .integral ∈ (Table.ofId "foo").specs := .head _
    exact accepted.not_supplies inSpecs rfl (.head _) written

end Insert

end CheckedSql
