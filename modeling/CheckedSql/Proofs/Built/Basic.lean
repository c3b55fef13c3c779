import CheckedSql.Building.Change
import CheckedSql.Building.Clause
import CheckedSql.Building.Cte
import CheckedSql.Building.Expression
import CheckedSql.Building.Select
import CheckedSql.Building.TableRef
import CheckedSql.Proofs.Part

/-!
# Built parts

Trees of the syntax can be written down in any shape.  The *built* ones are those
that the building calls return, from arguments that were built themselves.  What
the calls check therefore holds at every depth of a built part.

`MadeFrom` lists the calls.  It relates the parts a call is given to the part it
returns: one rule for each call, and each rule runs the call itself.  A column is
given to a call as the expression that reads it.  `Part.Built` closes that relation
under composition.
-/

namespace CheckedSql

/-! ## Declarations and columns -/

/-- A column declaration that the declaring calls give. -/
inductive ColumnSpec.Declared : ColumnSpec → Prop where
  | new (name : String) (dataType : DataType) : Declared (.new name dataType)
  | nullable {spec : ColumnSpec} : Declared spec → Declared spec.nullable
  | withDefault {spec : ColumnSpec} : Declared spec → Declared spec.withDefault
  | asReadOnly {spec : ColumnSpec} : Declared spec → Declared spec.asReadOnly

/-- The columns that a table reference offers by name.  A join offers those of its sides only. -/
def TableRef.columns : TableRef → List Column
  | table declared => declared.columns
  | cte reference => reference.columns
  | subSelect derived => derived.columns
  | join _ _ _ _ => []

/-! ## The calls -/

/-- The calls that return an expression. -/
inductive Expr.MadeFrom : List Part → Expr → Prop where
  | column {table : TableRef} {column : Column} : column ∈ table.columns →
      MadeFrom [.tableRef table] (.column column)
  | value (value : Value) : MadeFrom [] (.value value)
  | parameter (parameter : Parameter) : MadeFrom [] (.parameter parameter)
  | unary {operator : UnaryOperator} {operand expr : Expr} :
      mkUnary operator operand = .ok expr → MadeFrom [.expr operand] expr
  | binary {operator : Operator} {left right expr : Expr} :
      mkBinary operator left right = .ok expr → MadeFrom [.expr left, .expr right] expr
  | chain {connective : Connective} {left expr : Expr} {right : Entry Expr} :
      mkChain connective left right = .ok expr → MadeFrom [.expr left, .expr right.value] expr
  | within {negated : Bool} {tested expr : Expr} {items : List Expr} :
      mkWithin negated tested items = .ok expr → MadeFrom ((tested :: items).map .expr) expr
  | between {tested low high expr : Expr} :
      mkBetween tested low high = .ok expr →
      MadeFrom [.expr tested, .expr low, .expr high] expr
  | cases {branches : List (Expr × Expr)} {otherwise expr : Expr} :
      mkCases branches otherwise = .ok expr →
      MadeFrom ((branches.flatMap fun branch => [.expr branch.1, .expr branch.2])
        ++ [.expr otherwise]) expr
  | aggregate {function : AggregateFunction} {distinct : Bool} {argument expr : Expr} :
      mkAggregate function distinct argument = .ok expr → MadeFrom [.expr argument] expr
  | countAll : MadeFrom [] countAll
  | overAll {inner expr : Expr} : mkOver inner = .ok expr → MadeFrom [.expr inner] expr
  | groupKey {inner expr : Expr} : mkGroupKey inner = .ok expr → MadeFrom [.expr inner] expr
  | existsIn (select : Select) : MadeFrom [.select select] (.existsIn select)
  | subquery {select : Select} {expr : Expr} :
      mkSubquery select = .ok expr → MadeFrom [.select select] expr

/-- The calls that return a table reference. -/
inductive TableRef.MadeFrom : List Part → TableRef → Prop where
  | table {declared : Table} : (∀ spec ∈ declared.specs, spec.Declared) →
      MadeFrom [] (.table declared)
  | cteName (name : String) : MadeFrom [] (.cte (.ofName name))
  | cteReference (cte : Cte) : MadeFrom [.cte cte] (.cte cte.reference)
  | cteAs (cte : Cte) (name : String) : MadeFrom [.cte cte] (.cte (cte.as name))
  | subSelect {select : Select} {name : String} {derived : SubSelect} :
      select.as name = .ok derived → MadeFrom [.select select] (.subSelect derived)
  | join {left table : TableRef} {kind : JoinKind} {right : Entry TableRef}
      {condition? : Option Expr} :
      mkJoin left kind right condition? = .ok table →
      MadeFrom (.tableRef left :: .tableRef right.value :: condition?.toList.map .expr) table

/-- The calls that return a common table expression. -/
inductive Cte.MadeFrom : List Part → Cte → Prop where
  | define {name : String} {base : Select} {cte : Cte} :
      define name base = .ok cte → MadeFrom [.select base] cte
  | union {cte result : Cte} {distinct : Bool} {arm : Entry Select} :
      cte.union distinct arm = .ok result → MadeFrom [.cte cte, .select arm.value] result

/-- A result column, as it is named by a call or by its expression. -/
def SelectColumn.IsMade (column : SelectColumn) : Prop :=
  mkNamed column.expr column.name = .ok column ∨ mkUnnamed column.expr = .ok column

/-- An assignment, as the calls on a column give it. -/
def Assignment.IsMade (assignment : Assignment) : Prop :=
  (∃ value, assignment.column.assign value = .ok assignment)
    ∨ assignment.column.assignDefault = .ok assignment

/-- A sort order, as the calls on an expression give it. -/
def SortOrder.IsMade (order : SortOrder) : Prop :=
  mkSorted order.expr order.direction order.nulls? = .ok order

/-- Definitions that passed the checks of `WITH`, where there are some. -/
def With.AreMade (definitions : Option With) : Prop :=
  ∀ given ∈ definitions, mkWith given.ctes = .ok given

theorem With.areMade_none : With.AreMade none := by
  intro given mem
  cases mem

/-- The common table expressions of definitions. -/
def With.parts (definitions : Option With) : List Part :=
  (With.clauses definitions).flatMap Clause.parts

/-- What result columns are given as. -/
def SelectColumn.arguments (columns : List (Entry SelectColumn)) : List Part :=
  columns.map fun column => .expr column.value.expr

/-- What assignments are given as: the assigned columns and the values. -/
def Assignment.arguments (assignments : List (Entry Assignment)) : List Part :=
  (assignments.map fun assignment => .column assignment.value.column)
    ++ Assignment.entriesParts assignments

/-- The calls that start a statement, and those that take a statement further. -/
inductive Statement.MadeFrom : List Part → Statement → Prop where
  | select {definitions : Option With} {columns : List (Entry SelectColumn)} {result : Select} :
      With.AreMade definitions → (∀ column ∈ columns, column.value.IsMade) →
      Select.start definitions columns = .ok result →
      MadeFrom (With.parts definitions ++ SelectColumn.arguments columns) (.select result)
  | insert {definitions : Option With} (table : Table) : With.AreMade definitions →
      MadeFrom (.tableRef (.table table) :: With.parts definitions)
        (.insert (.start definitions table))
  | update {definitions : Option With} (table : Table) : With.AreMade definitions →
      MadeFrom (.tableRef (.table table) :: With.parts definitions)
        (.update (.start definitions table))
  | delete {definitions : Option With} (table : Table) : With.AreMade definitions →
      MadeFrom (.tableRef (.table table) :: With.parts definitions)
        (.delete (.start definitions table))
  | selectDistinct {select result : Select} : select.distinct = .ok result →
      MadeFrom [.select select] (.select result)
  | selectFrom {select result : Select} {table : TableRef} :
      select.from table = .ok result → MadeFrom [.select select, .tableRef table] (.select result)
  | selectWhere {select result : Select} {condition : Entry Expr} :
      select.where condition = .ok result →
      MadeFrom [.select select, .expr condition.value] (.select result)
  | selectGroupBy {select result : Select} {entries : List (Entry Expr)} :
      select.groupBy entries = .ok result →
      MadeFrom (.select select :: entries.map fun entry => .expr entry.value) (.select result)
  | selectHaving {select result : Select} {condition : Entry Expr} :
      select.having condition = .ok result →
      MadeFrom [.select select, .expr condition.value] (.select result)
  | selectUnion {select result : Select} {distinct : Bool} {arm : Entry Select} :
      select.union distinct arm = .ok result →
      MadeFrom [.select select, .select arm.value] (.select result)
  | selectOrderBy {select result : Select} {orders : List (Entry SortOrder)} :
      (∀ order ∈ orders, order.value.IsMade) → select.orderBy orders = .ok result →
      MadeFrom (.select select :: orders.map fun order => .expr order.value.expr) (.select result)
  | selectLimit {select result : Select} {kind : LimitKind} {count : Expr} :
      select.limit kind count = .ok result →
      MadeFrom [.select select, .expr count] (.select result)
  | insertSet {insert result : Insert} {assignments : List (Entry Assignment)} :
      (∀ assignment ∈ assignments, assignment.value.IsMade) →
      insert.set assignments = .ok result →
      MadeFrom (.statement (.insert insert) :: Assignment.arguments assignments) (.insert result)
  | insertDefaultValues {insert result : Insert} : insert.defaultValues = .ok result →
      MadeFrom [.statement (.insert insert)] (.insert result)
  | insertColumns {insert result : Insert} {columns : List Column} :
      insert.columns columns = .ok result →
      MadeFrom (.statement (.insert insert) :: columns.map .column) (.insert result)
  | insertValues {insert result : Insert} {row : List (Entry Expr)} :
      insert.values row = .ok result →
      MadeFrom (.statement (.insert insert) :: row.map fun entry => .expr entry.value)
        (.insert result)
  | insertDoNothing {insert result : Insert} {columns : List Column} :
      insert.onConflictDoNothing columns = .ok result →
      MadeFrom (.statement (.insert insert) :: columns.map .column) (.insert result)
  | insertDoUpdate {insert result : Insert} {columns : List Column}
      {assignments : List (Entry Assignment)} :
      (∀ assignment ∈ assignments, assignment.value.IsMade) →
      insert.onConflictDoUpdate columns assignments = .ok result →
      MadeFrom (.statement (.insert insert)
        :: (columns.map .column ++ Assignment.arguments assignments)) (.insert result)
  | insertWhere {insert result : Insert} {condition : Entry Expr} :
      insert.where condition = .ok result →
      MadeFrom [.statement (.insert insert), .expr condition.value] (.insert result)
  | insertReturning {insert result : Insert} {columns : List (Entry SelectColumn)} :
      (∀ column ∈ columns, column.value.IsMade) → insert.returning columns = .ok result →
      MadeFrom (.statement (.insert insert) :: SelectColumn.arguments columns) (.insert result)
  | updateSet {update result : Update} {assignments : List (Entry Assignment)} :
      (∀ assignment ∈ assignments, assignment.value.IsMade) →
      update.set assignments = .ok result →
      MadeFrom (.statement (.update update) :: Assignment.arguments assignments) (.update result)
  | updateWhere {update result : Update} {condition : Entry Expr} :
      update.where condition = .ok result →
      MadeFrom [.statement (.update update), .expr condition.value] (.update result)
  | updateUnconditionally {update result : Update} : update.unconditionally = .ok result →
      MadeFrom [.statement (.update update)] (.update result)
  | updateReturning {update result : Update} {columns : List (Entry SelectColumn)} :
      (∀ column ∈ columns, column.value.IsMade) → update.returning columns = .ok result →
      MadeFrom (.statement (.update update) :: SelectColumn.arguments columns) (.update result)
  | deleteUsing {delete result : Delete} {table : TableRef} :
      delete.using table = .ok result →
      MadeFrom [.statement (.delete delete), .tableRef table] (.delete result)
  | deleteWhere {delete result : Delete} {condition : Entry Expr} :
      delete.where condition = .ok result →
      MadeFrom [.statement (.delete delete), .expr condition.value] (.delete result)
  | deleteUnconditionally {delete result : Delete} : delete.unconditionally = .ok result →
      MadeFrom [.statement (.delete delete)] (.delete result)
  | deleteReturning {delete result : Delete} {columns : List (Entry SelectColumn)} :
      (∀ column ∈ columns, column.value.IsMade) → delete.returning columns = .ok result →
      MadeFrom (.statement (.delete delete) :: SelectColumn.arguments columns) (.delete result)

/-- Some call returns the part when it is given these arguments. -/
def Part.MadeFrom (arguments : List Part) : Part → Prop
  | expr e => Expr.MadeFrom arguments e
  | statement s => Statement.MadeFrom arguments s
  | tableRef table => TableRef.MadeFrom arguments table
  | cte definition => Cte.MadeFrom arguments definition

/-- A part that calls return from built arguments. -/
inductive Part.Built : Part → Prop where
  | made {arguments : List Part} {part : Part} :
      part.MadeFrom arguments → (∀ argument ∈ arguments, Built argument) → Built part

/-- What every call on expressions keeps holds of the built ones. -/
theorem Expr.built_induction {P : Expr → Prop}
    (call : ∀ {arguments result}, MadeFrom arguments result →
      (∀ inner, .expr inner ∈ arguments → P inner) → P result)
    {expr : Expr} (built : (Part.expr expr).Built) : P expr := by
  generalize same : Part.expr expr = part at built
  induction built generalizing expr with
  | made made arguments ih =>
      subst same
      exact call made fun inner mem => ih _ mem rfl

/-- What every call on statements keeps holds of the built ones. -/
theorem Statement.built_induction {P : Statement → Prop}
    (call : ∀ {arguments result}, MadeFrom arguments result →
      (∀ old, .statement old ∈ arguments → P old) → P result)
    {statement : Statement} (built : (Part.statement statement).Built) : P statement := by
  generalize same : Part.statement statement = part at built
  induction built generalizing statement with
  | made made arguments ih =>
      subst same
      exact call made fun old mem => ih _ mem rfl

/-- A call with two built arguments. -/
theorem Part.Built.of_pair {first second part : Part} (made : part.MadeFrom [first, second])
    (firstBuilt : first.Built) (secondBuilt : second.Built) : part.Built := by
  refine .made made ?_
  rw [List.forall_mem_cons, List.forall_mem_singleton]
  exact ⟨firstBuilt, secondBuilt⟩

/-- A join of built sides, with a built condition if there is one. -/
theorem TableRef.built_of_mkJoin {left joined : TableRef} {kind : JoinKind}
    {right : Entry TableRef} {condition? : Option Expr}
    (made : mkJoin left kind right condition? = .ok joined)
    (leftBuilt : (Part.tableRef left).Built) (rightBuilt : (Part.tableRef right.value).Built)
    (conditionBuilt : ∀ condition ∈ condition?.toList, (Part.expr condition).Built) :
    (Part.tableRef joined).Built := by
  refine .made (.join made) ?_
  rw [List.forall_mem_cons, List.forall_mem_cons, List.forall_mem_map]
  exact ⟨leftBuilt, rightBuilt, conditionBuilt⟩

/-- A select of built columns. -/
theorem Select.built_of_start {columns : List (Entry SelectColumn)} {select : Select}
    (named : ∀ column ∈ columns, column.value.IsMade)
    (columnsBuilt : ∀ column ∈ columns, (Part.expr column.value.expr).Built)
    (started : Select.start none columns = .ok select) : (Part.select select).Built := by
  refine .made (.select With.areMade_none named started) ?_
  exact List.forall_mem_map.2 columnsBuilt

/-- A select of built columns from a built table. -/
theorem Select.built_of_start_from {columns : List (Entry SelectColumn)} {source : TableRef}
    {select : Select} (named : ∀ column ∈ columns, column.value.IsMade)
    (columnsBuilt : ∀ column ∈ columns, (Part.expr column.value.expr).Built)
    (sourceBuilt : (Part.tableRef source).Built)
    (made : (do (← Select.start none columns).from source) = .ok select) :
    (Part.select select).Built := by
  obtain ⟨selected, started, sourced⟩ := bind_eq_ok.1 made
  exact .of_pair (.selectFrom sourced) (built_of_start named columnsBuilt started) sourceBuilt

/-! ## The select of one column -/

/-- A table with one column of whole numbers. -/
def Table.ofId (name : String) : Table := .new name [.new "id" .integral]

/-- The column of such a table. -/
def Column.ofId (name : String) : Column := ⟨name, .new "id" .integral⟩

/-- The select of the column of a table, from nowhere. -/
def Select.ofColumn (name : String) : Select where
  clauses := [.columns false [.static ⟨.column (.ofId name), "id", false⟩]]

/-- The select of the column of a table from another one. -/
def Select.ofId (name source : String) : Select where
  clauses := (ofColumn name).clauses ++ [.source .from (.table (.ofId source))]

/-- The select of the number that a common table expression gives. -/
def Select.ofCte (name : String) : Select where
  clauses :=
    [.columns false [.static ⟨.column ⟨name, .derived "id" (.of .integral)⟩, "id", false⟩],
      .source .from (.cte ⟨name, none, (Select.ofId "foo" "foo").fields⟩)]

theorem Table.ofId_built (name : String) : (Part.tableRef (.table (.ofId name))).Built := by
  have made : TableRef.MadeFrom [] (.table (.ofId name)) := by
    refine .table fun spec mem => ?_
    obtain rfl := List.mem_singleton.1 mem
    exact .new "id" .integral
  exact .made made (by simp)

theorem Column.ofId_built (name : String) : (Part.column (.ofId name)).Built := by
  have mem : Column.ofId name ∈ (TableRef.table (.ofId name)).columns := .head _
  refine .made (.column mem) ?_
  rw [List.forall_mem_singleton]
  exact Table.ofId_built name

/-- The condition that two such tables have the same number. -/
def Expr.sameId (left right : String) : Expr :=
  .binary .eq (.column (.ofId left)) (.column (.ofId right)) (.of .boolean)

theorem Expr.sameId_built (left right : String) : (Part.expr (.sameId left right)).Built := by
  have compared : mkBinary .eq (.column (.ofId left)) (.column (.ofId right))
      = .ok (.sameId left right) := rfl
  exact .of_pair (.binary compared) (Column.ofId_built left) (Column.ofId_built right)

theorem Select.ofColumn_built (name : String) : (Part.select (.ofColumn name)).Built := by
  let columns : List (Entry SelectColumn) := [.static ⟨.column (.ofId name), "id", false⟩]
  have named : ∀ column ∈ columns, column.value.IsMade := by
    rw [List.forall_mem_singleton]
    exact .inr rfl
  have started : Select.start none columns = .ok (.ofColumn name) := rfl
  refine built_of_start named ?_ started
  rw [List.forall_mem_singleton]
  exact Column.ofId_built name

theorem Select.ofId_built (name source : String) : (Part.select (.ofId name source)).Built := by
  have sourced : (Select.ofColumn name).from (.table (.ofId source))
      = .ok (.ofId name source) := rfl
  exact .of_pair (.selectFrom sourced) (Select.ofColumn_built name) (Table.ofId_built source)

end CheckedSql
