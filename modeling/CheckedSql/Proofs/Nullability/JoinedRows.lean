import CheckedSql.Proofs.Nullability.Type
import CheckedSql.Proofs.Scoping.JoinCondition

/-!
# Rows of joins

An outer join keeps rows of one side that match nothing on the other side, and puts NULL
in place of all columns of that side.  `TableRef.rows` gives the rows of a table reference
by the rules of SQL, for any contents of its tables and for any conditions.  A row says
for each table which row of the table is in it, or that NULL stands for it.

The library does not know the rows.  It keeps a set of tables that may be filled with NULL
and reports the result columns that read one of them as optional.  The set is large enough
(`TableRef.optional_of_null`), and so is what is reported
(`TableRef.nullFilled_is_reported`), but for columns that have no value in the first
place: these have no type that could be made optional.
-/

namespace CheckedSql

/-! ## Rows -/

/-- A row of joined tables: what each table contributes, which is nothing where NULL stands for
all of its columns. -/
abbrev JoinedRow (Row : Type) := List (String × Option Row)

/-- What tables hold, and which joined rows fulfil a condition. -/
structure Tables (Row : Type) where
  /-- The rows of the table, common table expression or select of an identity. -/
  rowsOf : String → List Row
  fulfils : Expr → JoinedRow Row → Bool

section Rows

variable {Row : Type}

/-- The rows of two sides that match, together. -/
def matchingRows (isMatch : JoinedRow Row → Bool) (left right : List (JoinedRow Row)) :
    List (JoinedRow Row) :=
  (left.flatMap fun first => right.map (first ++ ·)).filter isMatch

/-- The rows of the left side that match none of the right side, with NULL for the right side. -/
def leftOnlyRows (isMatch : JoinedRow Row → Bool) (left right : List (JoinedRow Row))
    (rightNulls : JoinedRow Row) : List (JoinedRow Row) :=
  (left.filter fun first => !right.any fun second => isMatch (first ++ second)).map
    (· ++ rightNulls)

/-- The rows of the right side that match none of the left side, with NULL for the left side. -/
def rightOnlyRows (isMatch : JoinedRow Row → Bool) (left right : List (JoinedRow Row))
    (leftNulls : JoinedRow Row) : List (JoinedRow Row) :=
  (right.filter fun second => !left.any fun first => isMatch (first ++ second)).map
    (leftNulls ++ ·)

namespace JoinKind

/-- The rows of a join, given those of its sides and what stands for a side without a match. -/
def rows (kind : JoinKind) (isMatch : JoinedRow Row → Bool) (left right : List (JoinedRow Row))
    (leftNulls rightNulls : JoinedRow Row) : List (JoinedRow Row) :=
  match kind with
  | inner => matchingRows isMatch left right
  | leftOuter => matchingRows isMatch left right ++ leftOnlyRows isMatch left right rightNulls
  | rightOuter => matchingRows isMatch left right ++ rightOnlyRows isMatch left right leftNulls
  | fullOuter =>
      matchingRows isMatch left right ++ leftOnlyRows isMatch left right rightNulls
        ++ rightOnlyRows isMatch left right leftNulls
  | cross => matchingRows (fun _ => true) left right

/-- Whether NULL may stand for the left side. -/
def fillsLeft : JoinKind → Bool
  | rightOuter | fullOuter => true
  | inner | leftOuter | cross => false

/-- Whether NULL may stand for the right side. -/
def fillsRight : JoinKind → Bool
  | leftOuter | fullOuter => true
  | inner | rightOuter | cross => false

end JoinKind

/-- What stands for a table reference without a match. -/
def TableRef.nullRow (table : TableRef) : JoinedRow Row :=
  table.writtenIdentities.map fun identity => (identity, none)

/-- The rows of a table reference.  A dynamic join that is not active contributes its left side
only. -/
def TableRef.rows (tables : Tables Row) : TableRef → List (JoinedRow Row)
  | join left kind ⟨presence, right⟩ condition? =>
      if presence.isActive then
        kind.rows (fun row => condition?.all fun condition => tables.fulfils condition row)
          (left.rows tables) (right.rows tables) left.nullRow right.nullRow
      else left.rows tables
  | reference =>
      reference.identities.flatMap fun identity =>
        (tables.rowsOf identity).map fun row => [(identity, some row)]

/-! ## One join -/

namespace JoinKind

variable {kind : JoinKind} {isMatch : JoinedRow Row → Bool} {left right : List (JoinedRow Row)}
  {leftNulls rightNulls row : JoinedRow Row}

/-- The row has a row of each side, unless NULL may stand for the side. -/
def Joins (kind : JoinKind) (left right : List (JoinedRow Row))
    (leftNulls rightNulls row : JoinedRow Row) : Prop :=
  ∃ first second, row = first ++ second
    ∧ (first ∈ left ∨ kind.fillsLeft = true ∧ first = leftNulls)
    ∧ (second ∈ right ∨ kind.fillsRight = true ∧ second = rightNulls)

theorem Joins.of_matching (mem : row ∈ matchingRows isMatch left right) :
    kind.Joins left right leftNulls rightNulls row := by
  obtain ⟨first, firstMem, rest⟩ := List.mem_flatMap.1 (List.mem_filter.1 mem).1
  obtain ⟨second, secondMem, rfl⟩ := List.mem_map.1 rest
  exact ⟨first, second, rfl, .inl firstMem, .inl secondMem⟩

theorem Joins.of_leftOnly (fills : kind.fillsRight = true)
    (mem : row ∈ leftOnlyRows isMatch left right rightNulls) :
    kind.Joins left right leftNulls rightNulls row := by
  obtain ⟨first, firstMem, rfl⟩ := List.mem_map.1 mem
  exact ⟨first, rightNulls, rfl, .inl (List.mem_filter.1 firstMem).1, .inr ⟨fills, rfl⟩⟩

theorem Joins.of_rightOnly (fills : kind.fillsLeft = true)
    (mem : row ∈ rightOnlyRows isMatch left right leftNulls) :
    kind.Joins left right leftNulls rightNulls row := by
  obtain ⟨second, secondMem, rfl⟩ := List.mem_map.1 mem
  exact ⟨leftNulls, second, rfl, .inr ⟨fills, rfl⟩, .inl (List.mem_filter.1 secondMem).1⟩

theorem joins_of_mem_rows (mem : row ∈ kind.rows isMatch left right leftNulls rightNulls) :
    kind.Joins left right leftNulls rightNulls row := by
  cases kind with
  | inner => exact .of_matching mem
  | cross => exact .of_matching mem
  | leftOuter => exact (List.mem_append.1 mem).elim .of_matching (.of_leftOnly rfl)
  | rightOuter => exact (List.mem_append.1 mem).elim .of_matching (.of_rightOnly rfl)
  | fullOuter =>
      rcases List.mem_append.1 mem with inLeft | inRight
      · exact (List.mem_append.1 inLeft).elim .of_matching (.of_leftOnly rfl)
      · exact .of_rightOnly rfl inRight

/-- The tables of a side that NULL may stand for may all be filled, and of the other side those
that may be filled there. -/
theorem contains_optionalTables (kind : JoinKind) (left right : Names) (table : String) :
    (kind.optionalTables left right).contains table
      = ((if kind.fillsLeft then left.tables else left.optionalTables).contains table
        || (if kind.fillsRight then right.tables else right.optionalTables).contains table) := by
  cases kind <;> simp [optionalTables, fillsLeft, fillsRight]

end JoinKind

/-! ## Trees of joins -/

namespace TableRef

variable {tables : Tables Row} {table : TableRef} {row : JoinedRow Row} {identity : String}

theorem rows_join {left : TableRef} {kind : JoinKind} {right : Entry TableRef}
    {condition? : Option Expr} :
    (join left kind right condition?).rows tables
      = if right.isActive then
          kind.rows (fun row => condition?.all fun condition => tables.fulfils condition row)
            (left.rows tables) (right.value.rows tables) left.nullRow right.value.nullRow
        else left.rows tables := by
  cases right
  rw [rows]
  rfl

theorem names_join {left : TableRef} {kind : JoinKind} {right : Entry TableRef}
    {condition? : Option Expr} :
    (join left kind right condition?).names
      = kind.names left.names right.presence right.value.names
        (Expr.optionNeeds condition?) := by
  cases right
  rw [names]

/-- The tables that may be filled are provided. -/
theorem provided_of_optional (table : TableRef)
    (optional : table.names.optionalTables.contains identity = true) :
    table.names.tables.contains identity = true := by
  induction table using writtenIdentities.induct with
  | case1 left kind presence right condition? leftIh rightIh =>
      rw [names_join] at optional ⊢
      simp only [JoinKind.names, JoinKind.contains_optionalTables, OrderedSet.contains_union,
        Bool.or_eq_true] at optional ⊢
      refine optional.imp (fun inLeft => ?_) (fun inRight => ?_)
      · split at inLeft
        · exact inLeft
        · exact leftIh inLeft
      · split at inRight
        · exact inRight
        · exact rightIh inRight
  | case2 table notJoin =>
      cases table with
      | join left kind right condition? => exact absurd rfl (notJoin _ _ _ _ _)
      | table | cte => cases optional
      | subSelect derived =>
          cases derived
          cases optional

/-- The tables of the row that stands for a table reference are provided by it. -/
theorem provided_of_mem_nullRow (mem : (identity, none) ∈ (table.nullRow : JoinedRow Row)) :
    table.names.tables.contains identity = true := by
  obtain ⟨written, writtenMem, same⟩ := List.mem_map.1 mem
  cases same
  exact (contains_names_tables table).2 (writtenIdentities_subset table writtenMem)

/-- A table that is filled with NULL in some row is among those that may be filled. -/
theorem optional_of_null (mem : row ∈ table.rows tables) (null : (identity, none) ∈ row) :
    table.names.optionalTables.contains identity = true := by
  induction table using writtenIdentities.induct generalizing row with
  | case1 left kind presence right condition? leftIh rightIh =>
      rw [names_join, JoinKind.names, JoinKind.contains_optionalTables, Bool.or_eq_true]
      have inLeft (optional : left.names.optionalTables.contains identity = true) :
          (if kind.fillsLeft then left.names.tables else left.names.optionalTables).contains
            identity = true := by
        split
        · exact provided_of_optional left optional
        · exact optional
      have inRight (optional : right.names.optionalTables.contains identity = true) :
          (if kind.fillsRight then right.names.tables else right.names.optionalTables).contains
            identity = true := by
        split
        · exact provided_of_optional right optional
        · exact optional
      rw [rows_join] at mem
      split at mem
      · obtain ⟨first, second, rfl, firstFrom, secondFrom⟩ := JoinKind.joins_of_mem_rows mem
        refine (List.mem_append.1 null).imp (fun nullMem => ?_) (fun nullMem => ?_)
        · rcases firstFrom with firstMem | ⟨fills, rfl⟩
          · exact inLeft (leftIh firstMem nullMem)
          · rw [if_pos fills]
            exact provided_of_mem_nullRow nullMem
        · rcases secondFrom with secondMem | ⟨fills, rfl⟩
          · exact inRight (rightIh secondMem nullMem)
          · rw [if_pos fills]
            exact provided_of_mem_nullRow nullMem
      · exact .inl (inLeft (leftIh mem null))
  | case2 table notJoin =>
      rw [rows] at mem
      · obtain ⟨found, foundMem, rest⟩ := List.mem_flatMap.1 mem
        obtain ⟨content, contentMem, rfl⟩ := List.mem_map.1 rest
        cases List.mem_singleton.1 null
      · exact notJoin

end TableRef

/-! ## Result rows -/

/-- An expression reads a table of the statement around it: a column in it belongs to the table,
and no select between the two provides a table of this identity. -/
def Expr.Reads (expr : Expr) (table : String) : Prop :=
  ∃ frames column, (Part.expr expr).Refers frames column ∧ column.qualifier = table
    ∧ ¬ Resolves frames table

/-- A built expression needs what it reads. -/
theorem Expr.Reads.needed {expr : Expr} {table : String} (reads : expr.Reads table)
    (built : (Part.expr expr).Built) : expr.needs.tables.contains table = true := by
  obtain ⟨frames, column, refers, rfl, outside⟩ := reads
  rcases refers.needed built with needed | provided | resolved
  · exact needed
  · cases provided
  · exact absurd resolved outside

/-- The result columns of a statement: those that a select selects, and those that any other
statement returns. -/
def Statement.resultColumns (statement : Statement) : List (Entry SelectColumn) :=
  match statement with
  | .select given => (given.clauses.findSome? Clause.selected?).getD []
  | other => (other.clauses.findSome? Clause.returned?).getD []

theorem Statement.fields_eq (statement : Statement) :
    statement.fields
      = resultFields (Clause.listNames statement.clauses).optionalTables
        statement.resultColumns := by
  cases statement <;> rfl

/-- The expression of a result column is a part of the statement. -/
theorem Statement.mem_children_of_mem_resultColumns {statement : Statement}
    {column : Entry SelectColumn} (mem : column ∈ statement.resultColumns) :
    .expr column.value.expr ∈ (Part.statement statement).children := by
  have picked (pick : Clause → Option (List (Entry SelectColumn)))
      (parts : ∀ clause columns, pick clause = some columns → column ∈ columns →
        .expr column.value.expr ∈ clause.parts)
      (mem : column ∈ (statement.clauses.findSome? pick).getD []) :
      .expr column.value.expr ∈ (Part.statement statement).children := by
    cases found : statement.clauses.findSome? pick with
    | none => simp [found] at mem
    | some columns =>
        rw [found] at mem
        obtain ⟨clause, clauseMem, isPicked⟩ := List.exists_of_findSome?_eq_some found
        exact List.mem_flatMap.2 ⟨clause, clauseMem, parts clause columns isPicked mem⟩
  have selected : ∀ clause columns, Clause.selected? clause = some columns → column ∈ columns →
      .expr column.value.expr ∈ clause.parts := by
    intro clause columns isPicked columnMem
    cases clause <;> cases isPicked
    exact List.mem_map_of_mem columnMem
  have returned : ∀ clause columns, Clause.returned? clause = some columns → column ∈ columns →
      .expr column.value.expr ∈ clause.parts := by
    intro clause columns isPicked columnMem
    cases clause <;> cases isPicked
    exact List.mem_map_of_mem columnMem
  cases statement with
  | select select => exact picked _ selected mem
  | insert | update | delete => exact picked _ returned mem

/-- What a clause says may be filled with NULL may be filled for all clauses. -/
theorem Clause.contains_listNames_optionalTables {clause : Clause} {clauses : List Clause}
    (mem : clause ∈ clauses) {table : String}
    (optional : clause.names.optionalTables.contains table = true) :
    (listNames clauses).optionalTables.contains table = true := by
  induction clauses with
  | nil => cases mem
  | cons first others ih =>
      have union : (listNames (first :: others)).optionalTables
          = first.names.optionalTables ∪ (listNames others).optionalTables := rfl
      rw [union, OrderedSet.contains_union, Bool.or_eq_true]
      rcases List.mem_cons.1 mem with rfl | later
      · exact .inl optional
      · exact .inr (ih later)

/-- What is reported of one result column. -/
def ResultField.ofEntry (optionalTables : NameSet) (column : Entry SelectColumn) : ResultField :=
  ⟨column.value.name, column.value.expr.type.optionalIf
    (!column.isStatic || !column.value.expr.needs.tables.isDisjoint optionalTables)⟩

theorem resultFields_eq (optionalTables : NameSet) (columns : List (Entry SelectColumn)) :
    resultFields optionalTables columns = columns.map (ResultField.ofEntry optionalTables) := rfl

/-- A result column that reads a table that may be filled is reported as optional, if it has a
value. -/
theorem resultFields_isOptional {optionalTables : NameSet} {columns : List (Entry SelectColumn)}
    {column : Entry SelectColumn} {field : ResultField}
    (mem : (column, field) ∈ columns.zip (resultFields optionalTables columns)) {table : String}
    (optional : optionalTables.contains table = true)
    (needed : column.value.expr.needs.tables.contains table = true)
    (hasValue : column.value.expr.type.hasValue = true) : field.type.isOptional = true := by
  rw [resultFields_eq, ← List.map_prod_left_eq_zip] at mem
  obtain ⟨other, -, same⟩ := List.mem_map.1 mem
  obtain ⟨rfl, rfl⟩ := Prod.mk.inj same
  have meets : other.value.expr.needs.tables.isDisjoint optionalTables = false := by
    rw [← Bool.not_eq_true, OrderedSet.isDisjoint_iff]
    intro disjoint
    have outside := disjoint table needed
    rw [optional] at outside
    cases outside
  simp only [ResultField.ofEntry, meets, Bool.not_false, Bool.or_true,
    ValueType.optionalIf, if_true]
  exact ValueType.isOptional_forceOptional hasValue

/-- A table that is filled with NULL in some row is among those that may be filled, and every
statement that reads from the table reference reports the result columns that read the table as
optional, unless they have no value. -/
theorem TableRef.nullFilled_is_reported {table : TableRef} {tables : Tables Row}
    {row : JoinedRow Row} {identity : String} (mem : row ∈ table.rows tables)
    (null : (identity, none) ∈ row) :
    table.names.optionalTables.contains identity = true
      ∧ ∀ statement kind, (Part.statement statement).Built →
        .source kind table ∈ statement.clauses →
        ∀ column field, (column, field) ∈ statement.resultColumns.zip statement.fields →
          column.value.expr.Reads identity → column.value.expr.type.hasValue = true →
          field.type.isOptional = true := by
  have optional := optional_of_null mem null
  refine ⟨optional, fun statement kind built source column field pairMem reads hasValue => ?_⟩
  have columnMem := (List.of_mem_zip pairMem).1
  have needed := reads.needed
    (built.of_mem_children (Statement.mem_children_of_mem_resultColumns columnMem))
  rw [Statement.fields_eq] at pairMem
  exact resultFields_isOptional pairMem
    (Clause.contains_listNames_optionalTables source optional) needed hasValue

/-! ### Rows without a match -/

/-- A table of this identity has one row, and no other one has any. -/
def Tables.onlyRowOf (identity : String) : Tables Unit where
  rowsOf table := if table = identity then [()] else []
  fulfils _ _ := true

/-- Two tables, with NULL for the second one where it has no match. -/
def TableRef.fooOrBar : TableRef :=
  .join (.table (.ofId "foo")) .leftOuter (.static (.table (.ofId "bar")))
    (some (.sameId "foo" "bar"))

/-- The numbers of the second table. -/
def Select.barOfFoo : Select where
  clauses := (Select.ofColumn "bar").clauses ++ [.source .from .fooOrBar]

theorem Select.barOfFoo_built : (Part.select barOfFoo).Built := by
  have joined : TableRef.mkJoin (.table (.ofId "foo")) .leftOuter
      (.static (.table (.ofId "bar"))) (some (.sameId "foo" "bar")) = .ok .fooOrBar := rfl
  have joinedBuilt := TableRef.built_of_mkJoin joined (Table.ofId_built "foo")
    (Table.ofId_built "bar") (List.forall_mem_singleton.2 (Expr.sameId_built "foo" "bar"))
  have sourced : (Select.ofColumn "bar").from .fooOrBar = .ok barOfFoo := rfl
  exact .of_pair (.selectFrom sourced) (Select.ofColumn_built "bar") joinedBuilt

theorem Expr.ofId_reads (name : String) : (Expr.column (.ofId name)).Reads name :=
  ⟨[], .ofId name, .refl _, rfl, by simp⟩

theorem Select.barOfFoo_reported :
    (Statement.select .barOfFoo).fields = [⟨"id", .optional .integral⟩]
      ∧ ∀ field ∈ (Statement.select .barOfFoo).fields, field.type.isOptional = true := by
  have fields : (Statement.select .barOfFoo).fields = [⟨"id", .optional .integral⟩] := by rfl
  refine ⟨fields, fun field mem => ?_⟩
  have row : [("foo", some ()), ("bar", none)] ∈ TableRef.fooOrBar.rows (.onlyRowOf "foo") :=
    .head _
  have null : ("bar", none) ∈ [("foo", some ()), ("bar", none)] := .tail _ (.head _)
  have reported := (TableRef.nullFilled_is_reported row null).2 (.select .barOfFoo) .from
    Select.barOfFoo_built (.tail _ (.head _))
  rw [fields, List.mem_singleton] at mem
  subst mem
  exact reported (.static ⟨.column (.ofId "bar"), "id", false⟩) _ (.head _)
    (Expr.ofId_reads "bar") rfl

/-- A table, with NULL for the columns of a select where it has no match. -/
def TableRef.fooOrValueless : TableRef :=
  .join (.table (.ofId "foo")) .leftOuter
    (.static (.subSelect ⟨.valueless, "s", [⟨"x", .noValue⟩]⟩)) (some (.sameId "foo" "foo"))

/-- The column of that select, as it is joined. -/
def Select.valuelessOfFoo : Select where
  clauses := [.columns false [.static ⟨.column ⟨"s", .derived "x" .noValue⟩, "x", false⟩],
    .source .from .fooOrValueless]

theorem Select.valuelessOfFoo_built : (Part.select valuelessOfFoo).Built := by
  have derived : valueless.as "s" = .ok ⟨.valueless, "s", [⟨"x", .noValue⟩]⟩ := rfl
  have derivedBuilt :
      (Part.tableRef (.subSelect ⟨.valueless, "s", [⟨"x", .noValue⟩]⟩)).Built := by
    refine .made (.subSelect derived) ?_
    rw [List.forall_mem_singleton]
    exact valueless_built
  have joined : TableRef.mkJoin (.table (.ofId "foo")) .leftOuter
      (.static (.subSelect ⟨.valueless, "s", [⟨"x", .noValue⟩]⟩)) (some (.sameId "foo" "foo"))
        = .ok .fooOrValueless := rfl
  have joinedBuilt := TableRef.built_of_mkJoin joined (Table.ofId_built "foo") derivedBuilt
    (List.forall_mem_singleton.2 (Expr.sameId_built "foo" "foo"))
  have columnBuilt : (Part.column ⟨"s", .derived "x" .noValue⟩).Built := by
    have mem : Column.mk "s" (.derived "x" .noValue)
        ∈ (TableRef.subSelect ⟨.valueless, "s", [⟨"x", .noValue⟩]⟩).columns := .head _
    refine .made (.column mem) ?_
    rw [List.forall_mem_singleton]
    exact derivedBuilt
  have selected : (Part.select
      ⟨[.columns false [.static ⟨.column ⟨"s", .derived "x" .noValue⟩, "x", false⟩]]⟩).Built := by
    have named : ∀ column ∈ [Entry.static
        (SelectColumn.mk (.column ⟨"s", .derived "x" .noValue⟩) "x" false)],
        column.value.IsMade := by
      rw [List.forall_mem_singleton]
      exact .inr rfl
    refine .made (.select With.areMade_none named rfl) ?_
    rintro argument (_ | ⟨_, ⟨⟩⟩)
    exact columnBuilt
  exact .of_pair (.selectFrom rfl) selected joinedBuilt

/-- A column without a value is not reported as optional, although it is filled with NULL. -/
theorem Select.valuelessOfFoo_not_optional :
    (Part.select valuelessOfFoo).Built ∧ (Statement.select valuelessOfFoo).checkPrepare = .ok ()
      ∧ .source .from .fooOrValueless ∈ valuelessOfFoo.clauses
      ∧ [("foo", some ()), ("s", none)] ∈ TableRef.fooOrValueless.rows (.onlyRowOf "foo")
      ∧ (Expr.column ⟨"s", .derived "x" .noValue⟩).Reads "s"
      ∧ valuelessOfFoo.fields = [⟨"x", .noValue⟩] ∧ ValueType.noValue.isOptional = false :=
  ⟨valuelessOfFoo_built, rfl, .tail _ (.head _), .head _, ⟨[], _, .refl _, rfl, by simp⟩, rfl,
    rfl⟩

end Rows

end CheckedSql
