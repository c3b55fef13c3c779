import CheckedSql.Building.Clause

/-!
# Building selects

A statement grows clause by clause in the order of SQL.  `appendClause` refuses
a clause that comes too late or a second time.

A select that becomes part of another statement as an arm of a union, as a
table or as a common table expression has to be consistent at that point.
-/

namespace CheckedSql

/-! ## Clause lists -/

/-- The clauses with one more, if its place is after the last one. -/
def appendClause (clauses : List Clause) (clause : Clause) : Except Error (List Clause) :=
  match clauses.getLast? with
  | none => .ok [clause]
  | some last =>
      if last.rank < clause.rank then .ok (clauses ++ [clause])
      else fail clause.origin (.clauseOrder clause.origin last.origin)

/-- The clauses with the last one replaced. -/
def replaceLast (clauses : List Clause) (clause : Clause) : List Clause :=
  clauses.dropLast ++ [clause]

/-- The clause of a checked `WITH`, where there is one. -/
def With.clauses : Option With → List Clause
  | none => []
  | some definitions => [.with definitions.ctes]

/-- Appending keeps the clauses that are there. -/
theorem appendClause_eq_ok {clauses result : List Clause} {clause : Clause}
    (h : appendClause clauses clause = .ok result) : result = clauses ++ [clause] := by
  unfold appendClause at h
  split at h
  · next none_last =>
    rw [List.getLast?_eq_none_iff] at none_last
    cases h
    simp [none_last]
  · split at h
    · exact (Except.ok.inj h).symm
    · cases h

namespace Select

/-- Starts a select with its columns. -/
def start (definitions : Option With) (columns : List (Entry SelectColumn)) :
    Except Error Select := do
  let clause ← Clause.mkColumns columns
  return ⟨← appendClause (With.clauses definitions) clause⟩

/-- The select with one more clause. -/
def append (select : Select) (clause : Clause) : Except Error Select := do
  return ⟨← appendClause select.clauses clause⟩

/-- Leaves out repeated rows.  This has to follow the columns at once. -/
def distinct (select : Select) : Except Error Select :=
  match select.clauses.getLast? with
  | none => fail .distinct .noColumnsSelected
  | some (.columns _ columns) => .ok ⟨replaceLast select.clauses (.columns true columns)⟩
  | some last => fail .distinct (.clauseOrder .distinct last.origin)

/-- Reads from a table. -/
def «from» (select : Select) (table : TableRef) : Except Error Select :=
  select.append (.source .from table)

/-- Keeps the rows that fulfil a condition. -/
def «where» (select : Select) (condition : Entry Expr) : Except Error Select := do
  select.append (← Clause.mkWhere condition)

/-- Groups the rows. -/
def groupBy (select : Select) (entries : List (Entry Expr)) : Except Error Select := do
  select.append (← Clause.mkGroupBy entries)

/-- Keeps the groups that fulfil a condition. -/
def having (select : Select) (condition : Entry Expr) : Except Error Select := do
  select.append (← Clause.mkHaving condition)

/-- Adds the rows of another select. -/
def union (select : Select) (distinct : Bool) (arm : Entry Select) : Except Error Select := do
  arm.value.checkConsistency
  select.append (← Clause.mkUnion select.fields distinct arm)

/-- Sorts the rows. -/
def orderBy (select : Select) (orders : List (Entry SortOrder)) : Except Error Select := do
  select.append (← Clause.mkOrderBy orders)

/-- Limits the number of rows or skips the first ones. -/
def limit (select : Select) (kind : LimitKind) (count : Expr) : Except Error Select := do
  select.append (← Clause.mkLimit kind count)

/-- The select as a table of this name. -/
def as (select : Select) (name : String) : Except Error SubSelect := do
  select.checkConsistency
  return { select, name, fields := select.fields }

end Select

/-! ## Sub-selects -/

namespace SubSelect

/-- The columns of a sub-select. -/
def columns (subSelect : SubSelect) : List Column :=
  columnsOf subSelect.name (derivedSpecs subSelect.fields)

/-- The column of a name. -/
def column (subSelect : SubSelect) (name : String) : Except Error Column :=
  findColumn subSelect.name (derivedSpecs subSelect.fields) name

end SubSelect

end CheckedSql
