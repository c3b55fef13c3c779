import CheckedSql.Proofs.Scoping.Resolution

/-!
# Declared columns

A column carries a copy of its declaration.  It got the copy from the table reference
that offered it, and no call changes the copy after that.  The checks of a statement
compare names only: they find a table for the qualifier of each column, and do not ask
whether that table declares the column.  Two tables of one name may declare different
columns, so an accepted statement may use a column that its own source does not declare
(`Statement.bareFoo_undeclared`).

What the checks do give is relative to the tables that the columns were taken from.
`Part.BuiltFrom` keeps them, and follows a column to one of them: a column that is read
somewhere in the part (`Part.BuiltFrom.of_contains`), and one that a statement writes
(`Part.BuiltFrom.of_mem_writtenColumns`).  A source of an accepted statement declares
the used columns of its name if it declares what those tables of its name offer
(`Statement.columns_declared`).
-/

namespace CheckedSql

/-! ## Offered columns -/

/-- A table reference that offers a column goes by the qualifier of the column. -/
theorem TableRef.identities_of_mem_columns {table : TableRef} {column : Column}
    (offered : column ∈ table.columns) : table.identities = [column.qualifier] := by
  cases table with
  | table declared =>
      obtain ⟨spec, -, rfl⟩ := List.mem_map.1 offered
      rfl
  | cte reference =>
      obtain ⟨spec, -, rfl⟩ := List.mem_map.1 offered
      rfl
  | subSelect derived =>
      obtain ⟨spec, -, rfl⟩ := List.mem_map.1 offered
      rfl
  | join => cases offered

/-- A chain is no column. -/
theorem Expr.chained_ne_column (connective : Connective) (left : Expr) (right : Entry Expr)
    (column : Column) : chained connective left right ≠ .column column := by
  obtain ⟨operands, same, -⟩ := exists_chained connective left right
  rw [same]
  nofun

/-- A column is taken from a table reference that offers it, and no other call returns one. -/
theorem Expr.MadeFrom.offered {arguments : List Part} {column : Column}
    (made : MadeFrom arguments (.column column)) :
    ∃ table : TableRef, arguments = [.tableRef table] ∧ column ∈ table.columns := by
  generalize same : Expr.column column = expr at made
  cases made with
  | column offered =>
      cases same
      exact ⟨_, rfl, offered⟩
  | value | parameter | countAll | existsIn => cases same
  | unary made =>
      obtain ⟨-, rfl⟩ := mkUnary_eq_ok.1 made
      cases same
  | binary made =>
      rcases mkBinary_eq_ok made with
        ⟨connective, -, chainMade⟩ | ⟨-, -, rfl⟩ | ⟨-, -, type, -, rfl⟩
      · obtain ⟨-, isChain⟩ := mkChain_eq_ok.1 chainMade
        exact absurd (isChain.trans same.symm) (chained_ne_column _ _ _ _)
      · cases same
      · cases same
  | chain made =>
      obtain ⟨-, isChain⟩ := mkChain_eq_ok.1 made
      exact absurd (isChain.trans same.symm) (chained_ne_column _ _ _ _)
  | within made =>
      obtain ⟨-, rfl⟩ := mkWithin_eq_ok.1 made
      cases same
  | between made =>
      obtain ⟨-, -, rfl⟩ := mkBetween_eq_ok.1 made
      cases same
  | cases made =>
      obtain ⟨-, -, rfl⟩ := mkCases_eq_ok.1 made
      cases same
  | aggregate made =>
      obtain ⟨-, -, rfl⟩ := mkAggregate_eq_ok.1 made
      cases same
  | overAll made =>
      obtain ⟨call, argument?, -, rfl⟩ := mkOver_eq_ok.1 made
      cases same
  | groupKey made =>
      obtain ⟨-, rfl⟩ := mkGroupKey_eq_ok.1 made
      cases same
  | subquery made =>
      obtain ⟨-, rfl⟩ := mkSubquery_eq_ok.1 made
      cases same

/-! ## Parts built from tables -/

/-- A part that calls return from built arguments, with every column taken from a given table
reference. -/
inductive Part.BuiltFrom (given : TableRef → Prop) : Part → Prop where
  | made {arguments : List Part} {part : Part} :
      part.MadeFrom arguments → (∀ argument ∈ arguments, BuiltFrom given argument) →
      (∀ column table, part = .column column → .tableRef table ∈ arguments → given table) →
      BuiltFrom given part

namespace Part

variable {given : TableRef → Prop} {part : Part}

theorem BuiltFrom.built (built : part.BuiltFrom given) : part.Built := by
  induction built with
  | made made _ _ ih => exact .made made ih

theorem BuiltFrom.of_mem_children {child : Part} (built : part.BuiltFrom given)
    (mem : child ∈ part.children) : child.BuiltFrom given := by
  induction built generalizing child with
  | made made arguments _ ih =>
      rcases made.given mem with isArgument | ⟨argument, isArgument, inArgument⟩
      · exact arguments child isArgument
      · exact ih argument isArgument inArgument

/-- Whatever stands in a part was built from the same tables. -/
theorem BuiltFrom.of_contains {inner : Part} (built : part.BuiltFrom given)
    (contains : part.Contains inner) : inner.BuiltFrom given := by
  induction contains with
  | refl => exact built
  | tail _ mem ih => exact ih.of_mem_children mem

/-- A column was taken from a given table reference that offers it. -/
theorem BuiltFrom.offered {column : Column} (built : (Part.column column).BuiltFrom given) :
    ∃ table, given table ∧ column ∈ table.columns := by
  cases built with
  | made made arguments taken =>
      obtain ⟨table, rfl, offered⟩ := Expr.MadeFrom.offered made
      exact ⟨table, taken column table rfl (.head _), offered⟩

end Part

/-! ## Written columns -/

namespace Statement

/-- The columns that a statement writes. -/
def writtenColumns (statement : Statement) : List Column :=
  statement.clauses.flatMap Clause.writtenColumns

/-- The columns that a statement writes were given to the call, or are written by a statement that
was given to it. -/
def WritesGiven (arguments : List Part) (result : Statement) : Prop :=
  ∀ column ∈ result.writtenColumns, .column column ∈ arguments
    ∨ ∃ old, .statement old ∈ arguments ∧ column ∈ old.writtenColumns

variable {arguments : List Part} {result : Statement}

/-- No call on statements writes a column that was not given to it. -/
theorem MadeFrom.writesGiven (made : MadeFrom arguments result) : WritesGiven arguments result := by
  intro column written
  obtain ⟨clause, mem, inClause⟩ := List.mem_flatMap.1 written
  cases made.provenance clause mem with
  | added added => exact .inl (added.columns column inClause)
  | kept given inOld => exact .inr ⟨_, given, List.mem_flatMap.2 ⟨clause, inOld, inClause⟩⟩
  | @revised old last given inOld revises =>
      rw [revises.writtenColumns_eq] at inClause
      exact .inr ⟨old, given, List.mem_flatMap.2 ⟨last, inOld, inClause⟩⟩

end Statement

/-- The columns that a statement writes were taken from the tables it was built from. -/
theorem Part.BuiltFrom.of_mem_writtenColumns {given : TableRef → Prop} {statement : Statement}
    {column : Column} (built : (Part.statement statement).BuiltFrom given)
    (written : column ∈ statement.writtenColumns) : (Part.column column).BuiltFrom given := by
  generalize same : Part.statement statement = part at built
  induction built generalizing statement with
  | made made arguments _ ih =>
      subst same
      rcases Statement.MadeFrom.writesGiven made column written with
        isArgument | ⟨old, oldMem, inOld⟩
      · exact arguments _ isArgument
      · exact ih _ oldMem inOld rfl

/-! ## Sources -/

/-- The tables, references and sub-selects that a table reference reads from. -/
def TableRef.sources : TableRef → List TableRef
  | join left _ ⟨_, right⟩ _ => left.sources ++ right.sources
  | table declared => [.table declared]
  | cte reference => [.cte reference]
  | subSelect derived => [.subSelect derived]

/-- The tables, references and sub-selects that a clause reads from or changes. -/
def Clause.sources : Clause → List TableRef
  | source _ table => table.sources
  | target _ table => [.table table]
  | _ => []

/-- A table reference goes by the names of its sources. -/
theorem TableRef.mem_identities {table : TableRef} {name : String} :
    name ∈ table.identities ↔ ∃ source ∈ table.sources, source.identities = [name] := by
  induction table using sources.induct with
  | case1 left kind presence right condition? leftIh rightIh =>
      simp only [identities, sources, List.mem_append, leftIh, rightIh, or_and_right, exists_or]
  | case2 declared => simp [identities, sources, eq_comm]
  | case3 reference => simp [identities, sources, eq_comm]
  | case4 derived => simp [identities, sources, eq_comm]

theorem Clause.mem_identities {clause : Clause} {name : String} :
    name ∈ clause.identities ↔ ∃ source ∈ clause.sources, source.identities = [name] := by
  cases clause with
  | source kind table => exact TableRef.mem_identities
  | target kind table => simp [identities, sources, TableRef.identities, eq_comm]
  | _ => simp [identities, sources]

/-- A source declares a column of this name and type. -/
def Column.IsDeclaredBy (column : Column) (source : TableRef) : Prop :=
  ∃ declared ∈ source.columns, declared.name = column.name ∧ declared.type = column.type

/-- A source declares what the given tables of its name offer. -/
def TableRef.Agrees (given : TableRef → Prop) (source : TableRef) : Prop :=
  ∀ table, given table → table.identities = source.identities →
    ∀ column ∈ table.columns, column.IsDeclaredBy source

namespace Statement

/-- The tables, references and sub-selects that a statement reads from or changes itself. -/
def sources (statement : Statement) : List TableRef :=
  statement.clauses.flatMap Clause.sources

theorem mem_identities {statement : Statement} {name : String} :
    name ∈ statement.identities ↔ ∃ source ∈ statement.sources, source.identities = [name] := by
  simp only [identities, sources, List.mem_flatMap, Clause.mem_identities]
  constructor
  · rintro ⟨clause, clauseMem, source, mem, same⟩
    exact ⟨source, ⟨clause, clauseMem, mem⟩, same⟩
  · rintro ⟨source, ⟨clause, clauseMem, mem⟩, same⟩
    exact ⟨clause, clauseMem, source, mem, same⟩

/-- The statement uses the column itself, not in a select inside of it: it reads the column or
writes it. -/
def Uses (statement : Statement) (column : Column) : Prop :=
  (∃ clause, (Part.statement statement).Refers [⟨statement, clause⟩] column)
    ∨ column ∈ statement.writtenColumns

variable {given : TableRef → Prop} {statement : Statement} {column : Column}

/-- A used column was taken from one of the tables that the statement was built from. -/
theorem Uses.offered (uses : statement.Uses column)
    (built : (Part.statement statement).BuiltFrom given) :
    ∃ table, given table ∧ column ∈ table.columns := by
  rcases uses with ⟨clause, refers⟩ | written
  · exact (built.of_contains refers.contains).offered
  · exact (built.of_mem_writtenColumns written).offered

/-- In an accepted statement, a used column is qualified by the name of a source. -/
theorem Uses.qualified (uses : statement.Uses column) (built : (Part.statement statement).Built)
    (prepared : statement.checkPrepare = .ok ()) :
    ∃ source ∈ statement.sources, source.identities = [column.qualifier] := by
  obtain ⟨readsResolved, -, writesTarget⟩ := references_resolved built prepared
  refine mem_identities.1 ?_
  rcases uses with ⟨clause, refers⟩ | written
  · exact (resolves_singleton _ _).1 (readsResolved _ .self _ column refers)
  · obtain ⟨clause, clauseMem, mem⟩ := List.mem_flatMap.1 written
    exact writesTarget clause clauseMem column mem

/-- A column that an accepted statement uses is taken from a table that goes by its qualifier.  A
source of the statement goes by it too, and declares the column if it declares what the tables of
its name offer. -/
theorem columns_declared (built : (Part.statement statement).BuiltFrom given)
    (prepared : statement.checkPrepare = .ok ()) (uses : statement.Uses column) :
    (∃ table, given table ∧ table.identities = [column.qualifier] ∧ column ∈ table.columns)
      ∧ (∃ source ∈ statement.sources, source.identities = [column.qualifier])
      ∧ ∀ source ∈ statement.sources, source.identities = [column.qualifier] →
        source.Agrees given → column.IsDeclaredBy source := by
  obtain ⟨table, isGiven, offered⟩ := uses.offered built
  have named := TableRef.identities_of_mem_columns offered
  refine ⟨⟨table, isGiven, named, offered⟩, uses.qualified built.built prepared, ?_⟩
  intro source mem sourceNamed agrees
  exact agrees table isGiven (named.trans sourceNamed.symm) column offered

end Statement

/-! ## Two tables of one name -/

/-- Built from the table of this name with one column. -/
abbrev Part.BuiltFromId (name : String) : Part → Prop :=
  BuiltFrom (· = .table (.ofId name))

theorem Table.ofId_builtFromId (name : String) :
    (Part.tableRef (.table (.ofId name))).BuiltFromId name := by
  have declared : ∀ spec ∈ (Table.ofId name).specs, spec.Declared := by
    rw [Table.ofId, Table.new, List.forall_mem_singleton]
    exact .new "id" .integral
  exact .made (.table declared) nofun nofun

theorem Column.ofId_builtFromId (name : String) :
    (Part.column (.ofId name)).BuiltFromId name := by
  have offered : Column.ofId name ∈ (TableRef.table (.ofId name)).columns := .head _
  refine .made (.column offered) ?_ ?_
  · rw [List.forall_mem_singleton]
    exact Table.ofId_builtFromId name
  · rintro column table - (_ | ⟨_, ⟨⟩⟩)
    rfl

namespace Statement

/-- The start of `idToItself`, with its assignment. -/
def idAssigned (name : String) : Update where
  clauses :=
    [.target .update (.ofId name), .set [.static ⟨.ofId name, some (.column (.ofId name))⟩]]

/-- The assignment of a column to itself, for every row of its table. -/
def idToItself (name : String) : Update where
  clauses := (idAssigned name).clauses ++ [.where none]

theorem idAssigned_builtFromId (name : String) :
    (Part.statement (.update (idAssigned name))).BuiltFromId name := by
  let assignments : List (Entry Assignment) := [.static ⟨.ofId name, some (.column (.ofId name))⟩]
  have started : (Part.statement (.update (.start none (.ofId name)))).BuiltFromId name := by
    refine .made (.update (.ofId name) With.areMade_none) ?_ nofun
    rintro argument (_ | ⟨_, ⟨⟩⟩)
    exact Table.ofId_builtFromId name
  have isMade : ∀ assignment ∈ assignments, assignment.value.IsMade := by
    rw [List.forall_mem_singleton]
    exact .inl ⟨.column (.ofId name), rfl⟩
  have assigned : (Update.start none (.ofId name)).set assignments = .ok (idAssigned name) := rfl
  refine .made (.updateSet isMade assigned) ?_ nofun
  rintro argument (_ | ⟨_, _ | ⟨_, _ | ⟨_, ⟨⟩⟩⟩⟩)
  · exact started
  · exact Column.ofId_builtFromId name
  · exact Column.ofId_builtFromId name

theorem idToItself_builtFromId (name : String) :
    (Part.statement (.update (idToItself name))).BuiltFromId name := by
  have finished : (idAssigned name).unconditionally = .ok (idToItself name) := rfl
  refine .made (.updateUnconditionally finished) ?_ nofun
  rintro argument (_ | ⟨_, ⟨⟩⟩)
  exact idAssigned_builtFromId name

/-- An update of the table that its column was taken from writes a declared column. -/
theorem fooToItself_declared :
    (update (idToItself "foo")).checkPrepare = .ok ()
      ∧ ∃ source ∈ (update (idToItself "foo")).sources,
        (Column.ofId "foo").IsDeclaredBy source := by
  have prepared : (update (idToItself "foo")).checkPrepare = .ok () := by rfl
  have uses : (update (idToItself "foo")).Uses (.ofId "foo") := .inr (.head _)
  obtain ⟨-, -, declared⟩ := columns_declared (idToItself_builtFromId "foo") prepared uses
  refine ⟨prepared, .table (.ofId "foo"), .head _, declared _ (.head _) rfl ?_⟩
  rintro table rfl - column mem
  exact ⟨column, mem, rfl, rfl⟩

/-- A table `foo` that declares a name and no number. -/
def bareFoo : Table := .new "foo" [.new "name" .text]

/-- The select of `foo.id` from a table `foo` that does not declare it. -/
def selectFromBareFoo : Select where
  clauses := (Select.ofColumn "foo").clauses ++ [.source .from (.table bareFoo)]

/-- A built and accepted select reads a column that no source of it declares. -/
theorem bareFoo_undeclared :
    (Part.select selectFromBareFoo).Built ∧ (select selectFromBareFoo).checkPrepare = .ok ()
      ∧ (select selectFromBareFoo).Uses (.ofId "foo")
      ∧ ∀ source ∈ (select selectFromBareFoo).sources,
        ¬ (Column.ofId "foo").IsDeclaredBy source := by
  have bareBuilt : (Part.tableRef (.table bareFoo)).Built := by
    have declared : ∀ spec ∈ bareFoo.specs, spec.Declared := by
      rw [bareFoo, Table.new, List.forall_mem_singleton]
      exact .new "name" .text
    exact .made (.table declared) nofun
  have sourced : (Select.ofColumn "foo").from (.table bareFoo) = .ok selectFromBareFoo := rfl
  refine ⟨.of_pair (.selectFrom sourced) (Select.ofColumn_built "foo") bareBuilt, by rfl, ?_, ?_⟩
  · exact .inl ⟨_, .statement (.head _) (.head _) (.refl _)⟩
  · intro source mem
    obtain rfl := List.mem_singleton.1 mem
    rintro ⟨declared, offered, sameName, -⟩
    obtain rfl := List.mem_singleton.1 offered
    exact absurd sameName (by decide)

end Statement

end CheckedSql
