import CheckedSql.OrderedSet
import CheckedSql.Syntax.Basic

/-!
# Names read and provided

A statement is checked by the names its parts *need* and *provide*: the
identities of tables, and the names of common table expressions.

`Needs` are the names a part reads.  Its static needs are those of the parts
that are always there.  `Names` adds what a part provides to the statement it
stands in, and which of the provided tables an outer join may fill with NULL.

A select is a scope of its own.  What its clauses provide is not seen outside,
and it needs from outside what its clauses need and do not provide themselves
(`Select.needs`).
-/

namespace CheckedSql

/-- Fails if a set of names is not empty. -/
def requireEmpty (names : NameSet) (origin : Origin) (failure : List String → Failure) :
    Except Error Unit :=
  require names.isEmpty origin (failure names.toList)

/-! ## Needs -/

/-- The names that a part of a statement reads. -/
structure Needs where
  tables : NameSet
  /-- The tables read by what is always there. -/
  staticTables : NameSet
  ctes : NameSet
  /-- The common table expressions read by what is always there. -/
  staticCtes : NameSet
  deriving Repr

namespace Needs

/-- Reading nothing. -/
def none : Needs := ⟨∅, ∅, ∅, ∅⟩

instance : EmptyCollection Needs := ⟨none⟩

/-- What two parts read together. -/
def union (left right : Needs) : Needs where
  tables := left.tables ∪ right.tables
  staticTables := left.staticTables ∪ right.staticTables
  ctes := left.ctes ∪ right.ctes
  staticCtes := left.staticCtes ∪ right.staticCtes

instance : Union Needs := ⟨union⟩

/-- Reading the table of this identity. -/
def ofTable (identity : String) : Needs :=
  ⟨.singleton identity, .singleton identity, ∅, ∅⟩

/-- Reading the common table expression of this name. -/
def ofCte (name : String) : Needs := ⟨∅, ∅, .singleton name, .singleton name⟩

/-- The needs of a part that is not always there. -/
def asDynamic (needs : Needs) : Needs := { needs with staticTables := ∅, staticCtes := ∅ }

/-- The needs of an entry, given those of its value. -/
def within (presence : Presence) (needs : Needs) : Needs :=
  if presence.isStatic then needs else needs.asDynamic

end Needs

/-! ## Names -/

/-- The names that a part of a statement provides and reads. -/
structure Names where
  tables : NameSet
  staticTables : NameSet
  /-- Provided tables whose columns an outer join may fill with NULL. -/
  optionalTables : NameSet
  ctes : NameSet
  staticCtes : NameSet
  needs : Needs
  deriving Repr

namespace Names

/-- Providing and reading nothing. -/
def none : Names := ⟨∅, ∅, ∅, ∅, ∅, ∅⟩

instance : EmptyCollection Names := ⟨none⟩

/-- Providing nothing. -/
def reading (needs : Needs) : Names := { none with needs }

/-- Providing a table that is always there. -/
def ofTable (identity : String) : Names :=
  { none with tables := .singleton identity, staticTables := .singleton identity }

/-- What two parts provide and read together. -/
def union (left right : Names) : Names where
  tables := left.tables ∪ right.tables
  staticTables := left.staticTables ∪ right.staticTables
  optionalTables := left.optionalTables ∪ right.optionalTables
  ctes := left.ctes ∪ right.ctes
  staticCtes := left.staticCtes ∪ right.staticCtes
  needs := left.needs ∪ right.needs

instance : Union Names := ⟨union⟩

/-- The tables that are read and not provided. -/
def unresolvedTables (names : Names) : NameSet := names.needs.tables \ names.tables

/-- The common table expressions that are read and not provided. -/
def unresolvedCtes (names : Names) : NameSet := names.needs.ctes \ names.ctes

/-- What is needed from outside.  All of it counts as always needed. -/
def unresolved (names : Names) : Needs :=
  ⟨names.unresolvedTables, names.unresolvedTables, names.unresolvedCtes, names.unresolvedCtes⟩

end Names

/-- The provided tables that a join of two sides may fill with NULL. -/
def JoinKind.optionalTables (kind : JoinKind) (left right : Names) : NameSet :=
  match kind with
  | inner | cross => left.optionalTables ∪ right.optionalTables
  | leftOuter => left.optionalTables ∪ right.tables
  | rightOuter => left.tables ∪ right.optionalTables
  | fullOuter => left.tables ∪ right.tables

/-- The names of a join, given those of its sides and what its condition reads.  The tables that a
condition reads come from the two sides, so the join does not need them. -/
def JoinKind.names (kind : JoinKind) (left : Names) (presence : Presence) (right : Names)
    (condition : Needs) : Names where
  tables := left.tables ∪ right.tables
  staticTables :=
    if presence.isStatic then left.staticTables ∪ right.staticTables else left.staticTables
  optionalTables := kind.optionalTables left right
  ctes := ∅
  staticCtes := ∅
  needs :=
    { tables := left.needs.tables ∪ right.needs.tables
      staticTables := left.needs.tables ∪ right.needs.tables
      ctes := left.needs.ctes ∪ right.needs.ctes ∪ condition.ctes
      staticCtes :=
        if presence.isStatic then
          left.needs.staticCtes ∪ right.needs.staticCtes ∪ condition.ctes
        else left.needs.staticCtes }

/-- The names of a `WITH` clause: what it defines, and what the definitions read from elsewhere. -/
def withNames (defined definedStatically : List String) (needs : Needs) : Names :=
  let ctes := OrderedSet.ofList defined
  { tables := ∅
    staticTables := ∅
    optionalTables := ∅
    ctes
    staticCtes := .ofList definedStatically
    needs :=
      { tables := needs.tables
        staticTables := needs.tables
        ctes := needs.ctes \ ctes
        staticCtes := needs.staticCtes \ ctes } }

/-! ## The names of trees -/

mutual

/-- The names an expression reads. -/
def Expr.needs : Expr → Needs
  | .column column => .ofTable column.qualifier
  | .value _ => ∅
  | .parameter _ => ∅
  | .unary _ operand => Expr.needs operand
  | .binary _ left right _ => Expr.needs left ∪ Expr.needs right
  | .concat left right => Expr.needs left ∪ Expr.needs right
  | .chain _ operands => Expr.entriesNeeds operands
  | .within _ tested items => Expr.needs tested ∪ Expr.listNeeds items
  | .between tested low high => Expr.needs tested ∪ Expr.needs low ∪ Expr.needs high
  | .cases branches otherwise _ => Expr.branchesNeeds branches ∪ Expr.needs otherwise
  | .aggregate _ argument? => Expr.optionNeeds argument?
  | .groupKey inner => Expr.needs inner
  | .existsIn select => (Select.names select).unresolved
  | .subquery select => (Select.names select).unresolved

/-- The names an optional expression reads. -/
def Expr.optionNeeds : Option Expr → Needs
  | none => ∅
  | some expr => Expr.needs expr

/-- The names a list of expressions reads. -/
def Expr.listNeeds : List Expr → Needs
  | [] => ∅
  | expr :: exprs => Expr.needs expr ∪ Expr.listNeeds exprs

/-- The names a list of rows reads. -/
def Expr.rowsNeeds : List (List Expr) → Needs
  | [] => ∅
  | row :: rows => Expr.listNeeds row ∪ Expr.rowsNeeds rows

/-- The names the branches of a `CASE` read. -/
def Expr.branchesNeeds : List (Expr × Expr) → Needs
  | [] => ∅
  | (condition, result) :: branches =>
      Expr.needs condition ∪ Expr.needs result ∪ Expr.branchesNeeds branches

/-- The names an entry reads. -/
def Expr.entryNeeds : Entry Expr → Needs
  | ⟨presence, expr⟩ => .within presence (Expr.needs expr)

/-- The names an optional entry reads. -/
def Expr.entryOptionNeeds : Option (Entry Expr) → Needs
  | none => ∅
  | some entry => Expr.entryNeeds entry

/-- The names a list of entries reads. -/
def Expr.entriesNeeds : List (Entry Expr) → Needs
  | [] => ∅
  | entry :: entries => Expr.entryNeeds entry ∪ Expr.entriesNeeds entries

/-- The names a select provides and reads inside. -/
def Select.names : Select → Names
  | ⟨clauses⟩ => Clause.listNames clauses

/-- The names the selected columns read. -/
def SelectColumn.entriesNeeds : List (Entry SelectColumn) → Needs
  | [] => ∅
  | ⟨presence, expr, _, _⟩ :: columns =>
      .within presence (Expr.needs expr) ∪ SelectColumn.entriesNeeds columns

/-- The names the assigned values read. -/
def Assignment.entriesNeeds : List (Entry Assignment) → Needs
  | [] => ∅
  | ⟨presence, _, value?⟩ :: assignments =>
      .within presence (Expr.optionNeeds value?) ∪ Assignment.entriesNeeds assignments

/-- The names the sort orders read. -/
def SortOrder.entriesNeeds : List (Entry SortOrder) → Needs
  | [] => ∅
  | ⟨presence, expr, _, _⟩ :: orders =>
      .within presence (Expr.needs expr) ∪ SortOrder.entriesNeeds orders

/-- The names the inserted values read. -/
def InsertValues.needs : InsertValues → Needs
  | .defaultValues => ∅
  | .set assignments => Assignment.entriesNeeds assignments
  | .rows _ rows => Expr.rowsNeeds rows

/-- The names a conflict action reads. -/
def ConflictAction.needs : ConflictAction → Needs
  | .doNothing => ∅
  | .doUpdate assignments condition? =>
      Assignment.entriesNeeds assignments ∪ Expr.entryOptionNeeds condition?

/-- The names a clause provides and reads.  A row count reads nothing. -/
def Clause.names : Clause → Names
  | .with ctes =>
      withNames (ctes.map fun cte => cte.value.name) ((staticValues ctes).map Cte.name)
        (Cte.entriesNeeds ctes)
  | .columns _ columns => .reading (SelectColumn.entriesNeeds columns)
  | .target _ table => .ofTable table.identity
  | .set assignments => .reading (Assignment.entriesNeeds assignments)
  | .values content => .reading (InsertValues.needs content)
  | .source _ table => TableRef.names table
  | .where condition? => .reading (Expr.entryOptionNeeds condition?)
  | .groupBy entries => .reading (Expr.entriesNeeds entries)
  | .having condition => .reading (Expr.entryNeeds condition)
  | .union _ ⟨presence, arm⟩ => .reading (.within presence (Select.names arm).unresolved)
  | .orderBy orders => .reading (SortOrder.entriesNeeds orders)
  | .limit _ _ => ∅
  | .onConflict _ action => .reading (ConflictAction.needs action)
  | .returning columns => .reading (SelectColumn.entriesNeeds columns)

/-- The names of a list of clauses. -/
def Clause.listNames : List Clause → Names
  | [] => ∅
  | clause :: clauses => Clause.names clause ∪ Clause.listNames clauses

/-- The names a table reference provides and reads. -/
def TableRef.names : TableRef → Names
  | .table table => .ofTable table.identity
  | .cte reference =>
      { Names.ofTable reference.identity with needs := .ofCte reference.name }
  | .subSelect ⟨select, name, _⟩ =>
      { Names.ofTable name with needs := (Select.names select).unresolved }
  | .join left kind ⟨presence, right⟩ condition? =>
      kind.names (TableRef.names left) presence (TableRef.names right)
        (Expr.optionNeeds condition?)

/-- The names a common table expression reads, not counting its own. -/
def Cte.needs : Cte → Needs
  | ⟨name, base, arms, _⟩ =>
      let needs := (Select.names base).unresolved ∪ CteArm.listNeeds arms
      { needs with
        ctes := needs.ctes \ .singleton name
        staticCtes := needs.staticCtes \ .singleton name }

/-- The names a list of common table expressions reads. -/
def Cte.entriesNeeds : List (Entry Cte) → Needs
  | [] => ∅
  | ⟨presence, cte⟩ :: ctes => .within presence (Cte.needs cte) ∪ Cte.entriesNeeds ctes

/-- The names the arms of a common table expression read, active or not. -/
def CteArm.listNeeds : List CteArm → Needs
  | [] => ∅
  | ⟨_, ⟨_, select⟩, _⟩ :: arms => (Select.names select).unresolved ∪ CteArm.listNeeds arms

end

/-- The names a select reads from outside. -/
def Select.needs (select : Select) : Needs := select.names.unresolved

/-- The tables a select reads without providing them. -/
def Select.unresolvedTables (select : Select) : NameSet := select.names.unresolvedTables

/-- The common table expressions a select reads without defining them. -/
def Select.unresolvedCtes (select : Select) : NameSet := select.names.unresolvedCtes

end CheckedSql
