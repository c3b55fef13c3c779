import CheckedSql.Syntax.Basic
import CheckedSql.Token

/-!
# The tokens of trees

`tokens` turns a tree into the tokens it is written with.  Only what is active
is written.  An inactive operand, assignment, sort order, join, arm or
definition leaves nothing behind, and a clause whose entries are all inactive
vanishes.  An inactive result column keeps its place as `NULL` under its name.

An operand stands between parentheses if it is compound.  A chain is compound
even when only one operand of it is active and written bare.

Every clause but the first starts with a space, so clauses are written one
after the other.
-/

namespace CheckedSql

open Token

/-! ## Single pieces -/

/-- Whether an expression needs parentheses as an operand. -/
def Expr.isCompound : Expr → Bool
  | .column _ | .value _ | .parameter _ | .cases _ _ _ | .aggregate _ _ | .existsIn _
  | .subquery _ => false
  | .groupKey inner => inner.isCompound
  | _ => true

/-- A unary operator on a written operand.  A sign before a sign would start a comment. -/
def UnaryOperator.tokens (dialect : Dialect) (operator : UnaryOperator) (operand : List Token) :
    List Token :=
  match operator with
  | negate =>
      if dialect.startsWithMinus operand then text "-" :: parenthesized operand
      else text "-" :: operand
  | bitNot => text "~" :: operand
  | not => text "NOT " :: operand
  | isNull => operand ++ [text " IS NULL"]
  | isNotNull => operand ++ [text " IS NOT NULL"]

/-- A binary operator between written operands. -/
def Operator.tokens (operator : Operator) (left right : List Token) : List Token :=
  left ++ text (" " ++ operator.symbol ++ " ") :: right

/-- Two written texts, joined. -/
def Dialect.concatTokens (dialect : Dialect) (left right : List Token) : List Token :=
  let (before, between, after) := dialect.concatFrame
  text before :: (left ++ text between :: (right ++ [text after]))

/-- A chain of written operands, each with whether it is compound.  A single operand stands as it
is. -/
def Connective.tokens (connective : Connective) : List (Bool × List Token) → List Token
  | [(_, piece)] => piece
  | pieces =>
      separatedBy (" " ++ connective.operator.symbol ++ " ")
        (pieces.map fun (compound, piece) => operand compound piece)

/-- Membership of a written operand in a list of written items.  Nothing is in an empty list. -/
def membershipTokens (negated : Bool) (tested : List Token) (items : List (List Token)) :
    List Token :=
  if items.isEmpty then [literal (.bool negated)]
  else tested ++ text (if negated then " NOT IN (" else " IN (")
    :: (withCommas items ++ [text ")"])

/-- A call of an aggregate function. -/
def AggregateCall.tokens (call : AggregateCall) (argument : List Token) : List Token :=
  text (call.function.keyword ++ if call.distinct then "(DISTINCT " else "(")
    :: (argument ++ [text (if call.overAll then ") OVER()" else ")")])

/-- A written expression under a name. -/
def namedTokens (expr : List Token) (name : String) : List Token :=
  expr ++ [text " AS ", identifier name]

/-- A declared name that may have an alias. -/
def aliasedNameTokens (declared : String) : Option String → List Token
  | none => [identifier declared]
  | some name => namedTokens [identifier declared] name

/-- A table where it is read or changed. -/
def Table.tokens (table : Table) : List Token := aliasedNameTokens table.name table.alias?

/-- A common table expression where it is read. -/
def CteRef.tokens (reference : CteRef) : List Token :=
  aliasedNameTokens reference.name reference.alias?

/-- A column with the identity it is read from. -/
def Column.tokens (column : Column) : List Token :=
  [identifier column.qualifier, text ".", identifier column.name]

/-- Column names between parentheses. -/
def columnListTokens (columns : List String) : List Token :=
  parenthesized (withCommas (columns.map fun column => [identifier column]))

/-- A clause that vanishes without entries. -/
def listClauseTokens (keyword : String) (pieces : List (List Token)) : List Token :=
  if pieces.isEmpty then [] else text keyword :: withCommas pieces

/-- A clause that vanishes without its condition. -/
def conditionTokens (keyword : String) : Option (List Token) → List Token
  | none => []
  | some condition => text keyword :: condition

/-- Written assignments, as pairs of a column name and a written value. -/
def assignmentTokens (assignments : List (String × List Token)) : List Token :=
  withCommas (assignments.map fun (column, value) => identifier column :: text " = " :: value)

/-- Written assignments, as the columns and the single row of an `INSERT`. -/
def insertedTokens (assignments : List (String × List Token)) : List Token :=
  if assignments.isEmpty then [text " DEFAULT VALUES"]
  else text " " :: (columnListTokens (assignments.map Prod.fst)
    ++ text " VALUES " :: parenthesized (withCommas (assignments.map Prod.snd)))

/-- A `WITH` clause of written definitions. -/
def withTokens (recursive : Bool) (definitions : List (List Token)) : List Token :=
  if definitions.isEmpty then []
  else text (if recursive then "WITH RECURSIVE " else "WITH ")
    :: (withCommas definitions ++ [text " "])

/-- A union with a written select. -/
def Dialect.unionTokens (dialect : Dialect) (distinct : Bool) (arm : List Token) : List Token :=
  text (" " ++ dialect.unionKeyword distinct ++ " ") :: arm

/-- A join to a written table. -/
def JoinKind.tokens (kind : JoinKind) (right : List Token) (condition : Option (List Token)) :
    List Token :=
  text (" " ++ kind.keyword ++ " ") :: (right ++ conditionTokens " ON " condition)

/-- A direction and a place for NULL behind a written expression. -/
def sortTokens (expr : List Token) (direction : SortDirection) (nulls? : Option NullsOrder) :
    List Token :=
  expr ++ [text (" " ++ direction.keyword ++
    match nulls? with
    | none => ""
    | some nulls => " " ++ nulls.keyword)]

/-! ## Trees -/

mutual

/-- The tokens of an expression. -/
def Expr.tokens (dialect : Dialect) : Expr → List Token
  | .column column => column.tokens
  | .value value => [literal value]
  | .parameter parameter => [placeholder parameter]
  | .unary operator inner =>
      operator.tokens dialect (operand inner.isCompound (Expr.tokens dialect inner))
  | .binary operator left right _ =>
      operator.tokens (operand left.isCompound (Expr.tokens dialect left))
        (operand right.isCompound (Expr.tokens dialect right))
  | .concat left right =>
      dialect.concatTokens (operand left.isCompound (Expr.tokens dialect left))
        (operand right.isCompound (Expr.tokens dialect right))
  | .chain connective operands => connective.tokens (Expr.activeTokens dialect operands)
  | .within negated tested items =>
      membershipTokens negated (operand tested.isCompound (Expr.tokens dialect tested))
        (Expr.listTokens dialect items)
  | .between tested low high =>
      operand tested.isCompound (Expr.tokens dialect tested)
        ++ text " BETWEEN " :: (operand low.isCompound (Expr.tokens dialect low)
        ++ text " AND " :: operand high.isCompound (Expr.tokens dialect high))
  | .cases branches otherwise _ =>
      text "CASE" :: (Expr.branchTokens dialect branches
        ++ text " ELSE " :: (Expr.tokens dialect otherwise ++ [text " END"]))
  | .aggregate call none => call.tokens [text "*"]
  | .aggregate call (some argument) => call.tokens (Expr.tokens dialect argument)
  | .groupKey inner => Expr.tokens dialect inner
  | .existsIn select => text "EXISTS " :: parenthesized (Select.tokens dialect select)
  | .subquery select => parenthesized (Select.tokens dialect select)

/-- The tokens of each expression of a list. -/
def Expr.listTokens (dialect : Dialect) : List Expr → List (List Token)
  | [] => []
  | expr :: exprs => Expr.tokens dialect expr :: Expr.listTokens dialect exprs

/-- The tokens of each row between parentheses. -/
def Expr.rowTokens (dialect : Dialect) : List (List Expr) → List (List Token)
  | [] => []
  | row :: rows =>
      parenthesized (withCommas (Expr.listTokens dialect row)) :: Expr.rowTokens dialect rows

/-- The tokens of the branches of a `CASE`. -/
def Expr.branchTokens (dialect : Dialect) : List (Expr × Expr) → List Token
  | [] => []
  | (condition, result) :: branches =>
      text " WHEN " :: (Expr.tokens dialect condition
        ++ text " THEN " :: (Expr.tokens dialect result ++ Expr.branchTokens dialect branches))

/-- The tokens of each active entry, with whether it is compound. -/
def Expr.activeTokens (dialect : Dialect) : List (Entry Expr) → List (Bool × List Token)
  | [] => []
  | ⟨presence, expr⟩ :: entries =>
      if presence.isActive then
        (expr.isCompound, Expr.tokens dialect expr) :: Expr.activeTokens dialect entries
      else Expr.activeTokens dialect entries

/-- The tokens of an optional expression. -/
def Expr.tokens? (dialect : Dialect) : Option Expr → Option (List Token)
  | none => none
  | some expr => some (Expr.tokens dialect expr)

/-- The tokens of an entry that is active. -/
def Expr.entryTokens? (dialect : Dialect) : Entry Expr → Option (List Token)
  | ⟨presence, expr⟩ => if presence.isActive then some (Expr.tokens dialect expr) else none

/-- The tokens of an entry that is there and active. -/
def Expr.optionEntryTokens? (dialect : Dialect) : Option (Entry Expr) → Option (List Token)
  | none => none
  | some entry => Expr.entryTokens? dialect entry

/-- The tokens of a select. -/
def Select.tokens (dialect : Dialect) : Select → List Token
  | ⟨clauses⟩ => Clause.listTokens dialect clauses

/-- The tokens of a result column. -/
def SelectColumn.tokens (dialect : Dialect) : SelectColumn → List Token
  | ⟨expr, name, aliased⟩ =>
      if aliased then namedTokens (operand expr.isCompound (Expr.tokens dialect expr)) name
      else Expr.tokens dialect expr

/-- The tokens of each result column, active or not. -/
def SelectColumn.listTokens (dialect : Dialect) : List (Entry SelectColumn) → List (List Token)
  | [] => []
  | ⟨presence, column⟩ :: columns =>
      (if presence.isActive then SelectColumn.tokens dialect column
        else namedTokens [text "NULL"] column.name) :: SelectColumn.listTokens dialect columns

/-- The tokens of an assigned value. -/
def Assignment.valueTokens (dialect : Dialect) : Assignment → List Token
  | ⟨_, none⟩ => [text "DEFAULT"]
  | ⟨_, some value⟩ => Expr.tokens dialect value

/-- The column names and written values of the active assignments. -/
def Assignment.activeTokens (dialect : Dialect) :
    List (Entry Assignment) → List (String × List Token)
  | [] => []
  | ⟨presence, assignment⟩ :: assignments =>
      if presence.isActive then
        (assignment.column.name, Assignment.valueTokens dialect assignment)
          :: Assignment.activeTokens dialect assignments
      else Assignment.activeTokens dialect assignments

/-- The tokens of a sort order. -/
def SortOrder.tokens (dialect : Dialect) : SortOrder → List Token
  | ⟨expr, direction, nulls?⟩ =>
      sortTokens (operand expr.isCompound (Expr.tokens dialect expr)) direction nulls?

/-- The tokens of each active sort order. -/
def SortOrder.activeTokens (dialect : Dialect) : List (Entry SortOrder) → List (List Token)
  | [] => []
  | ⟨presence, order⟩ :: orders =>
      if presence.isActive then
        SortOrder.tokens dialect order :: SortOrder.activeTokens dialect orders
      else SortOrder.activeTokens dialect orders

/-- The tokens of inserted values. -/
def InsertValues.tokens (dialect : Dialect) : InsertValues → List Token
  | .defaultValues => [text " DEFAULT VALUES"]
  | .set assignments => insertedTokens (Assignment.activeTokens dialect assignments)
  | .rows columns rows =>
      text " " :: (columnListTokens (columns.map Column.name)
        ++ text " VALUES " :: withCommas (Expr.rowTokens dialect rows))

/-- The tokens of a conflict action. -/
def ConflictAction.tokens (dialect : Dialect) : ConflictAction → List Token
  | .doNothing => [text " DO NOTHING"]
  | .doUpdate assignments condition? =>
      text " DO UPDATE SET " :: (assignmentTokens (Assignment.activeTokens dialect assignments)
        ++ conditionTokens " WHERE " (Expr.optionEntryTokens? dialect condition?))

/-- The tokens of a clause. -/
def Clause.tokens (dialect : Dialect) : Clause → List Token
  | .with ctes =>
      withTokens ((activeValues ctes).any Cte.isRecursive) (Cte.activeTokens dialect ctes)
  | .columns distinct columns =>
      text (if distinct then "SELECT DISTINCT " else "SELECT ")
        :: withCommas (SelectColumn.listTokens dialect columns)
  | .target kind table => text (kind.keyword ++ " ") :: table.tokens
  | .set assignments =>
      text " SET " :: assignmentTokens (Assignment.activeTokens dialect assignments)
  | .values content => InsertValues.tokens dialect content
  | .source kind table => text (" " ++ kind.keyword ++ " ") :: TableRef.tokens dialect table
  | .where condition? => conditionTokens " WHERE " (Expr.optionEntryTokens? dialect condition?)
  | .groupBy entries =>
      listClauseTokens " GROUP BY " ((Expr.activeTokens dialect entries).map Prod.snd)
  | .having condition => conditionTokens " HAVING " (Expr.entryTokens? dialect condition)
  | .union distinct ⟨presence, arm⟩ =>
      if presence.isActive then dialect.unionTokens distinct (Select.tokens dialect arm) else []
  | .orderBy orders => listClauseTokens " ORDER BY " (SortOrder.activeTokens dialect orders)
  | .limit kind count => text (" " ++ kind.keyword ++ " ") :: Expr.tokens dialect count
  | .onConflict columns action =>
      text " ON CONFLICT" :: ((if columns.isEmpty then []
        else text " " :: columnListTokens (columns.map Column.name))
        ++ ConflictAction.tokens dialect action)
  | .returning columns =>
      text " RETURNING " :: withCommas (SelectColumn.listTokens dialect columns)

/-- The tokens of clauses, one after the other. -/
def Clause.listTokens (dialect : Dialect) : List Clause → List Token
  | [] => []
  | clause :: clauses => Clause.tokens dialect clause ++ Clause.listTokens dialect clauses

/-- The tokens of a table reference. -/
def TableRef.tokens (dialect : Dialect) : TableRef → List Token
  | .table table => table.tokens
  | .cte reference => reference.tokens
  | .subSelect subSelect => SubSelect.tokens dialect subSelect
  | .join left kind ⟨presence, right⟩ condition? =>
      TableRef.tokens dialect left ++
        if presence.isActive then
          kind.tokens (TableRef.tokens dialect right) (Expr.tokens? dialect condition?)
        else []

/-- The tokens of a sub-select. -/
def SubSelect.tokens (dialect : Dialect) : SubSelect → List Token
  | ⟨select, name, _⟩ => namedTokens (parenthesized (Select.tokens dialect select)) name

/-- The tokens of a definition in a `WITH` clause. -/
def Cte.tokens (dialect : Dialect) : Cte → List Token
  | ⟨name, base, arms, _⟩ =>
      identifier name :: text " AS "
        :: parenthesized (Select.tokens dialect base ++ CteArm.activeTokens dialect arms)

/-- The tokens of each active definition. -/
def Cte.activeTokens (dialect : Dialect) : List (Entry Cte) → List (List Token)
  | [] => []
  | ⟨presence, cte⟩ :: ctes =>
      if presence.isActive then Cte.tokens dialect cte :: Cte.activeTokens dialect ctes
      else Cte.activeTokens dialect ctes

/-- The tokens of the active arms of a definition. -/
def CteArm.activeTokens (dialect : Dialect) : List CteArm → List Token
  | [] => []
  | ⟨distinct, ⟨presence, select⟩, _⟩ :: arms =>
      if presence.isActive then
        dialect.unionTokens distinct (Select.tokens dialect select)
          ++ CteArm.activeTokens dialect arms
      else CteArm.activeTokens dialect arms

end

theorem Clause.listTokens_append (dialect : Dialect) (first second : List Clause) :
    Clause.listTokens dialect (first ++ second)
      = Clause.listTokens dialect first ++ Clause.listTokens dialect second := by
  induction first with
  | nil => rfl
  | cons clause clauses ih =>
      simp only [List.cons_append, Clause.listTokens, ih, List.append_assoc]

/-- The tokens of one assignment. -/
def Assignment.tokens (assignment : Assignment) (dialect : Dialect) : List Token :=
  assignmentTokens [(assignment.column.name, assignment.valueTokens dialect)]

example :
    (Dialect.generic.write ((Expr.unary .negate (.value (.int (-3)))).tokens .generic)).toOption
      = some "-(-3)" := by
  decide

end CheckedSql
