import CheckedSql.Statement.Basic

/-!
# What is left without inactive parts

`pruned` takes everything out of a statement that is not active: operands,
assignments, sort orders, joins, arms and definitions, and the clauses that are left
without an entry.  Of an inactive result column only the name is kept.  What was
computed from the parts when they were put together goes too: types and result rows.
So two statements that differ only in what is inactive are the same when they are
pruned.

One trace of the inactive parts is left.  An arm of a common table expression keeps
a mark whether it reads the common table expression, and a reference in an inactive
part of the arm counts.  `pruned true` keeps the marks of the arms, `pruned false`
takes them away.

Writing looks at nothing else.  A pruned statement with its marks is written as the
statement is, and without them the only difference is the keyword `RECURSIVE`
(`Statement.tokens_pruned`).
-/

namespace CheckedSql

open Token

/-! ## Pruning -/

/-- The column without its declaration. -/
def Column.bare (column : Column) : Column := ⟨column.qualifier, .derived column.name .noValue⟩

/-- The reference without its result row. -/
def CteRef.bare (reference : CteRef) : CteRef := { reference with fields := [] }

/-- The result column of this name that is not there. -/
def SelectColumn.absent (name : String) : Entry SelectColumn :=
  .dynamic false ⟨.value .null, name, false⟩

/-- A clause of these entries, if there are some. -/
def Clause.ofEntries {α : Type} (make : List α → Clause) : List α → List Clause
  | [] => []
  | entry :: entries => [make (entry :: entries)]

mutual

/-- The expression without inactive operands. -/
def Expr.pruned (marks : Bool) : Expr → Expr
  | .column column => .column column.bare
  | .value value => .value value
  | .parameter parameter => .parameter parameter
  | .unary operator operand => .unary operator (Expr.pruned marks operand)
  | .binary operator left right _ =>
      .binary operator (Expr.pruned marks left) (Expr.pruned marks right) .noValue
  | .concat left right => .concat (Expr.pruned marks left) (Expr.pruned marks right)
  | .chain connective operands => .chain connective (Expr.entriesPruned marks operands)
  | .within negated tested items =>
      .within negated (Expr.pruned marks tested) (Expr.listPruned marks items)
  | .between tested low high =>
      .between (Expr.pruned marks tested) (Expr.pruned marks low) (Expr.pruned marks high)
  | .cases branches otherwise _ =>
      .cases (Expr.branchesPruned marks branches) (Expr.pruned marks otherwise) .noValue
  | .aggregate call none => .aggregate call none
  | .aggregate call (some argument) => .aggregate call (some (Expr.pruned marks argument))
  | .groupKey inner => .groupKey (Expr.pruned marks inner)
  | .existsIn select => .existsIn (Select.pruned marks select)
  | .subquery select => .subquery (Select.pruned marks select)

/-- An optional expression without inactive operands. -/
def Expr.optionPruned (marks : Bool) : Option Expr → Option Expr
  | none => none
  | some expr => some (Expr.pruned marks expr)

/-- Expressions without inactive operands. -/
def Expr.listPruned (marks : Bool) : List Expr → List Expr
  | [] => []
  | expr :: exprs => Expr.pruned marks expr :: Expr.listPruned marks exprs

/-- Rows without inactive operands. -/
def Expr.rowsPruned (marks : Bool) : List (List Expr) → List (List Expr)
  | [] => []
  | row :: rows => Expr.listPruned marks row :: Expr.rowsPruned marks rows

/-- The branches of a `CASE` without inactive operands. -/
def Expr.branchesPruned (marks : Bool) : List (Expr × Expr) → List (Expr × Expr)
  | [] => []
  | (condition, result) :: branches =>
      (Expr.pruned marks condition, Expr.pruned marks result)
        :: Expr.branchesPruned marks branches

/-- The entry, if it is active. -/
def Expr.entryPruned? (marks : Bool) : Entry Expr → Option (Entry Expr)
  | ⟨presence, expr⟩ =>
      if presence.isActive then some (.static (Expr.pruned marks expr)) else none

/-- The entry, if it is there and active. -/
def Expr.optionEntryPruned? (marks : Bool) : Option (Entry Expr) → Option (Entry Expr)
  | none => none
  | some entry => Expr.entryPruned? marks entry

/-- The active entries. -/
def Expr.entriesPruned (marks : Bool) : List (Entry Expr) → List (Entry Expr)
  | [] => []
  | ⟨presence, expr⟩ :: entries =>
      if presence.isActive then .static (Expr.pruned marks expr) :: Expr.entriesPruned marks entries
      else Expr.entriesPruned marks entries

/-- The select without its inactive parts. -/
def Select.pruned (marks : Bool) : Select → Select
  | ⟨clauses⟩ => ⟨Clause.listPruned marks clauses⟩

/-- Result columns, with nothing but the names of the inactive ones. -/
def SelectColumn.entriesPruned (marks : Bool) :
    List (Entry SelectColumn) → List (Entry SelectColumn)
  | [] => []
  | ⟨presence, expr, name, aliased⟩ :: columns =>
      (if presence.isActive then .static ⟨Expr.pruned marks expr, name, aliased⟩
        else SelectColumn.absent name) :: SelectColumn.entriesPruned marks columns

/-- The active assignments. -/
def Assignment.entriesPruned (marks : Bool) : List (Entry Assignment) → List (Entry Assignment)
  | [] => []
  | ⟨presence, column, value?⟩ :: assignments =>
      if presence.isActive then
        .static ⟨column, Expr.optionPruned marks value?⟩
          :: Assignment.entriesPruned marks assignments
      else Assignment.entriesPruned marks assignments

/-- The active sort orders. -/
def SortOrder.entriesPruned (marks : Bool) : List (Entry SortOrder) → List (Entry SortOrder)
  | [] => []
  | ⟨presence, expr, direction, nulls?⟩ :: orders =>
      if presence.isActive then
        .static ⟨Expr.pruned marks expr, direction, nulls?⟩ :: SortOrder.entriesPruned marks orders
      else SortOrder.entriesPruned marks orders

/-- Inserted values without inactive parts. -/
def InsertValues.pruned (marks : Bool) : InsertValues → InsertValues
  | .defaultValues => .defaultValues
  | .set assignments => .set (Assignment.entriesPruned marks assignments)
  | .rows columns rows => .rows columns (Expr.rowsPruned marks rows)

/-- A conflict action without inactive parts. -/
def ConflictAction.pruned (marks : Bool) : ConflictAction → ConflictAction
  | .doNothing => .doNothing
  | .doUpdate assignments condition? =>
      .doUpdate (Assignment.entriesPruned marks assignments)
        (Expr.optionEntryPruned? marks condition?)

/-- The clause without inactive parts, if something of it is left. -/
def Clause.pruned (marks : Bool) : Clause → List Clause
  | .with ctes => Clause.ofEntries .with (Cte.entriesPruned marks ctes)
  | .columns distinct columns => [.columns distinct (SelectColumn.entriesPruned marks columns)]
  | .target kind table => [.target kind table]
  | .set assignments => [.set (Assignment.entriesPruned marks assignments)]
  | .values content => [.values (InsertValues.pruned marks content)]
  | .source kind table => [.source kind (TableRef.pruned marks table)]
  | .where condition? =>
      (Expr.optionEntryPruned? marks condition?).toList.map fun condition => .where (some condition)
  | .groupBy entries => Clause.ofEntries .groupBy (Expr.entriesPruned marks entries)
  | .having condition => (Expr.entryPruned? marks condition).toList.map .having
  | .union distinct ⟨presence, arm⟩ =>
      if presence.isActive then [.union distinct (.static (Select.pruned marks arm))] else []
  | .orderBy orders => Clause.ofEntries .orderBy (SortOrder.entriesPruned marks orders)
  | .limit kind count => [.limit kind (Expr.pruned marks count)]
  | .onConflict columns action => [.onConflict columns (ConflictAction.pruned marks action)]
  | .returning columns => [.returning (SelectColumn.entriesPruned marks columns)]

/-- Clauses without inactive parts. -/
def Clause.listPruned (marks : Bool) : List Clause → List Clause
  | [] => []
  | clause :: clauses => Clause.pruned marks clause ++ Clause.listPruned marks clauses

/-- The table reference without inactive joins. -/
def TableRef.pruned (marks : Bool) : TableRef → TableRef
  | .table table => .table table
  | .cte reference => .cte reference.bare
  | .subSelect derived => .subSelect (SubSelect.pruned marks derived)
  | .join left kind ⟨presence, right⟩ condition? =>
      if presence.isActive then
        .join (TableRef.pruned marks left) kind (.static (TableRef.pruned marks right))
          (Expr.optionPruned marks condition?)
      else TableRef.pruned marks left

/-- The sub-select without inactive parts and without its result row. -/
def SubSelect.pruned (marks : Bool) : SubSelect → SubSelect
  | ⟨select, name, _⟩ => ⟨Select.pruned marks select, name, []⟩

/-- The common table expression without inactive arms and without its result row. -/
def Cte.pruned (marks : Bool) : Cte → Cte
  | ⟨name, base, arms, _⟩ => ⟨name, Select.pruned marks base, CteArm.listPruned marks arms, []⟩

/-- The active definitions. -/
def Cte.entriesPruned (marks : Bool) : List (Entry Cte) → List (Entry Cte)
  | [] => []
  | ⟨presence, cte⟩ :: ctes =>
      if presence.isActive then .static (Cte.pruned marks cte) :: Cte.entriesPruned marks ctes
      else Cte.entriesPruned marks ctes

/-- The active arms, with their marks or without them. -/
def CteArm.listPruned (marks : Bool) : List CteArm → List CteArm
  | [] => []
  | ⟨distinct, ⟨presence, select⟩, readsSelf⟩ :: arms =>
      if presence.isActive then
        ⟨distinct, .static (Select.pruned marks select), marks && readsSelf⟩
          :: CteArm.listPruned marks arms
      else CteArm.listPruned marks arms

end

/-- The statement without its inactive parts. -/
def Statement.pruned (marks : Bool) : Statement → Statement
  | select statement => .select ⟨Clause.listPruned marks statement.clauses⟩
  | insert statement => .insert ⟨Clause.listPruned marks statement.clauses⟩
  | update statement => .update ⟨Clause.listPruned marks statement.clauses⟩
  | delete statement => .delete ⟨Clause.listPruned marks statement.clauses⟩

@[simp] theorem Statement.clauses_pruned (marks : Bool) (statement : Statement) :
    (statement.pruned marks).clauses = Clause.listPruned marks statement.clauses := by
  cases statement <;> rfl

/-! ## Tokens without the mark -/

/-- The token, without the keyword `RECURSIVE` unless marks are kept. -/
def Token.unmarked (marks : Bool) : Token → Token
  | text content =>
      if !marks && content == "WITH RECURSIVE " then text "WITH " else text content
  | token => token

/-- The tokens, without the keyword `RECURSIVE` unless marks are kept. -/
def unmarkedTokens (marks : Bool) (tokens : List Token) : List Token :=
  tokens.map (Token.unmarked marks)

section Pieces

variable {marks : Bool}

@[simp] theorem unmarkedTokens_nil : unmarkedTokens marks [] = [] := rfl

@[simp] theorem unmarkedTokens_cons (token : Token) (tokens : List Token) :
    unmarkedTokens marks (token :: tokens) = token.unmarked marks :: unmarkedTokens marks tokens :=
  rfl

@[simp] theorem unmarkedTokens_append (left right : List Token) :
    unmarkedTokens marks (left ++ right)
      = unmarkedTokens marks left ++ unmarkedTokens marks right := List.map_append

theorem unmarkedTokens_true (tokens : List Token) : unmarkedTokens true tokens = tokens := by
  have keeps : Token.unmarked true = id := by
    funext token
    cases token <;> rfl
  rw [unmarkedTokens, keeps, List.map_id]

@[simp] theorem Token.unmarked_identifier (name : String) :
    (identifier name).unmarked marks = identifier name := rfl

@[simp] theorem Token.unmarked_literal (value : Value) :
    (literal value).unmarked marks = literal value := rfl

@[simp] theorem Token.unmarked_placeholder (parameter : Parameter) :
    (placeholder parameter).unmarked marks = placeholder parameter := rfl

/-- Another text is kept. -/
theorem Token.unmarked_text {content : String} (other : content ≠ "WITH RECURSIVE ") :
    (text content).unmarked marks = text content := by
  simp [unmarked, other]

theorem unmarkedTokens_parenthesized (piece : List Token) :
    unmarkedTokens marks (parenthesized piece) = parenthesized (unmarkedTokens marks piece) := by
  simp [parenthesized, Token.unmarked_text]

theorem unmarkedTokens_operand (compound : Bool) (piece : List Token) :
    unmarkedTokens marks (operand compound piece)
      = operand compound (unmarkedTokens marks piece) := by
  cases compound with
  | false => rfl
  | true => exact unmarkedTokens_parenthesized piece

theorem unmarkedTokens_separatedBy {separator : String} (other : separator ≠ "WITH RECURSIVE ")
    (pieces : List (List Token)) :
    unmarkedTokens marks (separatedBy separator pieces)
      = separatedBy separator (pieces.map (unmarkedTokens marks)) := by
  induction pieces using separatedBy.induct with
  | case1 => rfl
  | case2 piece => rfl
  | case3 piece pieces isCons ih =>
      cases pieces with
      | nil => exact absurd rfl isCons
      | cons next rest =>
          simp only [separatedBy, List.map_cons, unmarkedTokens_append, unmarkedTokens_cons,
            Token.unmarked_text other] at ih ⊢
          rw [ih]

theorem unmarkedTokens_withCommas (pieces : List (List Token)) :
    unmarkedTokens marks (withCommas pieces) = withCommas (pieces.map (unmarkedTokens marks)) :=
  unmarkedTokens_separatedBy (by decide) pieces

theorem startsWithMinus_unmarkedTokens (dialect : Dialect) (tokens : List Token) :
    dialect.startsWithMinus (unmarkedTokens marks tokens) = dialect.startsWithMinus tokens := by
  cases tokens with
  | nil => rfl
  | cons token tokens =>
      cases token with
      | text content =>
          simp only [unmarkedTokens_cons, Token.unmarked]
          split <;> rfl
      | _ => rfl

theorem UnaryOperator.unmarkedTokens_tokens (dialect : Dialect) (operator : UnaryOperator)
    (piece : List Token) :
    unmarkedTokens marks (operator.tokens dialect piece)
      = operator.tokens dialect (unmarkedTokens marks piece) := by
  cases operator with
  | negate =>
      simp only [tokens, startsWithMinus_unmarkedTokens]
      split <;> simp [unmarkedTokens_parenthesized, Token.unmarked_text]
  | _ => simp [tokens, Token.unmarked_text]

theorem Operator.unmarkedTokens_tokens (operator : Operator) (left right : List Token) :
    unmarkedTokens marks (operator.tokens left right)
      = operator.tokens (unmarkedTokens marks left) (unmarkedTokens marks right) := by
  have other : " " ++ operator.symbol ++ " " ≠ "WITH RECURSIVE " := by
    cases operator <;> decide
  simp only [tokens, unmarkedTokens_append, unmarkedTokens_cons, Token.unmarked_text other]

theorem Dialect.unmarkedTokens_concatTokens (dialect : Dialect) (left right : List Token) :
    unmarkedTokens marks (dialect.concatTokens left right)
      = dialect.concatTokens (unmarkedTokens marks left) (unmarkedTokens marks right) := by
  cases dialect <;> simp [concatTokens, concatFrame, Token.unmarked_text]

theorem Connective.unmarkedTokens_tokens (connective : Connective)
    (pieces : List (Bool × List Token)) :
    unmarkedTokens marks (connective.tokens pieces)
      = connective.tokens (pieces.map fun piece => (piece.1, unmarkedTokens marks piece.2)) := by
  have other : " " ++ connective.operator.symbol ++ " " ≠ "WITH RECURSIVE " := by
    cases connective <;> decide
  match pieces with
  | [] => rfl
  | [_] => rfl
  | first :: second :: rest =>
      simp only [tokens, unmarkedTokens_separatedBy other, List.map_cons, List.map_map,
        Function.comp_def, unmarkedTokens_operand]

theorem unmarkedTokens_membershipTokens (negated : Bool) (tested : List Token)
    (items : List (List Token)) :
    unmarkedTokens marks (membershipTokens negated tested items)
      = membershipTokens negated (unmarkedTokens marks tested)
        (items.map (unmarkedTokens marks)) := by
  have other : (if negated then " NOT IN (" else " IN (") ≠ "WITH RECURSIVE " := by
    cases negated <;> decide
  cases items with
  | nil => rfl
  | cons item items =>
      simp [membershipTokens, unmarkedTokens_withCommas, Token.unmarked_text,
        Token.unmarked_text other]

theorem AggregateCall.unmarkedTokens_tokens (call : AggregateCall) (argument : List Token) :
    unmarkedTokens marks (call.tokens argument) = call.tokens (unmarkedTokens marks argument) := by
  obtain ⟨function, distinct, overAll⟩ := call
  have opens : function.keyword ++ (if distinct then "(DISTINCT " else "(")
      ≠ "WITH RECURSIVE " := by
    cases function <;> cases distinct <;> decide
  have closes : (if overAll then ") OVER()" else ")") ≠ "WITH RECURSIVE " := by
    cases overAll <;> decide
  simp only [tokens, unmarkedTokens_cons, unmarkedTokens_append, unmarkedTokens_nil,
    Token.unmarked_text opens, Token.unmarked_text closes]

theorem unmarkedTokens_namedTokens (expr : List Token) (name : String) :
    unmarkedTokens marks (namedTokens expr name)
      = namedTokens (unmarkedTokens marks expr) name := by
  simp [namedTokens, Token.unmarked_text]

theorem unmarkedTokens_aliasedNameTokens (declared : String) (alias? : Option String) :
    unmarkedTokens marks (aliasedNameTokens declared alias?)
      = aliasedNameTokens declared alias? := by
  cases alias? <;> simp [aliasedNameTokens, unmarkedTokens_namedTokens]

theorem Column.unmarkedTokens_tokens (column : Column) :
    unmarkedTokens marks column.tokens = column.tokens := by
  simp [tokens, Token.unmarked_text]

theorem unmarkedTokens_columnListTokens (columns : List String) :
    unmarkedTokens marks (columnListTokens columns) = columnListTokens columns := by
  simp [columnListTokens, unmarkedTokens_parenthesized, unmarkedTokens_withCommas,
    Function.comp_def]

theorem unmarkedTokens_listClauseTokens {keyword : String} (other : keyword ≠ "WITH RECURSIVE ")
    (pieces : List (List Token)) :
    unmarkedTokens marks (listClauseTokens keyword pieces)
      = listClauseTokens keyword (pieces.map (unmarkedTokens marks)) := by
  cases pieces with
  | nil => rfl
  | cons piece pieces =>
      simp [listClauseTokens, unmarkedTokens_withCommas, Token.unmarked_text other]

theorem unmarkedTokens_conditionTokens {keyword : String} (other : keyword ≠ "WITH RECURSIVE ")
    (condition : Option (List Token)) :
    unmarkedTokens marks (conditionTokens keyword condition)
      = conditionTokens keyword (condition.map (unmarkedTokens marks)) := by
  cases condition <;> simp [conditionTokens, Token.unmarked_text other]

theorem unmarkedTokens_assignmentTokens (assignments : List (String × List Token)) :
    unmarkedTokens marks (assignmentTokens assignments)
      = assignmentTokens (assignments.map fun given => (given.1, unmarkedTokens marks given.2)) := by
  simp [assignmentTokens, unmarkedTokens_withCommas, Token.unmarked_text, Function.comp_def]

theorem unmarkedTokens_insertedTokens (assignments : List (String × List Token)) :
    unmarkedTokens marks (insertedTokens assignments)
      = insertedTokens (assignments.map fun given => (given.1, unmarkedTokens marks given.2)) := by
  cases assignments with
  | nil => simp [insertedTokens, Token.unmarked_text]
  | cons assignment assignments =>
      simp [insertedTokens, unmarkedTokens_columnListTokens, unmarkedTokens_parenthesized,
        unmarkedTokens_withCommas, Token.unmarked_text, Function.comp_def]

/-- This is where the keyword is written. -/
theorem unmarkedTokens_withTokens (recursive : Bool) (definitions : List (List Token)) :
    unmarkedTokens marks (withTokens recursive definitions)
      = withTokens (marks && recursive) (definitions.map (unmarkedTokens marks)) := by
  have keyword : (text (if recursive then "WITH RECURSIVE " else "WITH ")).unmarked marks
      = text (if (marks && recursive) then "WITH RECURSIVE " else "WITH ") := by
    cases marks <;> cases recursive <;> rfl
  cases definitions with
  | nil => rfl
  | cons definition definitions =>
      simp [withTokens, keyword, unmarkedTokens_withCommas, Token.unmarked_text]

theorem Dialect.unmarkedTokens_unionTokens (dialect : Dialect) (distinct : Bool)
    (arm : List Token) :
    unmarkedTokens marks (dialect.unionTokens distinct arm)
      = dialect.unionTokens distinct (unmarkedTokens marks arm) := by
  have other : " " ++ dialect.unionKeyword distinct ++ " " ≠ "WITH RECURSIVE " := by
    cases dialect <;> cases distinct <;> decide
  simp only [unionTokens, unmarkedTokens_cons, Token.unmarked_text other]

theorem JoinKind.unmarkedTokens_tokens (kind : JoinKind) (right : List Token)
    (condition : Option (List Token)) :
    unmarkedTokens marks (kind.tokens right condition)
      = kind.tokens (unmarkedTokens marks right) (condition.map (unmarkedTokens marks)) := by
  have other : " " ++ kind.keyword ++ " " ≠ "WITH RECURSIVE " := by cases kind <;> decide
  simp only [tokens, unmarkedTokens_cons, unmarkedTokens_append, Token.unmarked_text other]
  rw [unmarkedTokens_conditionTokens (by decide)]

theorem unmarkedTokens_sortTokens (expr : List Token) (direction : SortDirection)
    (nulls? : Option NullsOrder) :
    unmarkedTokens marks (sortTokens expr direction nulls?)
      = sortTokens (unmarkedTokens marks expr) direction nulls? := by
  cases direction <;> rcases nulls? with _ | (_ | _) <;>
    simp [sortTokens, SortDirection.keyword, NullsOrder.keyword, Token.unmarked_text]

end Pieces

/-! ## The tokens of what is left -/

theorem Presence.isActive_static : Presence.static.isActive = true := rfl

theorem Presence.isActive_dynamic (active : Bool) :
    (Presence.dynamic active).isActive = active := rfl

theorem Expr.isCompound_pruned (marks : Bool) :
    (expr : Expr) → (expr.pruned marks).isCompound = expr.isCompound
  | .groupKey inner => Expr.isCompound_pruned marks inner
  | .aggregate _ none | .aggregate _ (some _) => rfl
  | .column _ | .value _ | .parameter _ | .unary .. | .binary .. | .concat .. | .chain ..
  | .within .. | .between .. | .cases .. | .existsIn _ | .subquery _ => rfl

@[simp] theorem Table.unmarkedTokens_tokens (marks : Bool) (table : Table) :
    unmarkedTokens marks table.tokens = table.tokens :=
  unmarkedTokens_aliasedNameTokens table.name table.alias?

/-- Arms keep their marks, or lose them. -/
theorem Cte.isRecursive_pruned (marks : Bool) (cte : Cte) :
    (cte.pruned marks).isRecursive = (marks && cte.isRecursive) := by
  obtain ⟨name, base, arms, fields⟩ := cte
  simp only [Cte.pruned, isRecursive]
  induction arms with
  | nil => simp [CteArm.listPruned]
  | cons arm arms ih =>
      obtain ⟨distinct, ⟨presence, select⟩, readsSelf⟩ := arm
      simp only [Entry.isActive] at ih
      cases active : presence.isActive <;>
        simp [CteArm.listPruned, Entry.isActive, Entry.static, Presence.isActive_static, active, ih,
          Bool.and_or_distrib_left]

theorem Cte.any_isRecursive_entriesPruned (marks : Bool) (ctes : List (Entry Cte)) :
    (activeValues (Cte.entriesPruned marks ctes)).any isRecursive
      = (marks && (activeValues ctes).any isRecursive) := by
  induction ctes with
  | nil => simp [Cte.entriesPruned, activeValues]
  | cons cte ctes ih =>
      obtain ⟨presence, cte⟩ := cte
      cases active : presence.isActive <;>
        simp [Cte.entriesPruned, activeValues_cons, Entry.isActive, Entry.static,
          Presence.isActive_static, active, ih, isRecursive_pruned, Bool.and_or_distrib_left]

/-- A clause that vanishes without entries may be left out then. -/
theorem Clause.listTokens_ofEntries {α : Type} (dialect : Dialect) {make : List α → Clause}
    (vanishes : Clause.tokens dialect (make []) = []) (entries : List α) :
    Clause.listTokens dialect (Clause.ofEntries make entries)
      = Clause.tokens dialect (make entries) := by
  cases entries with
  | nil => exact vanishes.symm
  | cons entry entries => exact List.append_nil _

mutual

theorem Expr.tokens_pruned (dialect : Dialect) (marks : Bool) :
    (expr : Expr) →
      Expr.tokens dialect (expr.pruned marks) = unmarkedTokens marks (Expr.tokens dialect expr)
  | .column column => (Column.unmarkedTokens_tokens column).symm
  | .value _ | .parameter _ => rfl
  | .unary operator inner => by
      simp only [Expr.pruned, Expr.tokens, Expr.isCompound_pruned,
        Expr.tokens_pruned dialect marks inner, operator.unmarkedTokens_tokens,
        unmarkedTokens_operand]
  | .binary operator left right _ => by
      simp only [Expr.pruned, Expr.tokens, Expr.isCompound_pruned,
        Expr.tokens_pruned dialect marks left, Expr.tokens_pruned dialect marks right,
        operator.unmarkedTokens_tokens, unmarkedTokens_operand]
  | .concat left right => by
      simp only [Expr.pruned, Expr.tokens, Expr.isCompound_pruned,
        Expr.tokens_pruned dialect marks left, Expr.tokens_pruned dialect marks right,
        dialect.unmarkedTokens_concatTokens, unmarkedTokens_operand]
  | .chain connective operands => by
      simp only [Expr.pruned, Expr.tokens, Expr.activeTokens_pruned dialect marks operands,
        connective.unmarkedTokens_tokens]
  | .within negated tested items => by
      simp only [Expr.pruned, Expr.tokens, Expr.isCompound_pruned,
        Expr.tokens_pruned dialect marks tested, Expr.listTokens_pruned dialect marks items,
        unmarkedTokens_membershipTokens, unmarkedTokens_operand]
  | .between tested low high => by
      simp only [Expr.pruned, Expr.tokens, Expr.isCompound_pruned,
        Expr.tokens_pruned dialect marks tested, Expr.tokens_pruned dialect marks low,
        Expr.tokens_pruned dialect marks high, unmarkedTokens_append, unmarkedTokens_cons,
        unmarkedTokens_operand]
      simp [Token.unmarked_text]
  | .cases branches otherwise _ => by
      simp [Expr.pruned, Expr.tokens, Expr.branchTokens_pruned dialect marks branches,
        Expr.tokens_pruned dialect marks otherwise, Token.unmarked_text]
  | .aggregate call none => by
      simp [Expr.pruned, Expr.tokens, call.unmarkedTokens_tokens, Token.unmarked_text]
  | .aggregate call (some argument) => by
      simp only [Expr.pruned, Expr.tokens, Expr.tokens_pruned dialect marks argument,
        call.unmarkedTokens_tokens]
  | .groupKey inner => Expr.tokens_pruned dialect marks inner
  | .existsIn select => by
      simp [Expr.pruned, Expr.tokens, Select.tokens_pruned dialect marks select,
        unmarkedTokens_parenthesized, Token.unmarked_text]
  | .subquery select => by
      simp only [Expr.pruned, Expr.tokens, Select.tokens_pruned dialect marks select,
        unmarkedTokens_parenthesized]

theorem Expr.listTokens_pruned (dialect : Dialect) (marks : Bool) :
    (exprs : List Expr) →
      Expr.listTokens dialect (Expr.listPruned marks exprs)
        = (Expr.listTokens dialect exprs).map (unmarkedTokens marks)
  | [] => rfl
  | expr :: exprs => by
      simp only [Expr.listPruned, Expr.listTokens, List.map_cons,
        Expr.tokens_pruned dialect marks expr, Expr.listTokens_pruned dialect marks exprs]

theorem Expr.rowTokens_pruned (dialect : Dialect) (marks : Bool) :
    (rows : List (List Expr)) →
      Expr.rowTokens dialect (Expr.rowsPruned marks rows)
        = (Expr.rowTokens dialect rows).map (unmarkedTokens marks)
  | [] => rfl
  | row :: rows => by
      simp only [Expr.rowsPruned, Expr.rowTokens, List.map_cons,
        Expr.listTokens_pruned dialect marks row, Expr.rowTokens_pruned dialect marks rows,
        unmarkedTokens_parenthesized, unmarkedTokens_withCommas]

theorem Expr.branchTokens_pruned (dialect : Dialect) (marks : Bool) :
    (branches : List (Expr × Expr)) →
      Expr.branchTokens dialect (Expr.branchesPruned marks branches)
        = unmarkedTokens marks (Expr.branchTokens dialect branches)
  | [] => rfl
  | (condition, result) :: branches => by
      simp [Expr.branchesPruned, Expr.branchTokens, Expr.tokens_pruned dialect marks condition,
        Expr.tokens_pruned dialect marks result, Expr.branchTokens_pruned dialect marks branches,
        Token.unmarked_text]

theorem Expr.activeTokens_pruned (dialect : Dialect) (marks : Bool) :
    (entries : List (Entry Expr)) →
      Expr.activeTokens dialect (Expr.entriesPruned marks entries)
        = (Expr.activeTokens dialect entries).map
          fun piece => (piece.1, unmarkedTokens marks piece.2)
  | [] => rfl
  | ⟨presence, expr⟩ :: entries => by
      have rest := Expr.activeTokens_pruned dialect marks entries
      cases active : presence.isActive with
      | false => simpa [Expr.entriesPruned, Expr.activeTokens, active] using rest
      | true =>
          simp [Expr.entriesPruned, Expr.activeTokens, active, Entry.static, Presence.isActive_static,
            Expr.isCompound_pruned, Expr.tokens_pruned dialect marks expr, rest]

theorem Expr.tokens?_pruned (dialect : Dialect) (marks : Bool) :
    (expr? : Option Expr) →
      Expr.tokens? dialect (Expr.optionPruned marks expr?)
        = (Expr.tokens? dialect expr?).map (unmarkedTokens marks)
  | none => rfl
  | some expr => congrArg some (Expr.tokens_pruned dialect marks expr)

theorem Expr.entryTokens?_pruned (dialect : Dialect) (marks : Bool) :
    (entry : Entry Expr) →
      Expr.optionEntryTokens? dialect (Expr.entryPruned? marks entry)
        = (Expr.entryTokens? dialect entry).map (unmarkedTokens marks)
  | ⟨presence, expr⟩ => by
      cases active : presence.isActive with
      | false => simp [Expr.entryPruned?, Expr.entryTokens?, Expr.optionEntryTokens?, active]
      | true =>
          simp [Expr.entryPruned?, Expr.entryTokens?, Expr.optionEntryTokens?, active,
            Entry.static, Presence.isActive_static, Expr.tokens_pruned dialect marks expr]

theorem Expr.optionEntryTokens?_pruned (dialect : Dialect) (marks : Bool) :
    (condition? : Option (Entry Expr)) →
      Expr.optionEntryTokens? dialect (Expr.optionEntryPruned? marks condition?)
        = (Expr.optionEntryTokens? dialect condition?).map (unmarkedTokens marks)
  | none => rfl
  | some entry => Expr.entryTokens?_pruned dialect marks entry

theorem Select.tokens_pruned (dialect : Dialect) (marks : Bool) :
    (select : Select) →
      Select.tokens dialect (select.pruned marks)
        = unmarkedTokens marks (Select.tokens dialect select)
  | ⟨clauses⟩ => Clause.listTokens_pruned dialect marks clauses

theorem SelectColumn.listTokens_pruned (dialect : Dialect) (marks : Bool) :
    (columns : List (Entry SelectColumn)) →
      SelectColumn.listTokens dialect (SelectColumn.entriesPruned marks columns)
        = (SelectColumn.listTokens dialect columns).map (unmarkedTokens marks)
  | [] => rfl
  | ⟨presence, expr, name, aliased⟩ :: columns => by
      have rest := SelectColumn.listTokens_pruned dialect marks columns
      have written := Expr.tokens_pruned dialect marks expr
      cases active : presence.isActive with
      | false =>
          simp [SelectColumn.entriesPruned, SelectColumn.listTokens, SelectColumn.absent, active,
            Entry.dynamic, Presence.isActive_dynamic, rest, unmarkedTokens_namedTokens,
            Token.unmarked_text]
      | true =>
          cases aliased <;>
            simp [SelectColumn.entriesPruned, SelectColumn.listTokens, SelectColumn.tokens, active,
              Entry.static, Presence.isActive_static, rest, written, Expr.isCompound_pruned,
              unmarkedTokens_namedTokens, unmarkedTokens_operand]

theorem Assignment.activeTokens_pruned (dialect : Dialect) (marks : Bool) :
    (assignments : List (Entry Assignment)) →
      Assignment.activeTokens dialect (Assignment.entriesPruned marks assignments)
        = (Assignment.activeTokens dialect assignments).map
          fun given => (given.1, unmarkedTokens marks given.2)
  | [] => rfl
  | ⟨presence, column, none⟩ :: assignments => by
      have rest := Assignment.activeTokens_pruned dialect marks assignments
      cases active : presence.isActive with
      | false => simpa [Assignment.entriesPruned, Assignment.activeTokens, active] using rest
      | true =>
          simp [Assignment.entriesPruned, Assignment.activeTokens, Expr.optionPruned,
            Assignment.valueTokens, active, Entry.static, Presence.isActive_static, rest,
            Token.unmarked_text]
  | ⟨presence, column, some value⟩ :: assignments => by
      have rest := Assignment.activeTokens_pruned dialect marks assignments
      cases active : presence.isActive with
      | false => simpa [Assignment.entriesPruned, Assignment.activeTokens, active] using rest
      | true =>
          simp [Assignment.entriesPruned, Assignment.activeTokens, Expr.optionPruned,
            Assignment.valueTokens, active, Entry.static, Presence.isActive_static, rest,
            Expr.tokens_pruned dialect marks value]

theorem SortOrder.activeTokens_pruned (dialect : Dialect) (marks : Bool) :
    (orders : List (Entry SortOrder)) →
      SortOrder.activeTokens dialect (SortOrder.entriesPruned marks orders)
        = (SortOrder.activeTokens dialect orders).map (unmarkedTokens marks)
  | [] => rfl
  | ⟨presence, expr, direction, nulls?⟩ :: orders => by
      have rest := SortOrder.activeTokens_pruned dialect marks orders
      cases active : presence.isActive with
      | false => simpa [SortOrder.entriesPruned, SortOrder.activeTokens, active] using rest
      | true =>
          simp [SortOrder.entriesPruned, SortOrder.activeTokens, SortOrder.tokens, active,
            Entry.static, Presence.isActive_static, rest, Expr.isCompound_pruned,
            Expr.tokens_pruned dialect marks expr, unmarkedTokens_sortTokens,
            unmarkedTokens_operand]

theorem InsertValues.tokens_pruned (dialect : Dialect) (marks : Bool) :
    (content : InsertValues) →
      InsertValues.tokens dialect (content.pruned marks)
        = unmarkedTokens marks (InsertValues.tokens dialect content)
  | .defaultValues => by
      simp [InsertValues.pruned, InsertValues.tokens, Token.unmarked_text]
  | .set assignments => by
      simp only [InsertValues.pruned, InsertValues.tokens,
        Assignment.activeTokens_pruned dialect marks assignments, unmarkedTokens_insertedTokens]
  | .rows columns rows => by
      simp [InsertValues.pruned, InsertValues.tokens, Expr.rowTokens_pruned dialect marks rows,
        unmarkedTokens_columnListTokens, unmarkedTokens_withCommas, Token.unmarked_text]

theorem ConflictAction.tokens_pruned (dialect : Dialect) (marks : Bool) :
    (action : ConflictAction) →
      ConflictAction.tokens dialect (action.pruned marks)
        = unmarkedTokens marks (ConflictAction.tokens dialect action)
  | .doNothing => by
      simp [ConflictAction.pruned, ConflictAction.tokens, Token.unmarked_text]
  | .doUpdate assignments condition? => by
      simp [ConflictAction.pruned, ConflictAction.tokens,
        Assignment.activeTokens_pruned dialect marks assignments,
        Expr.optionEntryTokens?_pruned dialect marks condition?, unmarkedTokens_assignmentTokens,
        unmarkedTokens_conditionTokens, Token.unmarked_text]

theorem Clause.tokens_pruned (dialect : Dialect) (marks : Bool) :
    (clause : Clause) →
      Clause.listTokens dialect (clause.pruned marks)
        = unmarkedTokens marks (Clause.tokens dialect clause)
  | .with ctes => by
      rw [Clause.pruned, Clause.listTokens_ofEntries dialect (by rfl), Clause.tokens, Clause.tokens,
        Cte.any_isRecursive_entriesPruned, Cte.activeTokens_pruned dialect marks ctes,
        unmarkedTokens_withTokens]
  | .columns distinct columns => by
      have other : (if distinct then "SELECT DISTINCT " else "SELECT ") ≠ "WITH RECURSIVE " := by
        cases distinct <;> decide
      simp [Clause.pruned, Clause.listTokens, Clause.tokens,
        SelectColumn.listTokens_pruned dialect marks columns, unmarkedTokens_withCommas,
        Token.unmarked_text other]
  | .target kind table => by
      have other : kind.keyword ++ " " ≠ "WITH RECURSIVE " := by cases kind <;> decide
      simp [Clause.pruned, Clause.listTokens, Clause.tokens, Token.unmarked_text other]
  | .set assignments => by
      simp [Clause.pruned, Clause.listTokens, Clause.tokens,
        Assignment.activeTokens_pruned dialect marks assignments, unmarkedTokens_assignmentTokens,
        Token.unmarked_text]
  | .values content => by
      simp [Clause.pruned, Clause.listTokens, Clause.tokens,
        InsertValues.tokens_pruned dialect marks content]
  | .source kind table => by
      have other : " " ++ kind.keyword ++ " " ≠ "WITH RECURSIVE " := by cases kind <;> decide
      simp [Clause.pruned, Clause.listTokens, Clause.tokens,
        TableRef.tokens_pruned dialect marks table, Token.unmarked_text other]
  | .where condition? => by
      have written := Expr.optionEntryTokens?_pruned dialect marks condition?
      rw [Clause.tokens, unmarkedTokens_conditionTokens (by decide), ← written, Clause.pruned]
      cases Expr.optionEntryPruned? marks condition? with
      | none => rfl
      | some condition => exact List.append_nil _
  | .groupBy entries => by
      rw [Clause.pruned, Clause.listTokens_ofEntries dialect (by rfl), Clause.tokens, Clause.tokens,
        Expr.activeTokens_pruned dialect marks entries,
        unmarkedTokens_listClauseTokens (by decide), List.map_map, List.map_map]
      rfl
  | .having condition => by
      have written := Expr.entryTokens?_pruned dialect marks condition
      rw [Clause.tokens, unmarkedTokens_conditionTokens (by decide), ← written, Clause.pruned]
      cases Expr.entryPruned? marks condition with
      | none => rfl
      | some condition => exact List.append_nil _
  | .union distinct ⟨presence, arm⟩ => by
      cases active : presence.isActive with
      | false => simp [Clause.pruned, Clause.listTokens, Clause.tokens, active]
      | true =>
          simp [Clause.pruned, Clause.listTokens, Clause.tokens, active, Entry.static,
            Presence.isActive_static, Select.tokens_pruned dialect marks arm,
            dialect.unmarkedTokens_unionTokens]
  | .orderBy orders => by
      rw [Clause.pruned, Clause.listTokens_ofEntries dialect (by rfl), Clause.tokens, Clause.tokens,
        SortOrder.activeTokens_pruned dialect marks orders,
        unmarkedTokens_listClauseTokens (by decide)]
  | .limit kind count => by
      have other : " " ++ kind.keyword ++ " " ≠ "WITH RECURSIVE " := by cases kind <;> decide
      simp [Clause.pruned, Clause.listTokens, Clause.tokens,
        Expr.tokens_pruned dialect marks count, Token.unmarked_text other]
  | .onConflict columns action => by
      cases columns <;>
        simp [Clause.pruned, Clause.listTokens, Clause.tokens,
          ConflictAction.tokens_pruned dialect marks action, unmarkedTokens_columnListTokens,
          Token.unmarked_text]
  | .returning columns => by
      simp [Clause.pruned, Clause.listTokens, Clause.tokens,
        SelectColumn.listTokens_pruned dialect marks columns, unmarkedTokens_withCommas,
        Token.unmarked_text]

theorem Clause.listTokens_pruned (dialect : Dialect) (marks : Bool) :
    (clauses : List Clause) →
      Clause.listTokens dialect (Clause.listPruned marks clauses)
        = unmarkedTokens marks (Clause.listTokens dialect clauses)
  | [] => rfl
  | clause :: clauses => by
      simp only [Clause.listPruned, Clause.listTokens_append, Clause.listTokens,
        Clause.tokens_pruned dialect marks clause, Clause.listTokens_pruned dialect marks clauses,
        unmarkedTokens_append]

theorem TableRef.tokens_pruned (dialect : Dialect) (marks : Bool) :
    (table : TableRef) →
      TableRef.tokens dialect (table.pruned marks)
        = unmarkedTokens marks (TableRef.tokens dialect table)
  | .table table => (Table.unmarkedTokens_tokens marks table).symm
  | .cte reference =>
      (unmarkedTokens_aliasedNameTokens reference.name reference.alias?).symm
  | .subSelect derived => SubSelect.tokens_pruned dialect marks derived
  | .join left kind ⟨presence, right⟩ condition? => by
      have written := TableRef.tokens_pruned dialect marks left
      cases active : presence.isActive with
      | false => simpa [TableRef.pruned, TableRef.tokens, active] using written
      | true =>
          simp [TableRef.pruned, TableRef.tokens, active, Entry.static, Presence.isActive_static, written,
            TableRef.tokens_pruned dialect marks right,
            Expr.tokens?_pruned dialect marks condition?, kind.unmarkedTokens_tokens]

theorem SubSelect.tokens_pruned (dialect : Dialect) (marks : Bool) :
    (derived : SubSelect) →
      SubSelect.tokens dialect (derived.pruned marks)
        = unmarkedTokens marks (SubSelect.tokens dialect derived)
  | ⟨select, name, _⟩ => by
      simp only [SubSelect.pruned, SubSelect.tokens, Select.tokens_pruned dialect marks select,
        unmarkedTokens_namedTokens, unmarkedTokens_parenthesized]

theorem Cte.tokens_pruned (dialect : Dialect) (marks : Bool) :
    (cte : Cte) →
      Cte.tokens dialect (cte.pruned marks) = unmarkedTokens marks (Cte.tokens dialect cte)
  | ⟨name, base, arms, _⟩ => by
      simp [Cte.pruned, Cte.tokens, Select.tokens_pruned dialect marks base,
        CteArm.activeTokens_pruned dialect marks arms, unmarkedTokens_parenthesized,
        Token.unmarked_text]

theorem Cte.activeTokens_pruned (dialect : Dialect) (marks : Bool) :
    (ctes : List (Entry Cte)) →
      Cte.activeTokens dialect (Cte.entriesPruned marks ctes)
        = (Cte.activeTokens dialect ctes).map (unmarkedTokens marks)
  | [] => rfl
  | ⟨presence, cte⟩ :: ctes => by
      have rest := Cte.activeTokens_pruned dialect marks ctes
      cases active : presence.isActive with
      | false => simpa [Cte.entriesPruned, Cte.activeTokens, active] using rest
      | true =>
          simp [Cte.entriesPruned, Cte.activeTokens, active, Entry.static, Presence.isActive_static, rest,
            Cte.tokens_pruned dialect marks cte]

theorem CteArm.activeTokens_pruned (dialect : Dialect) (marks : Bool) :
    (arms : List CteArm) →
      CteArm.activeTokens dialect (CteArm.listPruned marks arms)
        = unmarkedTokens marks (CteArm.activeTokens dialect arms)
  | [] => rfl
  | ⟨distinct, ⟨presence, select⟩, readsSelf⟩ :: arms => by
      have rest := CteArm.activeTokens_pruned dialect marks arms
      cases active : presence.isActive with
      | false => simpa [CteArm.listPruned, CteArm.activeTokens, active] using rest
      | true =>
          simp [CteArm.listPruned, CteArm.activeTokens, active, Entry.static, Presence.isActive_static,
            rest, Select.tokens_pruned dialect marks select, dialect.unmarkedTokens_unionTokens]

end

/-- A pruned statement is written as the statement is, up to the keyword `RECURSIVE` if its marks
are gone. -/
theorem Statement.tokens_pruned (dialect : Dialect) (marks : Bool) (statement : Statement) :
    (statement.pruned marks).tokens dialect = unmarkedTokens marks (statement.tokens dialect) := by
  rw [tokens, clauses_pruned, Clause.listTokens_pruned, tokens]

end CheckedSql
