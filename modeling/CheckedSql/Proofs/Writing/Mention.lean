import CheckedSql.Statement.Basic

/-!
# Mentioned names and texts

A statement mentions names of tables, columns, aliases and common table expressions, and
texts of its own.  `Statement.mentions` lists them in the order in which they are written.
It goes through the tree and takes what is active, and knows neither keywords nor
parentheses.  They are what a reader of the written statement has to get back.

The tokens of a tree hold its mentions, in their order (`Statement.mentionsOf_tokens`).
The proof follows the functions that write the tree, one theorem for each.
-/

namespace CheckedSql

/-- A name or a text in a statement. -/
inductive Mention where
  | name (name : String)
  | text (text : String)
  deriving DecidableEq, Repr

/-- The text of a value, if the value is one. -/
def Value.mentions : Value → List Mention
  | text content => [.text content]
  | _ => []

/-- A declared name and its alias. -/
def aliasedNameMentions (declared : String) (alias? : Option String) : List Mention :=
  .name declared :: alias?.toList.map .name

/-- The name of a table and its alias. -/
def Table.mentions (table : Table) : List Mention := aliasedNameMentions table.name table.alias?

/-- The name of a common table expression where it is read, and its alias. -/
def CteRef.mentions (reference : CteRef) : List Mention :=
  aliasedNameMentions reference.name reference.alias?

/-- The names of columns. -/
def Column.listMentions (columns : List Column) : List Mention :=
  columns.map fun column => .name column.name

mutual

/-- The names and texts in an expression.  Nothing is compared with an empty list. -/
def Expr.mentions : Expr → List Mention
  | .column column => [.name column.qualifier, .name column.name]
  | .value value => value.mentions
  | .parameter _ => []
  | .unary _ inner => Expr.mentions inner
  | .binary _ left right _ => Expr.mentions left ++ Expr.mentions right
  | .concat left right => Expr.mentions left ++ Expr.mentions right
  | .chain _ operands => Expr.activeMentions operands
  | .within _ tested items =>
      if items.isEmpty then [] else Expr.mentions tested ++ Expr.listMentions items
  | .between tested low high => Expr.mentions tested ++ (Expr.mentions low ++ Expr.mentions high)
  | .cases branches otherwise _ => Expr.branchMentions branches ++ Expr.mentions otherwise
  | .aggregate _ argument? => Expr.mentions? argument?
  | .groupKey inner => Expr.mentions inner
  | .existsIn select => Select.mentions select
  | .subquery select => Select.mentions select

/-- The names and texts in expressions. -/
def Expr.listMentions : List Expr → List Mention
  | [] => []
  | expr :: exprs => Expr.mentions expr ++ Expr.listMentions exprs

/-- The names and texts in rows. -/
def Expr.rowMentions : List (List Expr) → List Mention
  | [] => []
  | row :: rows => Expr.listMentions row ++ Expr.rowMentions rows

/-- The names and texts in the branches of a `CASE`. -/
def Expr.branchMentions : List (Expr × Expr) → List Mention
  | [] => []
  | (condition, result) :: branches =>
      Expr.mentions condition ++ (Expr.mentions result ++ Expr.branchMentions branches)

/-- The names and texts in the active entries. -/
def Expr.activeMentions : List (Entry Expr) → List Mention
  | [] => []
  | ⟨presence, expr⟩ :: entries =>
      (if presence.isActive then Expr.mentions expr else []) ++ Expr.activeMentions entries

/-- The names and texts in an optional expression. -/
def Expr.mentions? : Option Expr → List Mention
  | none => []
  | some expr => Expr.mentions expr

/-- The names and texts in an entry that is active. -/
def Expr.entryMentions : Entry Expr → List Mention
  | ⟨presence, expr⟩ => if presence.isActive then Expr.mentions expr else []

/-- The names and texts in an entry that is there and active. -/
def Expr.optionEntryMentions : Option (Entry Expr) → List Mention
  | none => []
  | some entry => Expr.entryMentions entry

/-- The names and texts in a select. -/
def Select.mentions : Select → List Mention
  | ⟨clauses⟩ => Clause.listMentions clauses

/-- The names and texts in a result column. -/
def SelectColumn.mentions : SelectColumn → List Mention
  | ⟨expr, name, aliased⟩ => Expr.mentions expr ++ if aliased then [.name name] else []

/-- The names and texts in result columns.  An inactive one keeps its name. -/
def SelectColumn.listMentions : List (Entry SelectColumn) → List Mention
  | [] => []
  | ⟨presence, column⟩ :: columns =>
      (if presence.isActive then SelectColumn.mentions column else [.name column.name])
        ++ SelectColumn.listMentions columns

/-- The names and texts in an assigned value. -/
def Assignment.valueMentions : Assignment → List Mention
  | ⟨_, none⟩ => []
  | ⟨_, some value⟩ => Expr.mentions value

/-- The columns of the active assignments, each with the names and texts in its value. -/
def Assignment.activeMentions : List (Entry Assignment) → List (String × List Mention)
  | [] => []
  | ⟨presence, assignment⟩ :: assignments =>
      if presence.isActive then
        (assignment.column.name, Assignment.valueMentions assignment)
          :: Assignment.activeMentions assignments
      else Assignment.activeMentions assignments

/-- The names and texts in the active sort orders. -/
def SortOrder.activeMentions : List (Entry SortOrder) → List Mention
  | [] => []
  | ⟨presence, ⟨expr, _, _⟩⟩ :: orders =>
      (if presence.isActive then Expr.mentions expr else []) ++ SortOrder.activeMentions orders

/-- The names and texts in inserted values: first all columns, then all values. -/
def InsertValues.mentions : InsertValues → List Mention
  | .defaultValues => []
  | .set assignments =>
      (Assignment.activeMentions assignments).map (fun pair => .name pair.1)
        ++ (Assignment.activeMentions assignments).flatMap Prod.snd
  | .rows columns rows => Column.listMentions columns ++ Expr.rowMentions rows

/-- The names and texts in a conflict action. -/
def ConflictAction.mentions : ConflictAction → List Mention
  | .doNothing => []
  | .doUpdate assignments condition? =>
      (Assignment.activeMentions assignments).flatMap (fun pair => .name pair.1 :: pair.2)
        ++ Expr.optionEntryMentions condition?

/-- The names and texts in a clause. -/
def Clause.mentions : Clause → List Mention
  | .with ctes => Cte.activeMentions ctes
  | .columns _ columns => SelectColumn.listMentions columns
  | .target _ table => table.mentions
  | .set assignments =>
      (Assignment.activeMentions assignments).flatMap fun pair => .name pair.1 :: pair.2
  | .values content => InsertValues.mentions content
  | .source _ table => TableRef.mentions table
  | .where condition? => Expr.optionEntryMentions condition?
  | .groupBy entries => Expr.activeMentions entries
  | .having condition => Expr.entryMentions condition
  | .union _ ⟨presence, arm⟩ => if presence.isActive then Select.mentions arm else []
  | .orderBy orders => SortOrder.activeMentions orders
  | .limit _ count => Expr.mentions count
  | .onConflict columns action => Column.listMentions columns ++ ConflictAction.mentions action
  | .returning columns => SelectColumn.listMentions columns

/-- The names and texts in clauses. -/
def Clause.listMentions : List Clause → List Mention
  | [] => []
  | clause :: clauses => Clause.mentions clause ++ Clause.listMentions clauses

/-- The names and texts in a table reference. -/
def TableRef.mentions : TableRef → List Mention
  | .table table => table.mentions
  | .cte reference => reference.mentions
  | .subSelect subSelect => SubSelect.mentions subSelect
  | .join left _ ⟨presence, right⟩ condition? =>
      TableRef.mentions left
        ++ if presence.isActive then TableRef.mentions right ++ Expr.mentions? condition? else []

/-- The names and texts in a sub-select, and its name. -/
def SubSelect.mentions : SubSelect → List Mention
  | ⟨select, name, _⟩ => Select.mentions select ++ [.name name]

/-- The name of a common table expression, and the names and texts in it. -/
def Cte.mentions : Cte → List Mention
  | ⟨name, base, arms, _⟩ => .name name :: (Select.mentions base ++ CteArm.activeMentions arms)

/-- The names and texts in the active definitions. -/
def Cte.activeMentions : List (Entry Cte) → List Mention
  | [] => []
  | ⟨presence, cte⟩ :: ctes =>
      (if presence.isActive then Cte.mentions cte else []) ++ Cte.activeMentions ctes

/-- The names and texts in the active arms. -/
def CteArm.activeMentions : List CteArm → List Mention
  | [] => []
  | ⟨_, ⟨presence, select⟩, _⟩ :: arms =>
      (if presence.isActive then Select.mentions select else []) ++ CteArm.activeMentions arms

end

/-- The names and texts in a statement, in the order in which they are written. -/
def Statement.mentions (statement : Statement) : List Mention :=
  Clause.listMentions statement.clauses

/-! ## Mentions of tokens -/

/-- The name or the text that a token holds. -/
def Token.mention? : Token → Option Mention
  | identifier name => some (.name name)
  | literal (.text content) => some (.text content)
  | _ => none

/-- The names and texts in tokens. -/
def mentionsOf (tokens : List Token) : List Mention := tokens.filterMap Token.mention?

section Tokens

variable {dialect : Dialect}

@[simp] theorem mentionsOf_nil : mentionsOf [] = [] := rfl

@[simp] theorem mentionsOf_text (text : String) (tokens : List Token) :
    mentionsOf (.text text :: tokens) = mentionsOf tokens := rfl

@[simp] theorem mentionsOf_identifier (name : String) (tokens : List Token) :
    mentionsOf (.identifier name :: tokens) = .name name :: mentionsOf tokens := rfl

@[simp] theorem mentionsOf_placeholder (parameter : Parameter) (tokens : List Token) :
    mentionsOf (.placeholder parameter :: tokens) = mentionsOf tokens := rfl

@[simp] theorem mentionsOf_append (first second : List Token) :
    mentionsOf (first ++ second) = mentionsOf first ++ mentionsOf second :=
  List.filterMap_append

@[simp] theorem mentionsOf_literal (value : Value) : mentionsOf [.literal value] = value.mentions :=
  by cases value <;> rfl

@[simp] theorem mentionsOf_parenthesized (tokens : List Token) :
    mentionsOf (Token.parenthesized tokens) = mentionsOf tokens := by
  simp [Token.parenthesized]

@[simp] theorem mentionsOf_operand (compound : Bool) (tokens : List Token) :
    mentionsOf (Token.operand compound tokens) = mentionsOf tokens := by
  cases compound <;> simp [Token.operand]

@[simp] theorem mentionsOf_separatedBy (separator : String) (pieces : List (List Token)) :
    mentionsOf (Token.separatedBy separator pieces) = pieces.flatMap mentionsOf := by
  induction pieces with
  | nil => rfl
  | cons piece pieces ih =>
      cases pieces with
      | nil => simp [Token.separatedBy]
      | cons next pieces => simp [Token.separatedBy, ih]

@[simp] theorem mentionsOf_withCommas (pieces : List (List Token)) :
    mentionsOf (Token.withCommas pieces) = pieces.flatMap mentionsOf :=
  mentionsOf_separatedBy ", " pieces

@[simp] theorem mentionsOf_unary (operator : UnaryOperator) (tokens : List Token) :
    mentionsOf (operator.tokens dialect tokens) = mentionsOf tokens := by
  cases operator with
  | negate =>
      rw [UnaryOperator.tokens]
      split <;> simp
  | bitNot | not | isNull | isNotNull => simp [UnaryOperator.tokens]

@[simp] theorem mentionsOf_chain (connective : Connective) (pieces : List (Bool × List Token)) :
    mentionsOf (connective.tokens pieces) = pieces.flatMap fun piece => mentionsOf piece.2 := by
  unfold Connective.tokens
  split
  · simp
  · simp [List.flatMap_map]

@[simp] theorem mentionsOf_membership (negated : Bool) (tested : List Token)
    (items : List (List Token)) :
    mentionsOf (membershipTokens negated tested items)
      = if items.isEmpty then [] else mentionsOf tested ++ items.flatMap mentionsOf := by
  unfold membershipTokens
  split <;> simp [Value.mentions]

@[simp] theorem mentionsOf_aliasedName (declared : String) (alias? : Option String) :
    mentionsOf (aliasedNameTokens declared alias?) = aliasedNameMentions declared alias? := by
  cases alias? <;> rfl

@[simp] theorem mentionsOf_columnList (columns : List String) :
    mentionsOf (columnListTokens columns) = columns.map .name := by
  simp [columnListTokens, List.flatMap_map, ← List.map_eq_flatMap]

@[simp] theorem mentionsOf_listClause (keyword : String) (pieces : List (List Token)) :
    mentionsOf (listClauseTokens keyword pieces) = pieces.flatMap mentionsOf := by
  cases pieces <;> simp [listClauseTokens]

@[simp] theorem mentionsOf_condition (keyword : String) (condition? : Option (List Token)) :
    mentionsOf (conditionTokens keyword condition?) = condition?.toList.flatMap mentionsOf := by
  cases condition? <;> simp [conditionTokens]

@[simp] theorem mentionsOf_assignments (assignments : List (String × List Token)) :
    mentionsOf (assignmentTokens assignments)
      = assignments.flatMap fun pair => .name pair.1 :: mentionsOf pair.2 := by
  simp [assignmentTokens, List.flatMap_map]

@[simp] theorem mentionsOf_inserted (assignments : List (String × List Token)) :
    mentionsOf (insertedTokens assignments)
      = assignments.map (fun pair => .name pair.1)
        ++ assignments.flatMap fun pair => mentionsOf pair.2 := by
  cases assignments with
  | nil => rfl
  | cons pair assignments =>
      simp [insertedTokens, List.flatMap_map]

@[simp] theorem mentionsOf_with (recursive : Bool) (definitions : List (List Token)) :
    mentionsOf (withTokens recursive definitions) = definitions.flatMap mentionsOf := by
  cases definitions <;> simp [withTokens]

end Tokens

/-! ## Mentions of trees -/

section Trees

variable (dialect : Dialect)

mutual

theorem Expr.mentionsOf_tokens : ∀ expr : Expr, mentionsOf (expr.tokens dialect) = expr.mentions
  | .column _ => rfl
  | .value value => mentionsOf_literal value
  | .parameter _ => rfl
  | .unary operator inner => by simp [Expr.tokens, Expr.mentions, Expr.mentionsOf_tokens inner]
  | .binary operator left right _ => by
      simp [Expr.tokens, Operator.tokens, Expr.mentions, Expr.mentionsOf_tokens left,
        Expr.mentionsOf_tokens right]
  | .concat left right => by
      simp [Expr.tokens, Dialect.concatTokens, Expr.mentions, Expr.mentionsOf_tokens left,
        Expr.mentionsOf_tokens right]
  | .chain connective operands => by
      simp [Expr.tokens, Expr.mentions, Expr.mentionsOf_activeTokens operands]
  | .within negated tested [] => rfl
  | .within negated tested (item :: items) => by
      simp [Expr.tokens, Expr.listTokens, Expr.mentions, Expr.listMentions,
        Expr.mentionsOf_tokens tested, Expr.mentionsOf_tokens item,
        Expr.mentionsOf_listTokens items]
  | .between tested low high => by
      simp [Expr.tokens, Expr.mentions, Expr.mentionsOf_tokens tested, Expr.mentionsOf_tokens low,
        Expr.mentionsOf_tokens high]
  | .cases branches otherwise _ => by
      simp [Expr.tokens, Expr.mentions, Expr.mentionsOf_branchTokens branches,
        Expr.mentionsOf_tokens otherwise]
  | .aggregate call none => rfl
  | .aggregate call (some argument) => by
      simp [Expr.tokens, AggregateCall.tokens, Expr.mentions, Expr.mentions?,
        Expr.mentionsOf_tokens argument]
  | .groupKey inner => by simp [Expr.tokens, Expr.mentions, Expr.mentionsOf_tokens inner]
  | .existsIn select => by simp [Expr.tokens, Expr.mentions, Select.mentionsOf_tokens select]
  | .subquery select => by simp [Expr.tokens, Expr.mentions, Select.mentionsOf_tokens select]

theorem Expr.mentionsOf_listTokens :
    ∀ exprs : List Expr,
      (Expr.listTokens dialect exprs).flatMap mentionsOf = Expr.listMentions exprs
  | [] => rfl
  | expr :: exprs => by
      simp [Expr.listTokens, Expr.listMentions, Expr.mentionsOf_tokens expr,
        Expr.mentionsOf_listTokens exprs]

theorem Expr.mentionsOf_rowTokens :
    ∀ rows : List (List Expr),
      (Expr.rowTokens dialect rows).flatMap mentionsOf = Expr.rowMentions rows
  | [] => rfl
  | row :: rows => by
      simp [Expr.rowTokens, Expr.rowMentions, Expr.mentionsOf_listTokens row,
        Expr.mentionsOf_rowTokens rows]

theorem Expr.mentionsOf_branchTokens :
    ∀ branches : List (Expr × Expr),
      mentionsOf (Expr.branchTokens dialect branches) = Expr.branchMentions branches
  | [] => rfl
  | (condition, result) :: branches => by
      simp [Expr.branchTokens, Expr.branchMentions, Expr.mentionsOf_tokens condition,
        Expr.mentionsOf_tokens result, Expr.mentionsOf_branchTokens branches]

theorem Expr.mentionsOf_activeTokens :
    ∀ entries : List (Entry Expr),
      (Expr.activeTokens dialect entries).flatMap (fun piece => mentionsOf piece.2)
        = Expr.activeMentions entries
  | [] => rfl
  | ⟨presence, expr⟩ :: entries => by
      rw [Expr.activeTokens, Expr.activeMentions]
      split <;> simp [Expr.mentionsOf_tokens expr, Expr.mentionsOf_activeTokens entries]

theorem Expr.mentionsOf_tokens? :
    ∀ expr? : Option Expr,
      (Expr.tokens? dialect expr?).toList.flatMap mentionsOf = Expr.mentions? expr?
  | none => rfl
  | some expr => by simp [Expr.tokens?, Expr.mentions?, Expr.mentionsOf_tokens expr]

theorem Expr.mentionsOf_entryTokens? :
    ∀ entry : Entry Expr,
      (Expr.entryTokens? dialect entry).toList.flatMap mentionsOf = Expr.entryMentions entry
  | ⟨presence, expr⟩ => by
      rw [Expr.entryTokens?, Expr.entryMentions]
      split <;> simp [Expr.mentionsOf_tokens expr]

theorem Expr.mentionsOf_optionEntryTokens? :
    ∀ entry? : Option (Entry Expr),
      (Expr.optionEntryTokens? dialect entry?).toList.flatMap mentionsOf
        = Expr.optionEntryMentions entry?
  | none => rfl
  | some entry => Expr.mentionsOf_entryTokens? entry

theorem Select.mentionsOf_tokens :
    ∀ select : Select, mentionsOf (select.tokens dialect) = select.mentions
  | ⟨clauses⟩ => Clause.mentionsOf_listTokens clauses

theorem SelectColumn.mentionsOf_tokens :
    ∀ column : SelectColumn, mentionsOf (column.tokens dialect) = column.mentions
  | ⟨expr, name, aliased⟩ => by
      cases aliased <;>
        simp [SelectColumn.tokens, SelectColumn.mentions, namedTokens, Expr.mentionsOf_tokens expr]

theorem SelectColumn.mentionsOf_listTokens :
    ∀ columns : List (Entry SelectColumn),
      (SelectColumn.listTokens dialect columns).flatMap mentionsOf
        = SelectColumn.listMentions columns
  | [] => rfl
  | ⟨presence, column⟩ :: columns => by
      have first := SelectColumn.mentionsOf_tokens column
      have rest := SelectColumn.mentionsOf_listTokens columns
      rw [SelectColumn.listTokens, SelectColumn.listMentions, List.flatMap_cons, rest]
      split
      · rw [first]
      · rfl

theorem Assignment.mentionsOf_valueTokens :
    ∀ assignment : Assignment,
      mentionsOf (assignment.valueTokens dialect) = assignment.valueMentions
  | ⟨_, none⟩ => rfl
  | ⟨_, some value⟩ => Expr.mentionsOf_tokens value

theorem Assignment.mentionsOf_activeTokens :
    ∀ assignments : List (Entry Assignment),
      (Assignment.activeTokens dialect assignments).map (fun pair => (pair.1, mentionsOf pair.2))
        = Assignment.activeMentions assignments
  | [] => rfl
  | ⟨presence, assignment⟩ :: assignments => by
      rw [Assignment.activeTokens, Assignment.activeMentions]
      split <;> simp [Assignment.mentionsOf_valueTokens assignment,
        Assignment.mentionsOf_activeTokens assignments]

theorem SortOrder.mentionsOf_activeTokens :
    ∀ orders : List (Entry SortOrder),
      (SortOrder.activeTokens dialect orders).flatMap mentionsOf = SortOrder.activeMentions orders
  | [] => rfl
  | ⟨presence, ⟨expr, direction, nulls?⟩⟩ :: orders => by
      rw [SortOrder.activeTokens, SortOrder.activeMentions]
      split <;> simp [SortOrder.tokens, sortTokens, Expr.mentionsOf_tokens expr,
        SortOrder.mentionsOf_activeTokens orders]

theorem InsertValues.mentionsOf_tokens :
    ∀ content : InsertValues, mentionsOf (content.tokens dialect) = content.mentions
  | .defaultValues => rfl
  | .set assignments => by
      simp [InsertValues.tokens, InsertValues.mentions,
        ← Assignment.mentionsOf_activeTokens assignments, List.flatMap_map, Function.comp_def]
  | .rows columns rows => by
      simp [InsertValues.tokens, InsertValues.mentions, Column.listMentions,
        Expr.mentionsOf_rowTokens rows]

theorem ConflictAction.mentionsOf_tokens :
    ∀ action : ConflictAction, mentionsOf (action.tokens dialect) = action.mentions
  | .doNothing => rfl
  | .doUpdate assignments condition? => by
      simp [ConflictAction.tokens, ConflictAction.mentions,
        ← Assignment.mentionsOf_activeTokens assignments, List.flatMap_map,
        Expr.mentionsOf_optionEntryTokens? condition?]

theorem Clause.mentionsOf_tokens :
    ∀ clause : Clause, mentionsOf (clause.tokens dialect) = clause.mentions
  | .with ctes => by simp [Clause.tokens, Clause.mentions, Cte.mentionsOf_activeTokens ctes]
  | .columns distinct columns => by
      simp [Clause.tokens, Clause.mentions, SelectColumn.mentionsOf_listTokens columns]
  | .target kind table => by simp [Clause.tokens, Clause.mentions, Table.tokens, Table.mentions]
  | .set assignments => by
      simp [Clause.tokens, Clause.mentions, ← Assignment.mentionsOf_activeTokens assignments,
        List.flatMap_map]
  | .values content => InsertValues.mentionsOf_tokens content
  | .source kind table => by simp [Clause.tokens, Clause.mentions, TableRef.mentionsOf_tokens table]
  | .where condition? => by
      simp [Clause.tokens, Clause.mentions, Expr.mentionsOf_optionEntryTokens? condition?]
  | .groupBy entries => by
      simp [Clause.tokens, Clause.mentions, List.flatMap_map, Expr.mentionsOf_activeTokens entries]
  | .having condition => by
      simp [Clause.tokens, Clause.mentions, Expr.mentionsOf_entryTokens? condition]
  | .union distinct ⟨presence, arm⟩ => by
      rw [Clause.tokens, Clause.mentions]
      split <;> simp [Dialect.unionTokens, Select.mentionsOf_tokens arm]
  | .orderBy orders => by
      simp [Clause.tokens, Clause.mentions, SortOrder.mentionsOf_activeTokens orders]
  | .limit kind count => by simp [Clause.tokens, Clause.mentions, Expr.mentionsOf_tokens count]
  | .onConflict [] action => by
      simp [Clause.tokens, Clause.mentions, Column.listMentions,
        ConflictAction.mentionsOf_tokens action]
  | .onConflict (column :: columns) action => by
      simp [Clause.tokens, Clause.mentions, Column.listMentions,
        ConflictAction.mentionsOf_tokens action]
  | .returning columns => by
      simp [Clause.tokens, Clause.mentions, SelectColumn.mentionsOf_listTokens columns]

theorem Clause.mentionsOf_listTokens :
    ∀ clauses : List Clause,
      mentionsOf (Clause.listTokens dialect clauses) = Clause.listMentions clauses
  | [] => rfl
  | clause :: clauses => by
      simp [Clause.listTokens, Clause.listMentions, Clause.mentionsOf_tokens clause,
        Clause.mentionsOf_listTokens clauses]

theorem TableRef.mentionsOf_tokens :
    ∀ table : TableRef, mentionsOf (table.tokens dialect) = table.mentions
  | .table table => by simp [TableRef.tokens, TableRef.mentions, Table.tokens, Table.mentions]
  | .cte reference => by
      simp [TableRef.tokens, TableRef.mentions, CteRef.tokens, CteRef.mentions]
  | .subSelect subSelect => SubSelect.mentionsOf_tokens subSelect
  | .join left kind ⟨presence, right⟩ condition? => by
      have first := TableRef.mentionsOf_tokens left
      have second := TableRef.mentionsOf_tokens right
      have condition := Expr.mentionsOf_tokens? condition?
      rw [TableRef.tokens, TableRef.mentions, mentionsOf_append, first]
      split <;> simp [JoinKind.tokens, second, condition]

theorem SubSelect.mentionsOf_tokens :
    ∀ subSelect : SubSelect, mentionsOf (subSelect.tokens dialect) = subSelect.mentions
  | ⟨select, name, fields⟩ => by
      simp [SubSelect.tokens, SubSelect.mentions, namedTokens, Select.mentionsOf_tokens select]

theorem Cte.mentionsOf_tokens : ∀ cte : Cte, mentionsOf (cte.tokens dialect) = cte.mentions
  | ⟨name, base, arms, fields⟩ => by
      simp [Cte.tokens, Cte.mentions, Select.mentionsOf_tokens base,
        CteArm.mentionsOf_activeTokens arms]

theorem Cte.mentionsOf_activeTokens :
    ∀ ctes : List (Entry Cte),
      (Cte.activeTokens dialect ctes).flatMap mentionsOf = Cte.activeMentions ctes
  | [] => rfl
  | ⟨presence, cte⟩ :: ctes => by
      rw [Cte.activeTokens, Cte.activeMentions]
      split <;> simp [Cte.mentionsOf_tokens cte, Cte.mentionsOf_activeTokens ctes]

theorem CteArm.mentionsOf_activeTokens :
    ∀ arms : List CteArm,
      mentionsOf (CteArm.activeTokens dialect arms) = CteArm.activeMentions arms
  | [] => rfl
  | ⟨distinct, ⟨presence, select⟩, readsSelf⟩ :: arms => by
      rw [CteArm.activeTokens, CteArm.activeMentions]
      split <;> simp [Dialect.unionTokens, Select.mentionsOf_tokens select,
        CteArm.mentionsOf_activeTokens arms]

end

theorem Statement.mentionsOf_tokens (statement : Statement) :
    mentionsOf (statement.tokens dialect) = statement.mentions :=
  Clause.mentionsOf_listTokens dialect statement.clauses

end Trees

end CheckedSql
