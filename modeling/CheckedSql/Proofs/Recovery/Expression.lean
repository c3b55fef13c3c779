import CheckedSql.Proofs.Built.Typed
import CheckedSql.Proofs.Recovery.Shape

/-!
# Expressions are recovered from their texts

A reader finds the active form of a built expression in what is written of it, on its own and
as an operand (`Expr.isRead`).  So two built expressions that are written with the same text
have the same active form (`Expr.form_eq_of_write`): parentheses and keywords show how
operators nest, which operands a chain has, and where the parts of a `CASE`, of a list and of
a range are.

The proof goes down to the parts that are written.  What is compound is read between
parentheses, and the other shapes are opened by a text of their own, or they are names, values
and placeholders.
-/

namespace CheckedSql

section Expressions

variable {dialect : Dialect}

theorem pieces_parenthesized (tokens : List Token) :
    dialect.pieces (Token.parenthesized tokens)
      = textPieces "(" ++ (dialect.pieces tokens ++ textPieces ")") := by
  simp [Token.parenthesized, Token.pieces]

/-- What starts with the text of an expression starts an expression. -/
theorem startsExpression_text {text : String} (starts : startsExpression (textPieces text) = true)
    (tokens : List Token) : startsExpression (dialect.pieces (.text text :: tokens)) = true :=
  startsExpression_append starts _

/-- The expression is read as its active form, on its own and as an operand. -/
structure Expr.IsRead (dialect : Dialect) (expr : Expr) : Prop where
  starts : startsExpression (dialect.pieces (expr.tokens dialect)) = true
  operand : OperandReads dialect
    (dialect.pieces (Token.operand expr.isCompound (expr.tokens dialect))) (expr.form dialect)
  whole : WholeReads dialect (dialect.pieces (expr.tokens dialect)) (expr.form dialect)

namespace Expr.IsRead

variable {expr : Expr}

theorem starts_operand (isRead : expr.IsRead dialect) :
    startsExpression (dialect.pieces (Token.operand expr.isCompound (expr.tokens dialect)))
      = true := by
  cases expr.isCompound with
  | false => exact isRead.starts
  | true =>
      rw [Token.operand, if_pos rfl, pieces_parenthesized]
      exact startsExpression_append (by decide) _

/-- A compound is read between parentheses. -/
theorem of_whole (compound : expr.isCompound = true)
    (starts : startsExpression (dialect.pieces (expr.tokens dialect)) = true)
    (whole : WholeReads dialect (dialect.pieces (expr.tokens dialect)) (expr.form dialect)) :
    expr.IsRead dialect := by
  refine ⟨starts, ?_, whole⟩
  rw [compound, Token.operand, if_pos rfl, pieces_parenthesized]
  exact whole.grouped starts

/-- What is read as an operand is read as a whole. -/
theorem of_operand (starts : startsExpression (dialect.pieces (expr.tokens dialect)) = true)
    (reads : OperandReads dialect (dialect.pieces (expr.tokens dialect)) (expr.form dialect)) :
    expr.IsRead dialect := by
  cases compound : expr.isCompound with
  | true => exact .of_whole compound starts reads.whole
  | false =>
      refine ⟨starts, ?_, reads.whole⟩
      rw [compound]
      exact reads

end Expr.IsRead

/-! ## Leaves -/

theorem startsExpression_namePiece (name : String) (rest : List Lexeme) :
    startsExpression (dialect.namePiece name :: rest) = true := by
  unfold Dialect.namePiece
  split
  · rfl
  · next bare =>
      have notReserved := (identifier?_of_bare (Bool.not_eq_true _ ▸ bare)).2
      have differs (word : String) (reserved : isReservedWord word = true) : name ≠ word := by
        rintro rfl
        exact Bool.false_ne_true (notReserved.symm.trans reserved)
      simp [startsExpression, differs "SELECT" (by decide), differs "WITH" (by decide),
        differs "DISTINCT" (by decide)]

theorem PositivePieces.startsExpression {found : List Lexeme} (pieces : PositivePieces found) :
    startsExpression found = true := by
  obtain ⟨text, others, rfl, digit⟩ := pieces.starts
  have differs (word : String) (noDigit : word.toList.head?.any Char.isDigit = false) :
      text ≠ word := by
    rintro rfl
    exact Bool.false_ne_true (noDigit.symm.trans digit)
  simp [CheckedSql.startsExpression, differs "SELECT" rfl, differs "WITH" rfl,
    differs "DISTINCT" rfl]

theorem LiteralPieces.startsExpression {found : List Lexeme} (pieces : LiteralPieces found) :
    startsExpression found = true := by
  cases pieces with
  | word mem =>
      simp only [List.mem_cons, List.not_mem_nil, or_false] at mem
      rcases mem with rfl | rfl | rfl <;> rfl
  | number number =>
      cases number with
      | positive positive => exact positive.startsExpression
      | negative positive => rfl
  | @quoted before behind content mem =>
      simp only [literalFramePieces, List.mem_cons, Prod.mk.injEq, List.not_mem_nil,
        or_false] at mem
      rcases mem with ⟨rfl, rfl⟩ | ⟨rfl, rfl⟩ | ⟨rfl, rfl⟩ | ⟨rfl, rfl⟩ | ⟨rfl, rfl⟩ | ⟨rfl, rfl⟩
        <;> rfl

/-- What is read with any bound of 2 or more is read as an operand. -/
theorem operandReads_of_leaf {found : List Lexeme} {form : Form} (nonempty : found ≠ [])
    (reads : ∀ rest bound, Follows rest →
      readOperand dialect (bound + 2) (found ++ rest) = some (form, rest)) :
    OperandReads dialect found form := by
  intro rest bound follows fits
  have positive := List.length_pos_iff.2 nonempty
  rw [List.length_append] at fits
  obtain ⟨more, rfl⟩ := Nat.exists_eq_add_of_le' (show 2 ≤ bound by omega)
  exact reads rest more follows

theorem operandReads_literal {value : Value} {content : String}
    (written : dialect.literal value = .ok content) :
    startsExpression (dialect.pieces [.literal value]) = true
      ∧ OperandReads dialect (dialect.pieces [.literal value]) (.literal content) := by
  have pieces : dialect.pieces [.literal value] = (Token.literal value).pieces dialect := by simp
  have starts := (Token.pieces_literal written).2.startsExpression
  rw [pieces]
  refine ⟨starts, operandReads_of_leaf ?_ fun rest bound follows =>
    readOperand_literal dialect written follows bound⟩
  rintro none
  rw [none] at starts
  cases starts

namespace Expr.IsRead

theorem column (column : Column) : (Expr.column column).IsRead dialect :=
  .of_operand (startsExpression_namePiece column.qualifier _)
    (operandReads_of_leaf (List.cons_ne_nil _ _) fun _ bound follows =>
      readOperand_column dialect column follows (bound + 1))

theorem value {value : Value} {content : String} (written : dialect.literal value = .ok content) :
    (Expr.value value).IsRead dialect := by
  obtain ⟨starts, reads⟩ := operandReads_literal written
  have form : (Expr.value value).form dialect = .literal content := by
    rw [Expr.form, Dialect.valueText, written]
    rfl
  exact .of_operand starts (form ▸ reads)

theorem parameter (parameter : Parameter) : (Expr.parameter parameter).IsRead dialect :=
  .of_operand rfl (operandReads_of_leaf (List.cons_ne_nil _ _) fun _ bound follows =>
    readOperand_placeholder dialect follows (bound + 1))

/-! ## Operators -/

variable {first second third : Expr}

/-- What starts with an operand starts an expression. -/
theorem starts_append (first_read : first.IsRead dialect) (tokens : List Token) :
    startsExpression (dialect.pieces
      (Token.operand first.isCompound (first.tokens dialect) ++ tokens)) = true := by
  rw [Dialect.pieces_append]
  exact startsExpression_append first_read.starts_operand _

/-- A sign or a word in front of an operand. -/
theorem unary_opened {operator : UnaryOperator} {text : String} (inner : first.IsRead dialect)
    (mem : (text, Opening.unary operator) ∈ openings)
    (starts : startsExpression (textPieces text) = true)
    (written : ∀ operand, operator.tokens dialect operand = .text text :: operand
      ∨ operator.tokens dialect operand = .text text :: Token.parenthesized operand) :
    (Expr.unary operator first).IsRead dialect := by
  refine .of_operand ?_ ?_ <;> rw [Expr.tokens] <;> rcases written _ with same | same <;> rw [same]
  · exact startsExpression_text starts _
  · exact startsExpression_text starts _
  · exact .unary mem inner.operand
  · rw [Dialect.pieces_cons, pieces_parenthesized]
    exact .unary mem (inner.operand.whole.grouped inner.starts_operand)

/-- A test for NULL behind an operand. -/
theorem unary_continued {operator : UnaryOperator} {text : String} (inner : first.IsRead dialect)
    (mem : (text, Continuation.unary operator) ∈ continuations)
    (written : ∀ operand, operator.tokens dialect operand = operand ++ [Token.text text]) :
    (Expr.unary operator first).IsRead dialect := by
  refine .of_whole rfl ?_ ?_ <;> rw [Expr.tokens, written]
  · exact inner.starts_append _
  · rw [Dialect.pieces_append, Dialect.pieces_cons, Dialect.pieces_nil, List.append_nil]
    exact .unary mem inner.operand

theorem unary (operator : UnaryOperator) (inner : first.IsRead dialect) :
    (Expr.unary operator first).IsRead dialect := by
  cases operator with
  | negate =>
      refine inner.unary_opened (.head _) (by decide) fun operand => ?_
      rw [UnaryOperator.tokens]
      split
      · exact .inr rfl
      · exact .inl rfl
  | bitNot => exact inner.unary_opened (.tail _ (.head _)) (by decide) fun _ => .inl rfl
  | not => exact inner.unary_opened (.tail _ (.tail _ (.head _))) (by decide) fun _ => .inl rfl
  | isNull => exact inner.unary_continued (.head _) fun _ => rfl
  | isNotNull => exact inner.unary_continued (.tail _ (.head _)) fun _ => rfl

theorem binary {operator : Operator} (noChain : operator.connective? = none) (type : ValueType)
    (left : first.IsRead dialect) (right : second.IsRead dialect) :
    (Expr.binary operator first second type).IsRead dialect := by
  refine .of_whole rfl (left.starts_append _) ?_
  rw [Expr.tokens, Operator.tokens, Dialect.pieces_append]
  exact .binary (mem_continuations_binary noChain) left.operand right.operand

/-- Texts are joined by an operator or by a function. -/
theorem concat (left : first.IsRead dialect) (right : second.IsRead dialect) :
    (Expr.concat first second).IsRead dialect := by
  have frame : dialect.concatFrame = ("", " || ", "")
      ∨ dialect.concatFrame = ("CONCAT(", ", ", ")") := by
    cases dialect <;> simp [Dialect.concatFrame]
  have noText : textPieces "" = [] := by decide
  rcases frame with joined | called
  · refine .of_whole rfl ?_ ?_ <;> simp only [Expr.tokens, Dialect.concatTokens, joined,
      Dialect.pieces_cons, Dialect.pieces_append, Token.pieces, noText, List.nil_append,
      Dialect.pieces_nil, List.append_nil]
    · exact startsExpression_append left.starts_operand _
    · exact .concat left.operand right.operand
  · refine .of_operand ?_ ?_ <;> simp only [Expr.tokens, Dialect.concatTokens, called,
      Dialect.pieces_cons, Dialect.pieces_append, Token.pieces, Dialect.pieces_nil,
      List.append_nil]
    · exact startsExpression_append (by decide) _
    · exact .concat left.operand right.operand

theorem between (tested : first.IsRead dialect) (low : second.IsRead dialect)
    (high : third.IsRead dialect) : (Expr.between first second third).IsRead dialect := by
  refine .of_whole rfl (tested.starts_append _) ?_
  rw [Expr.tokens, Dialect.pieces_append, Dialect.pieces_cons, Dialect.pieces_append]
  exact .between tested.operand low.operand high.operand

/-! ## Lists -/

/-- Inactive operands of a chain leave nothing behind. -/
theorem chain {connective : Connective} {operands : List (Entry Expr)}
    (someActive : activeValues operands ≠ [])
    (parts : ∀ operand ∈ activeValues operands, operand.IsRead dialect) :
    (Expr.chain connective operands).IsRead dialect := by
  cases active : activeValues operands with
  | nil => exact absurd active someActive
  | cons first others =>
      rw [active] at parts
      obtain ⟨firstRead, othersRead⟩ := List.forall_mem_cons.1 parts
      cases others with
      | nil =>
          have tokens : (Expr.chain connective operands).tokens dialect = first.tokens dialect := by
            rw [Expr.tokens, Expr.activeTokens_eq, active]
            rfl
          have form : (Expr.chain connective operands).form dialect = first.form dialect := by
            rw [Expr.form, Expr.activeForms_eq, active]
            rfl
          refine .of_whole rfl ?_ ?_ <;> rw [tokens]
          · exact firstRead.starts
          · rw [form]
            exact firstRead.whole
      | cons second others =>
          have form : (Expr.chain connective operands).form dialect
              = .chain connective (first.form dialect
                :: (second :: others).map (Expr.form dialect)) := by
            rw [Expr.form, Expr.activeForms_eq, active]
            rfl
          have tokens : (Expr.chain connective operands).tokens dialect
              = Token.operand first.isCompound (first.tokens dialect)
                ++ .text (" " ++ connective.operator.symbol ++ " ")
                :: Token.separatedBy (" " ++ connective.operator.symbol ++ " ")
                  ((second :: others).map fun operand =>
                    Token.operand operand.isCompound (operand.tokens dialect)) := by
            rw [Expr.tokens, Expr.activeTokens_eq, active]
            simp [Connective.tokens, Token.separatedBy, Function.comp_def]
          refine .of_whole rfl ?_ ?_ <;> rw [tokens]
          · exact firstRead.starts_append _
          · rw [form, Dialect.pieces_append]
            exact .chain connective (List.cons_ne_nil _ _) firstRead.operand
              fun operand mem => (othersRead operand mem).operand

/-- Nothing is in an empty list. -/
theorem within_nil (negated : Bool) (tested : Expr) :
    (Expr.within negated tested []).IsRead dialect := by
  have written : dialect.literal (.bool negated) = .ok (dialect.booleanLiteral negated) := rfl
  obtain ⟨starts, reads⟩ := operandReads_literal written
  have form : (Expr.within negated tested []).form dialect
      = .literal (dialect.booleanLiteral negated) := by
    rw [Expr.form]
    rfl
  exact .of_operand starts (form ▸ reads)

theorem within {items : List Expr} (negated : Bool) (isSome : items ≠ [])
    (tested : first.IsRead dialect) (parts : ∀ item ∈ items, item.IsRead dialect) :
    (Expr.within negated first items).IsRead dialect := by
  have notEmpty : items.isEmpty = false := List.isEmpty_eq_false_iff.2 isSome
  have tokens : (Expr.within negated first items).tokens dialect
      = Token.operand first.isCompound (first.tokens dialect)
        ++ .text (if negated then " NOT IN (" else " IN (")
        :: (Token.withCommas (items.map (Expr.tokens dialect)) ++ [.text ")"]) := by
    simp [Expr.tokens, membershipTokens, Expr.listTokens_eq, isSome]
  have form : (Expr.within negated first items).form dialect
      = .within negated (first.form dialect) (items.map (Expr.form dialect)) := by
    simp [Expr.form, notEmpty, Expr.listForms_eq]
  refine .of_whole rfl ?_ ?_ <;> rw [tokens]
  · exact tested.starts_append _
  · have whole : WholeReads dialect _ _ := .within negated isSome tested.operand
      fun item mem => (parts item mem).whole
    simpa [form, Token.pieces] using whole

/-! ## Shapes with a text in front -/

theorem cases {branches : List (Expr × Expr)} (type : ValueType)
    (parts : ∀ branch ∈ branches, branch.1.IsRead dialect ∧ branch.2.IsRead dialect)
    (otherwise : first.IsRead dialect) : (Expr.cases branches first type).IsRead dialect := by
  refine .of_operand ?_ ?_ <;> rw [Expr.tokens]
  · exact startsExpression_text (by decide) _
  · have reads : OperandReads dialect _ _ := .cases
      (fun branch mem => ⟨(parts branch mem).1.whole, (parts branch mem).2.whole⟩) otherwise.whole
    simpa [Expr.form, Token.pieces] using reads

theorem aggregate_starts (call : AggregateCall) (argument : List Token) :
    startsExpression (dialect.pieces (call.tokens argument)) = true := by
  have keyword : startsExpression (textPieces (call.function.keyword ++ "(")) = true := by
    cases call.function <;> decide
  rw [pieces_call]
  exact startsExpression_append keyword _

/-- All rows are counted. -/
theorem countAll (call : AggregateCall) : (Expr.aggregate call none).IsRead dialect := by
  refine .of_operand (aggregate_starts call _) ?_
  have star : dialect.pieces [.text "*"] = textPieces "*" := by simp [Token.pieces]
  exact .aggregate call (star ▸ .star dialect)

theorem aggregate (call : AggregateCall) (argument : first.IsRead dialect) :
    (Expr.aggregate call (some first)).IsRead dialect :=
  .of_operand (aggregate_starts call _) (.aggregate call (.whole argument.whole argument.starts))

/-- Nothing shows that an expression is declared as a `GROUP BY` entry. -/
theorem groupKey (inner : first.IsRead dialect) : (Expr.groupKey first).IsRead dialect where
  starts := inner.starts
  operand := inner.operand
  whole := inner.whole

variable {select : Select}

theorem existsIn (built : (Part.select select).Built)
    (canWrite : dialect.CanWrite (select.tokens dialect)) :
    (Expr.existsIn select).IsRead dialect := by
  have opening : textPieces "EXISTS (" = textPieces "EXISTS " ++ textPieces "(" := by decide
  refine .of_operand ?_ ?_ <;> rw [Expr.tokens]
  · exact startsExpression_text (by decide) _
  · have reads := OperandReads.existsIn built canWrite
    rw [opening, List.append_assoc] at reads
    rw [Dialect.pieces_cons, pieces_parenthesized]
    exact reads

theorem subquery (built : (Part.select select).Built)
    (canWrite : dialect.CanWrite (select.tokens dialect)) :
    (Expr.subquery select).IsRead dialect := by
  refine .of_operand ?_ ?_ <;> rw [Expr.tokens]
  · exact startsExpression_text (by decide) _
  · rw [pieces_parenthesized]
    exact .subquery built canWrite

end Expr.IsRead

/-! ## Built expressions -/

/-- An expression is read if its written parts are. -/
theorem Expr.isRead_of_written {expr : Expr} (built : (Part.expr expr).Built)
    (canWrite : dialect.CanWrite (expr.tokens dialect))
    (parts : ∀ child, Part.expr child ∈ expr.written → child.IsRead dialect) :
    expr.IsRead dialect := by
  have typed := isTyped_of_built built
  have nested {select : Select} (mem : Part.select select ∈ expr.written) :
      (Expr.existsIn select).IsRead dialect ∧ (Expr.subquery select).IsRead dialect := by
    have selectBuilt : (Part.select select).Built :=
      built.of_mem_children (expr.written_sublist.subset mem)
    have partWrite : dialect.CanWrite ((Part.expr expr).tokens dialect) := canWrite
    have selectWrite : dialect.CanWrite (select.tokens dialect) := by
      have nestedWrite := Part.canWrite_of_mem_written partWrite mem
      cases select
      exact nestedWrite
    exact ⟨.existsIn selectBuilt selectWrite, .subquery selectBuilt selectWrite⟩
  cases expr with
  | column column => exact .column column
  | value value =>
      obtain ⟨content, written⟩ := canWrite value (.head _)
      exact .value written
  | parameter parameter => exact .parameter parameter
  | unary operator operand => exact .unary operator (parts _ (.head _))
  | binary operator left right type =>
      exact .binary typed.1 type (parts _ (.head _)) (parts _ (.tail _ (.head _)))
  | concat left right => exact .concat (parts _ (.head _)) (parts _ (.tail _ (.head _)))
  | chain connective operands =>
      exact .chain (activeValues_ne_nil_of_isTyped typed) fun operand mem =>
        parts _ (List.mem_map_of_mem mem)
  | within negated tested items =>
      cases items with
      | nil => exact .within_nil negated tested
      | cons item items =>
          exact .within negated (List.cons_ne_nil _ _) (parts _ (.head _)) fun other mem =>
            parts _ (List.mem_append_left _ (.tail _ (List.mem_map_of_mem mem)))
  | between tested low high =>
      exact .between (parts _ (.head _)) (parts _ (.tail _ (.head _)))
        (parts _ (.tail _ (.tail _ (.head _))))
  | cases branches otherwise type =>
      have inner {child : Expr} (mem : child ∈ (Expr.cases branches otherwise type).children) :
          child.IsRead dialect :=
        parts _ (List.mem_append_left _ (List.mem_map_of_mem mem))
      refine .cases type (fun branch mem => ?_) (inner (List.mem_append_right _ (.head _)))
      have both : ∀ child ∈ [branch.1, branch.2],
          child ∈ (Expr.cases branches otherwise type).children := fun child childMem =>
        List.mem_append_left _ (List.mem_flatMap.2 ⟨branch, mem, childMem⟩)
      exact ⟨inner (both _ (.head _)), inner (both _ (.tail _ (.head _)))⟩
  | aggregate call argument? =>
      cases argument? with
      | none => exact .countAll call
      | some argument => exact .aggregate call (parts _ (.head _))
  | groupKey inner => exact .groupKey (parts _ (.head _))
  | existsIn select => exact (nested (.head _)).1
  | subquery select => exact (nested (.head _)).2

/-- A built expression that can be written is read as its active form. -/
theorem Expr.isRead {expr : Expr} (built : (Part.expr expr).Built)
    (canWrite : dialect.CanWrite (expr.tokens dialect)) : expr.IsRead dialect := by
  suffices reads : ∀ part : Part, part.Built → dialect.CanWrite (part.tokens dialect) →
      ∀ expr, part = .expr expr → expr.IsRead dialect from reads _ built canWrite expr rfl
  intro part
  induction part using Part.induction with
  | step part ih =>
      rintro built canWrite expr rfl
      refine isRead_of_written built canWrite fun child mem => ?_
      have isChild : Part.expr child ∈ (Part.expr expr).children :=
        expr.written_sublist.subset mem
      exact ih _ isChild (built.of_mem_children isChild)
        (Part.canWrite_of_mem_written canWrite mem) child rfl

/-- Built expressions that are written with the same text have the same active form. -/
theorem Expr.form_eq_of_write {first second : Expr} (firstBuilt : (Part.expr first).Built)
    (secondBuilt : (Part.expr second).Built) {sql : String}
    (firstWritten : dialect.write (first.tokens dialect) = .ok sql)
    (secondWritten : dialect.write (second.tokens dialect) = .ok sql) :
    first.form dialect = second.form dialect := by
  have firstPhrase : Phrase dialect .expression (first.tokens dialect) := firstBuilt.phrase
  have secondPhrase : Phrase dialect .expression (second.tokens dialect) := secondBuilt.phrase
  have pieces : dialect.pieces (first.tokens dialect) = dialect.pieces (second.tokens dialect) :=
    Option.some.inj ((firstPhrase.scan_writeFrom firstWritten).symm.trans
      (secondPhrase.scan_writeFrom secondWritten))
  have firstRead := (isRead firstBuilt (Dialect.canWrite_of_writeFrom firstWritten)).whole
  have secondRead := (isRead secondBuilt (Dialect.canWrite_of_writeFrom secondWritten)).whole
  rw [← pieces] at secondRead
  -- Both are read from the same pieces, with nothing behind them and the same bound.
  have firstForm := firstRead [] _ (.inl rfl) (Nat.lt_succ_self _)
  have secondForm := secondRead [] _ (.inl rfl) (Nat.lt_succ_self _)
  exact congrArg Prod.fst (Option.some.inj (firstForm.symm.trans secondForm))

/-- A number with a sign is written like the negated number without it. -/
theorem Expr.form_negated_five :
    (Part.expr (.value (.int (-5)))).Built ∧ (Part.expr (.unary .negate (.value (.int 5)))).Built
      ∧ Dialect.postgres.write (Expr.tokens .postgres (.value (.int (-5)))) = .ok "-5"
      ∧ Dialect.postgres.write (Expr.tokens .postgres (.unary .negate (.value (.int 5)))) = .ok "-5"
      ∧ Expr.form .postgres (.value (.int (-5)))
        = Expr.form .postgres (.unary .negate (.value (.int 5))) := by
  have signedBuilt : (Part.expr (.value (.int (-5)))).Built := .made (.value _) nofun
  have unsignedBuilt : (Part.expr (.value (.int 5))).Built := .made (.value _) nofun
  have negated : mkUnary .negate (.value (.int 5)) = .ok (.unary .negate (.value (.int 5))) := rfl
  have negatedBuilt : (Part.expr (.unary .negate (.value (.int 5)))).Built :=
    .made (.unary negated) (List.forall_mem_singleton.2 unsignedBuilt)
  have signedWritten : Dialect.postgres.write (Expr.tokens .postgres (.value (.int (-5))))
      = .ok "-5" := by rfl
  have negatedWritten : Dialect.postgres.write
      (Expr.tokens .postgres (.unary .negate (.value (.int 5)))) = .ok "-5" := by rfl
  exact ⟨signedBuilt, negatedBuilt, signedWritten, negatedWritten,
    form_eq_of_write signedBuilt negatedBuilt signedWritten negatedWritten⟩

end Expressions

end CheckedSql
