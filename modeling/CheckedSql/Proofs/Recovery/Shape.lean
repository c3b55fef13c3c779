import CheckedSql.Proofs.Recovery.Nested

/-!
# Reading shapes of expressions

`OperandReads` and `WholeReads` say that a reader finds a form in some pieces, whatever stands
behind them, if an operand or an expression may end there, and if the bound of the reader is
large enough.  There is one lemma for each shape of an expression.  What is opened is read as
an operand (`OperandReads.opened`), what goes on behind its first operand is read as a whole
(`WholeReads.continued`), and either may stand between parentheses (`WholeReads.grouped`).
-/

namespace CheckedSql

section Shapes

variable {dialect : Dialect} {found first second third : List Lexeme}
  {form firstForm secondForm thirdForm : Form}

/-- Whether the pieces may be those of an expression.  A select starts with a word of its own, and
what stands for all rows in an aggregate function is no expression. -/
def startsExpression (found : List Lexeme) : Bool :=
  found.head?.any fun lexeme =>
    !List.contains [.symbol '*', .word "SELECT", .word "WITH", .word "DISTINCT"] lexeme

/-- The pieces are read as an operand. -/
def OperandReads (dialect : Dialect) (found : List Lexeme) (form : Form) : Prop :=
  ∀ rest bound, Follows rest → 2 * (found ++ rest).length ≤ bound →
    readOperand dialect bound (found ++ rest) = some (form, rest)

/-- The pieces are read as a whole expression. -/
def WholeReads (dialect : Dialect) (found : List Lexeme) (form : Form) : Prop :=
  ∀ rest bound, Ends rest → 2 * (found ++ rest).length < bound →
    readWhole dialect bound (found ++ rest) = some (form, rest)

/-! ## Starts of expressions -/

theorem startsExpression_append (starts : startsExpression first = true) (second : List Lexeme) :
    startsExpression (first ++ second) = true := by
  obtain ⟨lexeme, isFirst, isStart⟩ := (Option.any_eq_true _ _).1 starts
  rw [startsExpression, List.head?_append, isFirst]
  exact isStart

/-- An expression does not start with a piece that something else starts with. -/
theorem behind?_of_startsExpression (starts : startsExpression found = true) {key : List Lexeme}
    (other : startsExpression key = false) (nonempty : key ≠ []) (rest : List Lexeme) :
    behind? key (found ++ rest) = none := by
  refine behind?_eq_none.2 fun isPrefix => Bool.false_ne_true (other.symm.trans ?_)
  obtain ⟨more, same⟩ := isPrefix
  have starts := startsExpression_append starts rest
  rw [← same, startsExpression] at starts
  cases key with
  | nil => exact absurd rfl nonempty
  | cons lexeme key => exact starts

theorem startsSelect_of_startsExpression (starts : startsExpression found = true)
    (rest : List Lexeme) : startsSelect (found ++ rest) = false := by
  obtain ⟨lexeme, isFirst, isStart⟩ := (Option.any_eq_true _ _).1 starts
  rw [startsSelect, List.head?_append, isFirst, Option.some_or, Option.any_some]
  simp only [List.contains_cons, List.contains_nil, Bool.or_false, Bool.not_eq_true',
    Bool.or_eq_false_iff] at isStart ⊢
  exact ⟨isStart.2.1, isStart.2.2.1⟩

/-! ## Operands and whole expressions -/

/-- An operand that nothing goes on with is a whole expression. -/
theorem OperandReads.whole (reads : OperandReads dialect found form) :
    WholeReads dialect found form := by
  intro rest bound ends fits
  cases bound with
  | zero => cases fits
  | succ bound =>
      have operand := reads rest bound (.inl ends) (Nat.le_of_lt_succ fits)
      simp only [readWhole, operand, ends.lookup?_eq_none, Option.bind_eq_bind, Option.bind_some]

/-- What a text opens is read as an operand. -/
theorem OperandReads.opened {text : String} {opening : Opening} (mem : (text, opening) ∈ openings)
    (reads : ∀ rest bound, Follows rest → 2 * (found ++ rest).length < bound →
      opening.read dialect (readOperand dialect bound) (readWhole dialect bound) (found ++ rest)
        = some (form, rest)) :
    OperandReads dialect (textPieces text ++ found) form := by
  intro rest bound follows fits
  have positive : 0 < (textPieces text).length := length_pos_of_mem_openings mem
  simp only [List.append_assoc, List.length_append] at fits ⊢
  cases bound with
  | zero => omega
  | succ bound =>
      rw [readOperand, lookup?_append openings_distinct mem]
      refine reads rest bound follows ?_
      rw [List.length_append]
      omega

/-- An expression goes on behind its first operand. -/
theorem WholeReads.continued {text : String} {continuation : Continuation}
    (mem : (text, continuation) ∈ continuations) (firstReads : OperandReads dialect first firstForm)
    (reads : ∀ rest bound, Ends rest → 2 * (found ++ rest).length < bound →
      continuation.read (readOperand dialect bound) (readWhole dialect bound) firstForm
        (found ++ rest) = some (form, rest)) :
    WholeReads dialect (first ++ (textPieces text ++ found)) form := by
  intro rest bound ends fits
  have positive : 0 < (textPieces text).length := length_pos_of_mem_continuations mem
  simp only [List.append_assoc, List.length_append] at fits ⊢
  cases bound with
  | zero => cases fits
  | succ bound =>
      have operand := firstReads _ bound (follows_append mem (found ++ rest)) (by
        simp only [List.length_append]
        omega)
      have behind := reads rest bound ends (by
        rw [List.length_append]
        omega)
      simp only [readWhole, operand, lookup?_append continuations_distinct mem, behind,
        Option.bind_eq_bind, Option.bind_some]

/-- An expression between parentheses is an operand. -/
theorem WholeReads.grouped (reads : WholeReads dialect found form)
    (starts : startsExpression found = true) :
    OperandReads dialect (textPieces "(" ++ (found ++ textPieces ")")) form := by
  have mem : ("(", Opening.group) ∈ openings := by simp [openings]
  refine .opened mem fun rest bound _ fits => ?_
  have stop : ")" ∈ stops := by simp [stops]
  have inner := reads _ bound (ends_append stop rest) (by rwa [← List.append_assoc])
  rw [List.append_assoc, Opening.read, startsSelect_of_startsExpression starts]
  simp only [inner, behind?_append, Bool.false_eq_true, if_false, Option.bind_eq_bind,
    Option.bind_some]

/-! ## Operators -/

/-- An operator in front of an operand. -/
theorem OperandReads.unary {text : String} {operator : UnaryOperator}
    (mem : (text, .unary operator) ∈ openings) (reads : OperandReads dialect found form) :
    OperandReads dialect (textPieces text ++ found) (operator.form form) := by
  refine .opened mem fun rest bound follows fits => ?_
  simp only [Opening.read, reads rest bound follows (Nat.le_of_lt fits),
    Option.bind_eq_bind, Option.bind_some]

/-- A test for NULL behind an operand. -/
theorem WholeReads.unary {text : String} {operator : UnaryOperator}
    (mem : (text, .unary operator) ∈ continuations) (reads : OperandReads dialect found form) :
    WholeReads dialect (found ++ textPieces text) (operator.form form) := by
  have whole : WholeReads dialect (found ++ (textPieces text ++ [])) (operator.form form) :=
    .continued mem reads fun rest bound _ _ => rfl
  rwa [List.append_nil] at whole

/-- An operator between two operands. -/
theorem WholeReads.binary {text : String} {operator : Operator}
    (mem : (text, .binary operator) ∈ continuations)
    (firstReads : OperandReads dialect first firstForm)
    (secondReads : OperandReads dialect second secondForm) :
    WholeReads dialect (first ++ (textPieces text ++ second))
      (.binary operator firstForm secondForm) := by
  refine .continued mem firstReads fun rest bound ends fits => ?_
  simp only [Continuation.read, secondReads rest bound (.inl ends) (Nat.le_of_lt fits),
    Option.bind_eq_bind, Option.bind_some]

/-- Two texts that are joined by a function. -/
theorem OperandReads.concat (firstReads : OperandReads dialect first firstForm)
    (secondReads : OperandReads dialect second secondForm) :
    OperandReads dialect
      (textPieces "CONCAT(" ++ (first ++ (textPieces ", " ++ (second ++ textPieces ")"))))
      (.concat firstForm secondForm) := by
  have mem : ("CONCAT(", Opening.concat) ∈ openings := by simp [openings]
  have comma : ", " ∈ stops := by simp [stops]
  have closing : ")" ∈ stops := by simp [stops]
  refine .opened mem fun rest bound _ fits => ?_
  simp only [List.append_assoc, List.length_append] at fits ⊢
  have left := firstReads _ bound
    (.inl (ends_append comma (second ++ (textPieces ")" ++ rest)))) (by
      simp only [List.length_append]
      omega)
  have right := secondReads _ bound (.inl (ends_append closing rest)) (by
    simp only [List.length_append]
    omega)
  simp only [Opening.read, left, right, behind?_append, Option.bind_eq_bind, Option.bind_some]

/-- Two texts that are joined by an operator. -/
theorem WholeReads.concat (firstReads : OperandReads dialect first firstForm)
    (secondReads : OperandReads dialect second secondForm) :
    WholeReads dialect (first ++ (textPieces " || " ++ second)) (.concat firstForm secondForm) := by
  have mem : (" || ", Continuation.concat) ∈ continuations := by simp [continuations]
  refine .continued mem firstReads fun rest bound ends fits => ?_
  simp only [Continuation.read, secondReads rest bound (.inl ends) (Nat.le_of_lt fits),
    Option.bind_eq_bind, Option.bind_some]

theorem WholeReads.between (firstReads : OperandReads dialect first firstForm)
    (secondReads : OperandReads dialect second secondForm)
    (thirdReads : OperandReads dialect third thirdForm) :
    WholeReads dialect
      (first ++ (textPieces " BETWEEN " ++ (second ++ (textPieces " AND " ++ third))))
      (.between firstForm secondForm thirdForm) := by
  have mem : (" BETWEEN ", Continuation.between) ∈ continuations := by simp [continuations]
  have conjunction : (" AND ", Continuation.chain .and) ∈ continuations :=
    mem_continuations_chain .and
  refine .continued mem firstReads fun rest bound ends fits => ?_
  simp only [List.append_assoc, List.length_append] at fits ⊢
  have low := secondReads _ bound (follows_append conjunction (third ++ rest)) (by
    simp only [List.length_append]
    omega)
  have high := thirdReads rest bound (.inl ends) (by
    simp only [List.length_append]
    omega)
  simp only [Continuation.read, low, high, behind?_append, Option.bind_eq_bind, Option.bind_some]

/-! ## Lists -/

section Lists

variable {α β : Type} {read : PieceReader α} {separator : String} {mayEnd : List Lexeme → Prop}
  {spell : β → List Token} {meaning : β → α}

/-- Things with a separator between them are read one by one. -/
theorem readSeparated_append (limit : Nat) (nonempty : 0 < (textPieces separator).length)
    (separates : ∀ rest, mayEnd (textPieces separator ++ rest)) {elements : List β}
    (isSome : elements ≠ [])
    (reads : ∀ element ∈ elements, ∀ rest, mayEnd rest →
      (dialect.pieces (spell element) ++ rest).length ≤ limit →
      read (dialect.pieces (spell element) ++ rest) = some (meaning element, rest))
    {rest : List Lexeme} (ends : mayEnd rest)
    (noSeparator : behind? (textPieces separator) rest = none) {bound : Nat}
    (fits : (dialect.pieces (Token.separatedBy separator (elements.map spell)) ++ rest).length
      ≤ limit)
    (enough : (dialect.pieces (Token.separatedBy separator (elements.map spell)) ++ rest).length
      < bound) :
    readSeparated read separator bound
        (dialect.pieces (Token.separatedBy separator (elements.map spell)) ++ rest)
      = some (elements.map meaning, rest) := by
  induction elements generalizing bound with
  | nil => exact absurd rfl isSome
  | cons element elements ih =>
      obtain ⟨first, others⟩ := List.forall_mem_cons.1 reads
      cases bound with
      | zero => cases enough
      | succ bound =>
          cases elements with
          | nil =>
              have single := first rest ends fits
              simp only [readSeparated, List.map_cons, List.map_nil, Token.separatedBy, single,
                noSeparator, Option.bind_eq_bind, Option.bind_some]
          | cons next elements =>
              have joined : dialect.pieces
                    (Token.separatedBy separator ((element :: next :: elements).map spell)) ++ rest
                  = dialect.pieces (spell element) ++ (textPieces separator ++ (dialect.pieces
                    (Token.separatedBy separator ((next :: elements).map spell)) ++ rest)) := by
                simp [Token.separatedBy, Token.pieces]
              rw [joined] at fits enough ⊢
              have here := first _ (separates _) fits
              rw [List.length_append, List.length_append] at fits enough
              have behind : readSeparated read separator bound _ = _ :=
                ih (List.cons_ne_nil _ _) others (by omega) (by omega)
              simp only [readSeparated, here, behind?_append, behind, Option.bind_eq_bind,
                Option.bind_some, Option.map_some]
              rfl

/-- A test for membership in a list. -/
theorem WholeReads.within (negated : Bool) {spell : β → List Token} {meaning : β → Form}
    {elements : List β} (isSome : elements ≠ [])
    (firstReads : OperandReads dialect first firstForm)
    (reads : ∀ element ∈ elements,
      WholeReads dialect (dialect.pieces (spell element)) (meaning element)) :
    WholeReads dialect
      (first ++ (textPieces (if negated then " NOT IN (" else " IN (")
        ++ (dialect.pieces (Token.withCommas (elements.map spell)) ++ textPieces ")")))
      (.within negated firstForm (elements.map meaning)) := by
  have mem : ((if negated then " NOT IN (" else " IN ("), Continuation.within negated)
      ∈ continuations := by
    cases negated <;> simp [continuations]
  have comma : ", " ∈ stops := by simp [stops]
  have closing : ")" ∈ stops := by simp [stops]
  refine .continued mem firstReads fun rest bound _ fits => ?_
  rw [List.append_assoc] at fits ⊢
  have noComma : behind? (textPieces ", ") (textPieces ")" ++ rest) = none :=
    behind?_eq_none.2 (not_prefix_of_keysApart (by decide) rest)
  have items := readSeparated_append _ (by decide) (ends_append comma) isSome
    (fun element mem rest ends itemFits => reads element mem rest bound ends
      (Nat.lt_of_le_of_lt (Nat.mul_le_mul_left 2 itemFits) fits))
    (ends_append closing rest) noComma (Nat.le_refl _) (Nat.lt_succ_self _)
  simp only [Continuation.read, Token.withCommas, items, behind?_append, Option.bind_eq_bind,
    Option.bind_some]

/-- A chain of two operands or more. -/
theorem WholeReads.chain (connective : Connective) {spell : β → List Token} {meaning : β → Form}
    {elements : List β} (isSome : elements ≠ [])
    (firstReads : OperandReads dialect first firstForm)
    (reads : ∀ element ∈ elements,
      OperandReads dialect (dialect.pieces (spell element)) (meaning element)) :
    WholeReads dialect
      (first ++ (textPieces (" " ++ connective.operator.symbol ++ " ")
        ++ dialect.pieces
          (Token.separatedBy (" " ++ connective.operator.symbol ++ " ") (elements.map spell))))
      (.chain connective (firstForm :: elements.map meaning)) := by
  have mem := mem_continuations_chain connective
  refine .continued mem firstReads fun rest bound ends fits => ?_
  have nonempty : 0 < (textPieces (" " ++ connective.operator.symbol ++ " ")).length := by
    cases connective <;> decide
  have others := readSeparated_append _ nonempty (follows_append mem) isSome
    (fun element mem rest follows itemFits => reads element mem rest bound follows
      (Nat.le_of_lt (Nat.lt_of_le_of_lt (Nat.mul_le_mul_left 2 itemFits) fits)))
    (.inl ends) (ends.behind?_eq_none mem) (Nat.le_refl _) (Nat.lt_succ_self _)
  simp only [Continuation.read, others, Option.bind_eq_bind, Option.bind_some]

end Lists

/-! ## `CASE` -/

theorem pieces_branchTokens_cons (branch : Expr × Expr) (branches : List (Expr × Expr)) :
    dialect.pieces (Expr.branchTokens dialect (branch :: branches))
      = textPieces " WHEN " ++ (dialect.pieces (branch.1.tokens dialect)
        ++ (textPieces " THEN " ++ (dialect.pieces (branch.2.tokens dialect)
          ++ dialect.pieces (Expr.branchTokens dialect branches)))) := by
  simp [Expr.branchTokens, Token.pieces]

/-- Whole expressions are read as the conditions and results of a `CASE`. -/
theorem readBranches_append {branches : List (Expr × Expr)}
    (reads : ∀ branch ∈ branches,
      WholeReads dialect (dialect.pieces (branch.1.tokens dialect)) (branch.1.form dialect)
        ∧ WholeReads dialect (dialect.pieces (branch.2.tokens dialect)) (branch.2.form dialect))
    (rest : List Lexeme) {bound limit : Nat}
    (fits : 2 * (dialect.pieces (Expr.branchTokens dialect branches)
      ++ (textPieces " ELSE " ++ rest)).length < bound)
    (enough : (dialect.pieces (Expr.branchTokens dialect branches)
      ++ (textPieces " ELSE " ++ rest)).length < limit) :
    readBranches (readWhole dialect bound) limit
        (dialect.pieces (Expr.branchTokens dialect branches) ++ (textPieces " ELSE " ++ rest))
      = some (Expr.branchForms dialect branches, textPieces " ELSE " ++ rest) := by
  have otherwise : " ELSE " ∈ stops := by simp [stops]
  have condition : " WHEN " ∈ stops := by simp [stops]
  have result : " THEN " ∈ stops := by simp [stops]
  induction branches generalizing limit with
  | nil =>
      have noBranch : behind? (textPieces " WHEN ") (textPieces " ELSE " ++ rest) = none :=
        behind?_eq_none.2 (not_prefix_of_keysApart (by decide) rest)
      cases limit with
      | zero => cases enough
      | succ limit =>
          simp only [Expr.branchTokens, Dialect.pieces_nil, List.nil_append, readBranches,
            noBranch, Expr.branchForms]
  | cons branch branches ih =>
      obtain ⟨⟨conditionReads, resultReads⟩, others⟩ := List.forall_mem_cons.1 reads
      cases limit with
      | zero => cases enough
      | succ limit =>
          have ends : Ends (dialect.pieces (Expr.branchTokens dialect branches)
              ++ (textPieces " ELSE " ++ rest)) := by
            cases branches with
            | nil => exact ends_append otherwise rest
            | cons next branches =>
                rw [pieces_branchTokens_cons, List.append_assoc]
                exact ends_append condition _
          have positive : 0 < (textPieces " WHEN ").length := by decide
          simp only [pieces_branchTokens_cons, List.append_assoc, List.length_append]
            at fits enough ⊢
          have first := conditionReads _ bound (ends_append result
            (dialect.pieces (branch.2.tokens dialect) ++ (dialect.pieces
              (Expr.branchTokens dialect branches) ++ (textPieces " ELSE " ++ rest)))) (by
            simp only [List.length_append]
            omega)
          have second := resultReads _ bound ends (by
            simp only [List.length_append]
            omega)
          have behind : readBranches (readWhole dialect bound) limit _ = _ := ih others (by
            simp only [List.length_append]
            omega) (by
            simp only [List.length_append]
            omega)
          simp only [readBranches, behind?_append, first, second, behind, Option.bind_eq_bind,
            Option.bind_some, Option.map_some, Expr.branchForms]

theorem OperandReads.cases {branches : List (Expr × Expr)}
    (reads : ∀ branch ∈ branches,
      WholeReads dialect (dialect.pieces (branch.1.tokens dialect)) (branch.1.form dialect)
        ∧ WholeReads dialect (dialect.pieces (branch.2.tokens dialect)) (branch.2.form dialect))
    (otherwiseReads : WholeReads dialect found form) :
    OperandReads dialect
      (textPieces "CASE" ++ (dialect.pieces (Expr.branchTokens dialect branches)
        ++ (textPieces " ELSE " ++ (found ++ textPieces " END"))))
      (.cases (Expr.branchForms dialect branches) form) := by
  have mem : ("CASE", Opening.cases) ∈ openings := by simp [openings]
  have closing : " END" ∈ stops := by simp [stops]
  refine .opened mem fun rest bound _ fits => ?_
  simp only [List.append_assoc] at fits ⊢
  have cases := readBranches_append reads (found ++ (textPieces " END" ++ rest)) fits
    (Nat.lt_succ_self _)
  simp only [List.length_append] at fits
  have otherwise := otherwiseReads _ bound (ends_append closing rest) (by
    simp only [List.length_append]
    omega)
  simp only [Opening.read, cases, otherwise, behind?_append, Option.bind_eq_bind,
    Option.bind_some]

/-! ## Aggregate functions -/

/-- The pieces are read as the argument of an aggregate function. -/
structure ArgumentReads (dialect : Dialect) (found : List Lexeme) (argument? : Option Form) :
    Prop where
  notDistinct : ∀ rest, behind? (textPieces "DISTINCT ") (found ++ rest) = none
  reads : ∀ rest bound, Ends rest → 2 * (found ++ rest).length < bound →
    readArgument (readWhole dialect bound) (found ++ rest) = some (argument?, rest)

theorem ArgumentReads.star (dialect : Dialect) : ArgumentReads dialect (textPieces "*") none where
  notDistinct := fun rest => behind?_eq_none.2 (not_prefix_of_keysApart (by decide) rest)
  reads := fun rest bound _ _ => by
    have star : textPieces "*" = [.symbol '*'] := by decide
    rw [readArgument, star, behind?_append]

theorem ArgumentReads.whole (reads : WholeReads dialect found form)
    (starts : startsExpression found = true) : ArgumentReads dialect found (some form) where
  notDistinct := behind?_of_startsExpression starts (by decide) (by decide)
  reads := fun rest bound ends fits => by
    have noStar : behind? [.symbol '*'] (found ++ rest) = none :=
      behind?_of_startsExpression starts (by decide) (by decide) rest
    rw [readArgument, noStar, reads rest bound ends fits]
    rfl

/-- The pieces of a call are those of its parts. -/
theorem pieces_call (call : AggregateCall) (argument : List Token) :
    dialect.pieces (call.tokens argument)
      = textPieces (call.function.keyword ++ "(")
        ++ ((if call.distinct then textPieces "DISTINCT " else []) ++ (dialect.pieces argument
          ++ (textPieces ")" ++ if call.overAll then textPieces " OVER()" else []))) := by
  obtain ⟨function, distinct, overAll⟩ := call
  have opening : textPieces (function.keyword ++ if distinct then "(DISTINCT " else "(")
      = textPieces (function.keyword ++ "(")
        ++ if distinct then textPieces "DISTINCT " else [] := by
    cases function <;> cases distinct <;> decide
  have closing : textPieces (if overAll then ") OVER()" else ")")
      = textPieces ")" ++ if overAll then textPieces " OVER()" else [] := by
    cases overAll <;> decide
  simp [AggregateCall.tokens, Token.pieces, opening, closing]

theorem OperandReads.aggregate (call : AggregateCall) {argument : List Token}
    {argument? : Option Form} (argumentReads : ArgumentReads dialect (dialect.pieces argument)
      argument?) :
    OperandReads dialect (dialect.pieces (call.tokens argument)) (.aggregate call argument?) := by
  obtain ⟨function, distinct, overAll⟩ := call
  have mem : (function.keyword ++ "(", Opening.aggregate function) ∈ openings :=
    List.mem_append_left _ (List.mem_append_right _
      (List.mem_map_of_mem (by cases function <;> decide)))
  have closing : ")" ∈ stops := by simp [stops]
  rw [pieces_call]
  refine .opened mem fun rest bound follows fits => ?_
  simp only [List.append_assoc, List.length_append] at fits ⊢
  have read := argumentReads.reads _ bound (ends_append closing
    ((if overAll then textPieces " OVER()" else []) ++ rest)) (by
      simp only [List.length_append]
      omega)
  have window : behind? (textPieces " OVER()")
        ((if overAll then textPieces " OVER()" else []) ++ rest)
      = if overAll then some rest else none := by
    cases overAll with
    | false => exact follows.behind?_over
    | true => exact behind?_append _ rest
  cases distinct with
  | false =>
      have noDistinct := argumentReads.notDistinct
        (textPieces ")" ++ ((if overAll then textPieces " OVER()" else []) ++ rest))
      simp only [Opening.read, Bool.false_eq_true, if_false, List.nil_append, noDistinct,
        Option.getD_none, read, behind?_append, window, Option.bind_eq_bind, Option.bind_some]
      cases overAll <;> rfl
  | true =>
      simp only [Opening.read, if_true, behind?_append, Option.getD_some, read, window,
        Option.bind_eq_bind, Option.bind_some]
      cases overAll <;> rfl

/-! ## Selects -/

theorem OperandReads.subquery {select : Select} (built : (Part.select select).Built)
    (canWrite : dialect.CanWrite (select.tokens dialect)) :
    OperandReads dialect
      (textPieces "(" ++ (dialect.pieces (select.tokens dialect) ++ textPieces ")"))
      (.subquery (dialect.selectText select)) := by
  have mem : ("(", Opening.group) ∈ openings := by simp [openings]
  have closing : textPieces ")" = [.symbol ')'] := by decide
  refine .opened mem fun rest bound _ fits => ?_
  have read := readSelect_append built canWrite rest
  rw [List.append_assoc, Opening.read, select.startsSelect_pieces built, closing]
  simp only [List.singleton_append, read, if_true, Option.map_some]

theorem OperandReads.existsIn {select : Select} (built : (Part.select select).Built)
    (canWrite : dialect.CanWrite (select.tokens dialect)) :
    OperandReads dialect
      (textPieces "EXISTS (" ++ (dialect.pieces (select.tokens dialect) ++ textPieces ")"))
      (.existsIn (dialect.selectText select)) := by
  have mem : ("EXISTS (", Opening.existsIn) ∈ openings := by simp [openings]
  have closing : textPieces ")" = [.symbol ')'] := by decide
  refine .opened mem fun rest bound _ fits => ?_
  have read := readSelect_append built canWrite rest
  rw [List.append_assoc, Opening.read, closing]
  simp only [List.singleton_append, read, Option.map_some]

end Shapes

end CheckedSql
