import CheckedSql.Proofs.Writing.Separation
import CheckedSql.Syntax.Tokens

/-!
# Layout of tokens

A part of a statement is written as fixed texts, names and truth values around the
tokens of the parts in it.  `Layout write pending pieces tokens` says so: `tokens` are
made of the written `pieces`, in this order, with texts, names and truth values between
them that keep them apart.  `pending` has the same meaning as for separated tokens.

So a layout answers three questions at once: which parameters the tokens have, in which
order (`Layout.parametersOf_eq`), which values they have (`Layout.literal_mem`), and
whether they are separated if the pieces are (`Layout.separated`).  There is one lemma
for each shape of tokens that the syntax is written with.
-/

namespace CheckedSql

section Layouts

variable {α : Type} {write : α → List Token}

/-- The tokens are the written pieces with texts, names and truth values around them. -/
inductive Layout (write : α → List Token) : Bool → List α → List Token → Prop where
  | nil (pending : Bool) : Layout write pending [] []
  | text {pending : Bool} {text : String} {pieces : List α} {tokens : List Token} :
      isPlain text = true → Layout write (pending && text.isEmpty) pieces tokens →
      Layout write pending pieces (.text text :: tokens)
  | identifier {name : String} {pieces : List α} {tokens : List Token} :
      Layout write true pieces tokens → Layout write false pieces (.identifier name :: tokens)
  | literal {truth : Bool} {pieces : List α} {tokens : List Token} :
      Layout write true pieces tokens →
      Layout write false pieces (.literal (.bool truth) :: tokens)
  | piece {piece : α} {pieces : List α} {tokens : List Token} :
      Layout write true pieces tokens →
      Layout write false (piece :: pieces) (write piece ++ tokens)

namespace Layout

variable {pending : Bool} {pieces others : List α} {tokens after : List Token}

/-- The parameters of tokens are those of the pieces. -/
theorem parametersOf_eq (layout : Layout write pending pieces tokens) :
    parametersOf tokens = pieces.flatMap fun piece => parametersOf (write piece) := by
  induction layout with
  | nil => rfl
  | text _ _ ih => exact ih
  | identifier _ ih => exact ih
  | literal _ ih => exact ih
  | piece _ ih => rw [parametersOf_append, ih, List.flatMap_cons]

/-- The tokens of each piece are among the tokens of a layout. -/
theorem subset (layout : Layout write pending pieces tokens) {piece : α} (mem : piece ∈ pieces) :
    write piece ⊆ tokens := by
  induction layout with
  | nil => cases mem
  | text _ _ ih | identifier _ ih | literal _ ih => exact List.subset_cons_of_subset _ (ih mem)
  | piece _ ih =>
      rcases List.mem_cons.1 mem with rfl | later
      · exact List.subset_append_left _ _
      · exact List.subset_append_of_subset_right _ (ih later)

/-- A value in tokens is a truth value or stands in a piece. -/
theorem literal_mem (layout : Layout write pending pieces tokens) {value : Value}
    (mem : .literal value ∈ tokens) :
    (∃ truth, value = .bool truth) ∨ ∃ piece ∈ pieces, .literal value ∈ write piece := by
  induction layout with
  | nil => cases mem
  | text _ _ ih | identifier _ ih =>
      rcases List.mem_cons.1 mem with ⟨⟨⟩⟩ | later
      exact ih later
  | literal _ ih =>
      rcases List.mem_cons.1 mem with ⟨⟨⟩⟩ | later
      · exact .inl ⟨_, rfl⟩
      · exact ih later
  | piece _ ih =>
      rcases List.mem_append.1 mem with inPiece | later
      · exact .inr ⟨_, .head _, inPiece⟩
      · refine (ih later).imp_right ?_
        rintro ⟨piece, pieceMem, inPiece⟩
        exact ⟨piece, .tail _ pieceMem, inPiece⟩

/-- A layout of separated pieces is separated. -/
theorem separated (layout : Layout write pending pieces tokens)
    (pieceSeparated : ∀ piece ∈ pieces, Separated false (write piece)) :
    Separated pending tokens := by
  induction layout with
  | nil => trivial
  | text plain _ ih => exact ⟨plain, ih pieceSeparated⟩
  | identifier _ ih => exact ⟨rfl, ih pieceSeparated⟩
  | literal _ ih => exact ⟨rfl, ih pieceSeparated⟩
  | piece _ ih =>
      obtain ⟨first, rest⟩ := List.forall_mem_cons.1 pieceSeparated
      exact first.append (ih rest)

/-- Where a text is needed, there may be one. -/
theorem weaken (layout : Layout write true pieces tokens) (pending : Bool) :
    Layout write pending pieces tokens := by
  generalize same : true = required at layout
  induction layout with
  | nil => exact .nil pending
  | @text _ text pieces tokens plain rest ih =>
      subst same
      refine .text plain ?_
      cases isEmpty : text.isEmpty with
      | false => simpa [isEmpty] using rest
      | true => simpa [isEmpty] using ih (by simp [isEmpty])
  | identifier | literal | piece => cases same

/-- Two layouts, the second of which starts with a text that keeps them apart. -/
theorem append (first : Layout write pending pieces tokens)
    (second : Layout write true others after) :
    Layout write pending (pieces ++ others) (tokens ++ after) := by
  induction first with
  | nil pending => exact second.weaken pending
  | text plain _ ih => exact .text plain ih
  | identifier _ ih => exact .identifier ih
  | literal _ ih => exact .literal ih
  | piece _ ih =>
      rw [List.cons_append, List.append_assoc]
      exact .piece ih

/-- A piece alone. -/
theorem single (piece : α) : Layout write false [piece] (write piece) := by
  have layout : Layout write false [piece] (write piece ++ []) := .piece (.nil true)
  rwa [List.append_nil] at layout

/-- A separator alone. -/
theorem ofSeparator {text : String} (isSeparator : isSeparator text = true) :
    Layout write pending [] [.text text] :=
  .text (Bool.and_eq_true _ _ ▸ isSeparator).1 (.nil _)

/-- Behind a separator, anything may follow. -/
theorem separator {text : String} (isSeparator : isSeparator text = true)
    (layout : Layout write false pieces tokens) :
    Layout write pending pieces (.text text :: tokens) := by
  rw [CheckedSql.isSeparator, Bool.and_eq_true, Bool.not_eq_true'] at isSeparator
  refine .text isSeparator.1 ?_
  rw [isSeparator.2, Bool.and_false]
  exact layout

/-- Anything may stand in front of a separator. -/
theorem followed {text : String} (layout : Layout write pending pieces tokens)
    (isSeparator : isSeparator text = true) :
    Layout write pending pieces (tokens ++ [.text text]) := by
  have closed := layout.append (ofSeparator isSeparator)
  rwa [List.append_nil] at closed

/-- Two layouts with a separator between them. -/
theorem around {text : String} (isSeparator : isSeparator text = true)
    (first : Layout write pending pieces tokens) (second : Layout write false others after) :
    Layout write pending (pieces ++ others) (tokens ++ .text text :: after) :=
  first.append (.separator isSeparator second)

/-- What is not active leaves nothing behind. -/
theorem ifActive (active : Bool) (layout : Layout write true pieces tokens) :
    Layout write true (if active then pieces else []) (if active then tokens else []) := by
  cases active with
  | false => exact .nil true
  | true => exact layout

theorem parenthesized (layout : Layout write false pieces tokens) :
    Layout write pending pieces (Token.parenthesized tokens) :=
  .separator rfl (layout.followed rfl)

theorem operand (compound : Bool) (layout : Layout write false pieces tokens) :
    Layout write false pieces (Token.operand compound tokens) := by
  cases compound with
  | false => exact layout
  | true => exact layout.parenthesized

/-! ## Names -/

theorem name (name : String) : Layout write false [] [.identifier name] := .identifier (.nil true)

/-- A written expression under a name. -/
theorem named (layout : Layout write pending pieces tokens) (name : String) :
    Layout write pending pieces (namedTokens tokens name) := by
  have between : isSeparator " AS " = true := rfl
  have closed := around between layout (.name name)
  rwa [List.append_nil] at closed

theorem aliasedName (declared : String) (alias? : Option String) :
    Layout write false [] (aliasedNameTokens declared alias?) := by
  cases alias? with
  | none => exact name declared
  | some other => exact (name declared).named other

theorem column (column : Column) : Layout write false [] column.tokens :=
  around rfl (name column.qualifier) (name column.name)

/-! ## Lists -/

theorem isSeparator_symbol (operator : Operator) :
    isSeparator (" " ++ operator.symbol ++ " ") = true := by
  cases operator <;> rfl

section Lists

variable {β : Type} {elements : List β} {inside : β → List α} {spell : β → List Token}

/-- Written elements with a separator between them. -/
theorem separatedBy {text : String} (isSeparator : isSeparator text = true)
    (layout : ∀ element ∈ elements, Layout write false (inside element) (spell element)) :
    Layout write false (elements.flatMap inside)
      (Token.separatedBy text (elements.map spell)) := by
  induction elements with
  | nil => exact .nil false
  | cons element elements ih =>
      obtain ⟨first, rest⟩ := List.forall_mem_cons.1 layout
      cases elements with
      | nil =>
          rw [List.flatMap_singleton]
          exact first
      | cons next elements => exact around isSeparator first (ih rest)

theorem withCommas
    (layout : ∀ element ∈ elements, Layout write false (inside element) (spell element)) :
    Layout write false (elements.flatMap inside) (Token.withCommas (elements.map spell)) :=
  separatedBy rfl layout

/-- A clause that vanishes without elements. -/
theorem listClause {keyword : String} (isSeparator : isSeparator keyword = true)
    (layout : ∀ element ∈ elements, Layout write false (inside element) (spell element)) :
    Layout write true (elements.flatMap inside)
      (listClauseTokens keyword (elements.map spell)) := by
  cases elements with
  | nil => exact .nil true
  | cons element elements => exact .separator isSeparator (withCommas layout)

/-- A chain.  A single operand stands as it is, and of no operands nothing is written. -/
theorem chain (connective : Connective) {compound : β → Bool}
    (layout : ∀ element ∈ elements, Layout write false (inside element) (spell element)) :
    Layout write false (elements.flatMap inside)
      (connective.tokens (elements.map fun element => (compound element, spell element))) := by
  cases elements with
  | nil => exact .nil false
  | cons element elements =>
      cases elements with
      | nil =>
          rw [List.flatMap_singleton]
          exact layout element (List.mem_singleton_self element)
      | cons next elements =>
          have operands := separatedBy (isSeparator_symbol connective.operator)
            fun element mem => (layout element mem).operand (compound element)
          simpa [Connective.tokens, Function.comp_def] using operands

theorem columnList (columns : List String) :
    Layout write pending [] (columnListTokens columns) := by
  have names : Layout write false (columns.flatMap fun _ => [])
      (Token.withCommas (columns.map fun column => [.identifier column])) :=
    withCommas fun column _ => name column
  rw [List.flatMap_eq_nil_iff.2 fun _ _ => rfl] at names
  exact names.parenthesized

/-- Written assignments to columns. -/
theorem assignments {column : β → String}
    (layout : ∀ element ∈ elements, Layout write false (inside element) (spell element)) :
    Layout write false (elements.flatMap inside)
      (assignmentTokens (elements.map fun element => (column element, spell element))) := by
  rw [assignmentTokens, List.map_map]
  exact withCommas fun element mem => .identifier (.separator rfl (layout element mem))

/-- Written assignments, as a row. -/
theorem inserted {column : β → String}
    (layout : ∀ element ∈ elements, Layout write false (inside element) (spell element)) :
    Layout write true (elements.flatMap inside)
      (insertedTokens (elements.map fun element => (column element, spell element))) := by
  cases elements with
  | nil => exact ofSeparator rfl
  | cons element elements =>
      have leading : isSeparator " " = true := rfl
      have between : isSeparator " VALUES " = true := rfl
      have names : Layout write false [] _ := columnList ((element :: elements).map column)
      have values : Layout write false _ _ := (withCommas layout).parenthesized
      have row : Layout write true _ _ := .separator leading (around between names values)
      simpa [insertedTokens, Function.comp_def] using row

end Lists

/-! ## Operators -/

theorem unary {dialect : Dialect} (operator : UnaryOperator)
    (layout : Layout write false pieces tokens) :
    Layout write false pieces (operator.tokens dialect tokens) := by
  cases operator with
  | negate =>
      rw [UnaryOperator.tokens]
      split
      · exact .separator rfl layout.parenthesized
      · exact .separator rfl layout
  | bitNot | not => exact .separator rfl layout
  | isNull | isNotNull => exact layout.followed rfl

theorem binary (operator : Operator) (left : Layout write false pieces tokens)
    (right : Layout write false others after) :
    Layout write false (pieces ++ others) (operator.tokens tokens after) :=
  around (isSeparator_symbol operator) left right

/-- The texts before and after two concatenated texts may be empty. -/
theorem concat (dialect : Dialect) (left : Layout write false pieces tokens)
    (right : Layout write false others after) :
    Layout write false (pieces ++ others) (dialect.concatTokens tokens after) := by
  have before : isPlain dialect.concatFrame.1 = true := by cases dialect <;> rfl
  have between : isSeparator dialect.concatFrame.2.1 = true := by cases dialect <;> rfl
  have behind : isPlain dialect.concatFrame.2.2 = true := by cases dialect <;> rfl
  have ending : Layout write true [] [.text dialect.concatFrame.2.2] := .text behind (.nil _)
  have closed := right.append ending
  rw [List.append_nil] at closed
  exact .text before (around between left closed)

theorem aggregate (call : AggregateCall) (layout : Layout write false pieces tokens) :
    Layout write false pieces (call.tokens tokens) := by
  obtain ⟨function, distinct, overAll⟩ := call
  refine .separator ?_ (layout.followed ?_)
  · show isSeparator (function.keyword ++ if distinct then "(DISTINCT " else "(") = true
    cases function <;> cases distinct <;> rfl
  · show isSeparator (if overAll then ") OVER()" else ")") = true
    cases overAll <;> rfl

/-- A direction and a place for NULL behind a written expression. -/
theorem sorted (direction : SortDirection) (nulls? : Option NullsOrder)
    (layout : Layout write false pieces tokens) :
    Layout write false pieces (sortTokens tokens direction nulls?) := by
  refine layout.followed ?_
  cases direction <;> rcases nulls? with _ | _ | _ <;> rfl

/-- A union with a written select. -/
theorem union (dialect : Dialect) (distinct : Bool) (layout : Layout write false pieces tokens) :
    Layout write pending pieces (dialect.unionTokens distinct tokens) := by
  refine .separator ?_ layout
  cases dialect <;> cases distinct <;> rfl

end Layout

end Layouts

end CheckedSql
