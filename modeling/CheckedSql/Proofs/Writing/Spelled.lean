import CheckedSql.Proofs.Writing.Layout
import CheckedSql.Proofs.Writing.OperatorPieces

/-!
# Operators in tokens

`Spelled tokens operators` says that PostgreSQL reads these operators in the written tokens,
and that it reads whatever is behind the tokens alone.  So spelled tokens may stand one after
the other, and there is one rule for each shape of tokens that the syntax is written with.

Only a sign needs a condition: what is behind it must start with no operator character
(`Spelled.signed`).
-/

namespace CheckedSql

/-- The operator that a binary operator is spelled with, unless it is spelled with words. -/
def Operator.spelling (operator : Operator) : List String :=
  if operator.symbol.toList.all isOperatorChar then [operator.symbol] else []

/-- The runs of operator characters in the written tokens, which end quietly. -/
structure Spelled (tokens : List Token) (operators : List String) : Prop where
  runs : runsIn (Dialect.postgres.pieces tokens) = operators
  ends : EndsQuiet (Dialect.postgres.pieces tokens)

/-- Whether pieces start with something, and with no operator character. -/
def startsQuiet (found : List Lexeme) : Bool := found.head?.any fun lexeme => !lexeme.isOperator

theorem startsQuiet_iff {found : List Lexeme} :
    startsQuiet found = true ↔ found ≠ [] ∧ ∀ lexeme ∈ found.head?, lexeme.isOperator = false := by
  cases found <;> simp [startsQuiet]

theorem startsQuiet_append {first : List Lexeme} (starts : startsQuiet first = true)
    (second : List Lexeme) : startsQuiet (first ++ second) = true := by
  cases first with
  | nil => cases starts
  | cons lexeme first => exact starts

theorem Quiet.startsQuiet {found : List Lexeme} (quiet : Quiet found) :
    CheckedSql.startsQuiet found = true :=
  startsQuiet_iff.2 ⟨quiet.1, head_of_runsIn_eq_nil quiet.2.1⟩

namespace Spelled

variable {tokens after : List Token} {operators others : List String} {text : String}

theorem nil : Spelled [] [] := ⟨rfl, nofun⟩

theorem append (first : Spelled tokens operators) (second : Spelled after others) :
    Spelled (tokens ++ after) (operators ++ others) := by
  refine ⟨?_, ?_⟩
  · rw [Dialect.pieces_append, runsIn_append first.ends, first.runs, second.runs]
  · rw [Dialect.pieces_append]
    exact first.ends.append second.ends

/-- Signs in front of what starts with no operator character are a run of their own. -/
theorem of_signs {signs : List Char} {found : List Lexeme}
    (pieces : Dialect.postgres.pieces tokens = signs.map .symbol ++ found) (nonempty : signs ≠ [])
    (areOperators : ∀ c ∈ signs, isOperatorChar c = true) (starts : startsQuiet found = true)
    (ends : EndsQuiet found) : Spelled tokens (.ofList signs :: runsIn found) := by
  obtain ⟨foundNonempty, notOperator⟩ := startsQuiet_iff.1 starts
  refine ⟨?_, ?_⟩
  · rw [pieces]
    exact runsIn_chars nonempty areOperators notOperator
  · rw [pieces]
    exact ends.append_left foundNonempty _

/-! ## Texts -/

theorem single {token : Token} (quiet : Quiet (token.pieces .postgres)) : Spelled [token] [] := by
  rw [← Dialect.pieces_singleton] at quiet
  exact ⟨quiet.2.1, quiet.2.2⟩

theorem quiet (quiet : Quiet (textPieces text)) : Spelled [.text text] [] := single quiet

/-- Tokens behind a quiet text. -/
theorem leading (quiet : Quiet (textPieces text)) (spelled : Spelled tokens operators) :
    Spelled (.text text :: tokens) operators := (Spelled.quiet quiet).append spelled

/-- Tokens in front of a quiet text. -/
theorem followed (spelled : Spelled tokens operators) (quiet : Quiet (textPieces text)) :
    Spelled (tokens ++ [.text text]) operators := by
  have closed := spelled.append (Spelled.quiet quiet)
  rwa [List.append_nil] at closed

/-- Tokens on both sides of a quiet text. -/
theorem around (quiet : Quiet (textPieces text)) (first : Spelled tokens operators)
    (second : Spelled after others) :
    Spelled (tokens ++ .text text :: after) (operators ++ others) :=
  first.append (second.leading quiet)

/-- What is not active leaves nothing behind. -/
theorem ifActive (active : Bool) (spelled : active = true → Spelled tokens operators) :
    Spelled (if active then tokens else []) (if active then operators else []) := by
  cases active with
  | false => exact nil
  | true => exact spelled rfl

theorem parenthesized (spelled : Spelled tokens operators) :
    Spelled (Token.parenthesized tokens) operators :=
  (spelled.followed (by decide)).leading (by decide)

theorem operand (compound : Bool) (spelled : Spelled tokens operators) :
    Spelled (Token.operand compound tokens) operators := by
  cases compound with
  | false => exact spelled
  | true => exact spelled.parenthesized

/-! ## Single tokens -/

theorem name (name : String) : Spelled [.identifier name] [] := by
  refine single ?_
  rw [Token.pieces]
  split
  · exact quiet_quoted _ _
  · next bare =>
      have noDigit := isDigit_head_of_bare (Bool.not_eq_true _ ▸ bare)
      exact quiet_word (by rw [Lexeme.isMantissa, noDigit, Bool.false_and])

theorem placeholder (parameter : Parameter) : Spelled [.placeholder parameter] [] :=
  single (by rw [Token.pieces]; decide)

/-- A literal is spelled with its sign. -/
theorem literal (value : Value) :
    Spelled [.literal value] (if value.isSigned then ["-"] else []) := by
  obtain ⟨found, pieces, quiet⟩ := value.exists_pieces
  cases signed : value.isSigned with
  | false =>
      rw [signed] at pieces
      exact single (pieces ▸ quiet)
  | true =>
      rw [signed, ← Dialect.pieces_singleton] at pieces
      have spelled : Spelled [.literal value] ("-" :: runsIn found) :=
        of_signs pieces (List.cons_ne_nil '-' []) (List.forall_mem_singleton.2 rfl)
          quiet.startsQuiet quiet.2.2
      rwa [quiet.2.1] at spelled

/-- A sign in front of tokens that start with no operator character. -/
theorem signed (sign : Char) (isOperator : isOperatorChar sign = true)
    (isSign : textPieces text = [.symbol sign]) (spelled : Spelled tokens operators)
    (starts : startsQuiet (Dialect.postgres.pieces tokens) = true) :
    Spelled (.text text :: tokens) (.ofList [sign] :: operators) := by
  have all : Dialect.postgres.pieces (.text text :: tokens)
      = [sign].map .symbol ++ Dialect.postgres.pieces tokens := by
    rw [Dialect.pieces_cons, Token.pieces, isSign]
    rfl
  rw [← spelled.runs]
  exact of_signs all (List.cons_ne_nil sign []) (List.forall_mem_singleton.2 isOperator) starts
    spelled.ends

/-! ## Names -/

/-- A written expression under a name. -/
theorem named (spelled : Spelled tokens operators) (declared : String) :
    Spelled (namedTokens tokens declared) operators := by
  have closed := spelled.around (by decide : Quiet (textPieces " AS ")) (name declared)
  rwa [List.append_nil] at closed

theorem aliasedName (declared : String) (alias? : Option String) :
    Spelled (aliasedNameTokens declared alias?) [] := by
  cases alias? with
  | none => exact name declared
  | some other => exact (name declared).named other

theorem column (column : Column) : Spelled column.tokens [] :=
  around (by decide) (name column.qualifier) (name column.name)

/-! ## Lists -/

section Lists

variable {β : Type} {elements : List β} {inside : β → List String} {spell : β → List Token}

/-- Written elements with a quiet text between them. -/
theorem separatedBy (quiet : Quiet (textPieces text))
    (each : ∀ element ∈ elements, Spelled (spell element) (inside element)) :
    Spelled (Token.separatedBy text (elements.map spell)) (elements.flatMap inside) := by
  induction elements with
  | nil => exact nil
  | cons element elements ih =>
      obtain ⟨first, rest⟩ := List.forall_mem_cons.1 each
      cases elements with
      | nil =>
          rw [List.flatMap_singleton]
          exact first
      | cons next elements => exact first.around quiet (ih rest)

theorem withCommas (each : ∀ element ∈ elements, Spelled (spell element) (inside element)) :
    Spelled (Token.withCommas (elements.map spell)) (elements.flatMap inside) :=
  separatedBy (by decide) each

/-- A clause that vanishes without elements. -/
theorem listClause {keyword : String} (quiet : Quiet (textPieces keyword))
    (each : ∀ element ∈ elements, Spelled (spell element) (inside element)) :
    Spelled (listClauseTokens keyword (elements.map spell)) (elements.flatMap inside) := by
  cases elements with
  | nil => exact nil
  | cons element elements => exact (withCommas each).leading quiet

/-- A clause of definitions, which vanishes without elements. -/
theorem definitions (recursive : Bool)
    (each : ∀ element ∈ elements, Spelled (spell element) (inside element)) :
    Spelled (withTokens recursive (elements.map spell)) (elements.flatMap inside) := by
  have keyword : Quiet (textPieces (if recursive then "WITH RECURSIVE " else "WITH ")) := by
    cases recursive <;> decide
  have closing : Quiet (textPieces " ") := by decide
  cases elements with
  | nil => exact nil
  | cons element elements => exact ((withCommas each).followed closing).leading keyword

/-- A chain, whose connectives are words. -/
theorem chain (connective : Connective) {compound : β → Bool}
    (each : ∀ element ∈ elements, Spelled (spell element) (inside element)) :
    Spelled (connective.tokens (elements.map fun element => (compound element, spell element)))
      (elements.flatMap inside) := by
  have quiet : Quiet (textPieces (" " ++ connective.operator.symbol ++ " ")) := by
    cases connective <;> decide
  cases elements with
  | nil => exact nil
  | cons element elements =>
      cases elements with
      | nil =>
          rw [List.flatMap_singleton]
          exact each element (List.mem_singleton_self element)
      | cons next elements =>
          have operands := separatedBy quiet
            fun element mem => (each element mem).operand (compound element)
          simpa [Connective.tokens, Function.comp_def] using operands

end Lists

/-! ## Operators -/

/-- The text of a binary operator, which is read as its spelling. -/
theorem symbol (operator : Operator) :
    Spelled [.text (" " ++ operator.symbol ++ " ")] operator.spelling := by
  cases operator <;> exact ⟨by decide, by decide⟩

theorem binary (operator : Operator) (left : Spelled tokens operators)
    (right : Spelled after others) :
    Spelled (operator.tokens tokens after) (operators ++ (operator.spelling ++ others)) :=
  left.append ((symbol operator).append right)

theorem concat (left : Spelled tokens operators) (right : Spelled after others) :
    Spelled (Dialect.postgres.concatTokens tokens after) (operators ++ others) :=
  (left.around (by decide) (right.followed (by decide))).leading (by decide)

theorem quiet_keyword (function : AggregateFunction) (distinct : Bool) :
    Quiet (textPieces (function.keyword ++ if distinct then "(DISTINCT " else "(")) := by
  cases function <;> cases distinct <;> decide

theorem aggregate (call : AggregateCall) (spelled : Spelled tokens operators) :
    Spelled (call.tokens tokens) operators := by
  obtain ⟨function, distinct, overAll⟩ := call
  refine (spelled.followed ?_).leading (quiet_keyword function distinct)
  show Quiet (textPieces (if overAll then ") OVER()" else ")"))
  cases overAll <;> decide

/-- An aggregate of all rows is spelled with an asterisk. -/
theorem aggregateAll (call : AggregateCall) : Spelled (call.tokens [.text "*"]) ["*"] := by
  obtain ⟨function, distinct, overAll⟩ := call
  refine leading (quiet_keyword function distinct) ?_
  show Spelled [.text "*", .text (if overAll then ") OVER()" else ")")] ["*"]
  cases overAll <;> exact ⟨by decide, by decide⟩

/-- A direction and a place for NULL behind a written expression. -/
theorem sorted (direction : SortDirection) (nulls? : Option NullsOrder)
    (spelled : Spelled tokens operators) :
    Spelled (sortTokens tokens direction nulls?) operators := by
  refine spelled.followed ?_
  cases direction <;> rcases nulls? with _ | _ | _ <;> decide

/-- A union with a written select. -/
theorem union (distinct : Bool) (spelled : Spelled tokens operators) :
    Spelled (Dialect.postgres.unionTokens distinct tokens) operators := by
  refine spelled.leading ?_
  cases distinct <;> decide

end Spelled

end CheckedSql
