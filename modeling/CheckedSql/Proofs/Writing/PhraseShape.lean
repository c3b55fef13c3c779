import CheckedSql.Proofs.Writing.Phrase
import CheckedSql.Syntax.Tokens

/-!
# Shapes of phrases

There is one lemma for each shape of tokens that the syntax is written with: names and
lists, operators, and the clauses that vanish without entries.  Expressions and what they
are made of hold no word of a union or a join outside of parentheses, so most shapes are
at the `expression` level.

Tokens that may stand behind any phrase are a `Tail`.
-/

namespace CheckedSql

/-- A phrase that may stand behind any other one. -/
structure Tail (dialect : Dialect) (level : Level) (tokens : List Token) : Prop where
  phrase : Phrase dialect level tokens
  follows : canFollow tokens = true

theorem canFollow_text {text : String} (leading : isLeading text = true) (tokens : List Token) :
    canFollow (.text text :: tokens) = true := by
  rw [canFollow, leading, Bool.true_or]

section Shapes

variable {dialect : Dialect} {level : Level} {tokens first second : List Token}

namespace Tail

theorem nil (dialect : Dialect) (level : Level) : Tail dialect level [] := ⟨.nil level, rfl⟩

theorem text {text : String} (flat : isFlatText level.stops text = true)
    (leading : isLeading text = true) : Tail dialect level [.text text] :=
  ⟨.word flat, canFollow_text leading []⟩

/-- A joint with a phrase behind it. -/
theorem joint {text : String} (joint : isJoint level.stops text = true)
    (phrase : Phrase dialect level tokens) : Tail dialect level (.text text :: tokens) := by
  obtain ⟨flat, trails, leading⟩ := isJoint_iff.1 joint
  exact ⟨.leading flat trails phrase, canFollow_text leading tokens⟩

theorem append (firstTail : Tail dialect level first) (secondTail : Tail dialect level second) :
    Tail dialect level (first ++ second) :=
  ⟨.append firstTail.phrase secondTail.phrase secondTail.follows,
    canFollow_append firstTail.follows secondTail.follows⟩

theorem ifActive (active : Bool) (tail : Tail dialect level tokens) :
    Tail dialect level (if active then tokens else []) := by
  cases active with
  | false => exact nil dialect level
  | true => exact tail

theorem weaken (tail : Tail dialect level tokens) {other : Level}
    (subset : other.stops ⊆ level.stops) : Tail dialect other tokens :=
  ⟨tail.phrase.weaken subset, tail.follows⟩

end Tail

namespace Phrase

theorem behind (phrase : Phrase dialect level first) (tail : Tail dialect level second) :
    Phrase dialect level (first ++ second) :=
  .append phrase tail.phrase tail.follows

theorem followed {text : String} (phrase : Phrase dialect level tokens)
    (flat : isFlatText level.stops text = true) (leading : isLeading text = true) :
    Phrase dialect level (tokens ++ [.text text]) :=
  phrase.behind (.text flat leading)

/-- Two phrases with a joint between them. -/
theorem around {text : String} (joint : isJoint level.stops text = true)
    (firstPhrase : Phrase dialect level first) (secondPhrase : Phrase dialect level second) :
    Phrase dialect level (first ++ .text text :: second) :=
  firstPhrase.behind (.joint joint secondPhrase)

/-- What stands in parentheses may be anything. -/
theorem toQuery (phrase : Phrase dialect level tokens) : Phrase dialect .query tokens :=
  phrase.weaken (List.nil_subset _)

theorem parenthesized (phrase : Phrase dialect .query tokens) (level : Level) :
    Phrase dialect level (Token.parenthesized tokens) :=
  .enclosed (.parentheses level) phrase

theorem operand (compound : Bool) (phrase : Phrase dialect level tokens) :
    Phrase dialect level (Token.operand compound tokens) := by
  cases compound with
  | false => exact phrase
  | true => exact phrase.toQuery.parenthesized level

/-! ### Names and lists -/

theorem name (name : String) : Phrase dialect level [.identifier name] := .single rfl

/-- A written expression under a name. -/
theorem named (phrase : Phrase dialect .expression tokens) (name : String) :
    Phrase dialect .expression (namedTokens tokens name) :=
  phrase.around rfl (.name name)

theorem aliasedName (declared : String) (alias? : Option String) :
    Phrase dialect .expression (aliasedNameTokens declared alias?) := by
  cases alias? with
  | none => exact .name declared
  | some other => exact (name declared).named other

theorem column (column : Column) : Phrase dialect .expression column.tokens :=
  around rfl (name column.qualifier) (name column.name)

theorem separatedBy {text : String} (joint : isJoint level.stops text = true)
    {pieces : List (List Token)} (phrases : ∀ piece ∈ pieces, Phrase dialect level piece) :
    Phrase dialect level (Token.separatedBy text pieces) := by
  induction pieces with
  | nil => exact .nil level
  | cons piece pieces ih =>
      obtain ⟨first, rest⟩ := List.forall_mem_cons.1 phrases
      cases pieces with
      | nil => exact first
      | cons next pieces => exact around joint first (ih rest)

theorem withCommas {pieces : List (List Token)}
    (phrases : ∀ piece ∈ pieces, Phrase dialect .expression piece) :
    Phrase dialect .expression (Token.withCommas pieces) :=
  separatedBy rfl phrases

theorem columnList (columns : List String) (level : Level) :
    Phrase dialect level (columnListTokens columns) := by
  have names : Phrase dialect .expression
      (Token.withCommas (columns.map fun column => [.identifier column])) :=
    withCommas fun piece mem => by
      obtain ⟨column, -, rfl⟩ := List.mem_map.1 mem
      exact name column
  exact names.toQuery.parenthesized level

/-- Written assignments to columns. -/
theorem assignments {assigned : List (String × List Token)}
    (phrases : ∀ pair ∈ assigned, Phrase dialect .expression pair.2) :
    Phrase dialect .expression (assignmentTokens assigned) := by
  refine withCommas fun piece mem => ?_
  obtain ⟨⟨column, value⟩, pairMem, rfl⟩ := List.mem_map.1 mem
  exact around rfl (name column) (phrases _ pairMem)

/-! ### Operators -/

theorem unary (operator : UnaryOperator) (phrase : Phrase dialect .expression tokens)
    (unsigned : dialect.startsWithMinus tokens = false → dialect.startsUnsigned tokens = true) :
    Phrase dialect .expression (operator.tokens dialect tokens) := by
  cases operator with
  | negate =>
      rw [UnaryOperator.tokens]
      split
      · exact .sign rfl (phrase.toQuery.parenthesized _)
      · next notMinus => exact .sign (unsigned (Bool.not_eq_true _ ▸ notMinus)) phrase
  | bitNot => exact .leading rfl rfl phrase
  | not => exact .leading rfl rfl phrase
  | isNull => exact phrase.followed rfl rfl
  | isNotNull => exact phrase.followed rfl rfl

theorem isJoint_symbol (operator : Operator) :
    isJoint Level.expression.stops (" " ++ operator.symbol ++ " ") = true := by
  cases operator <;> decide

theorem binary (operator : Operator) (firstPhrase : Phrase dialect .expression first)
    (secondPhrase : Phrase dialect .expression second) :
    Phrase dialect .expression (operator.tokens first second) :=
  around (isJoint_symbol operator) firstPhrase secondPhrase

/-- Two written texts, joined. -/
theorem concat (firstPhrase : Phrase dialect .expression first)
    (secondPhrase : Phrase dialect .expression second) :
    Phrase dialect .expression (dialect.concatTokens first second) := by
  have call : Encloses .expression "CONCAT(" ")" :=
    { calm := by decide
      opens := ⟨[.word "CONCAT"], [], by decide, rfl, rfl⟩
      closes := ⟨[], by decide, .nil _⟩
      trails := rfl
      leads := rfl }
  have arguments := (around rfl firstPhrase secondPhrase : Phrase dialect .expression
    (first ++ Token.text ", " :: second)).toQuery
  have called := Phrase.enclosed call arguments
  have last : Tail dialect .expression [.text ""] := ⟨.word rfl, rfl⟩
  have joined : Phrase dialect .expression
      (Token.text "" :: (first ++ Token.text " || " :: (second ++ [Token.text ""]))) :=
    .leading rfl rfl (around rfl firstPhrase (secondPhrase.behind last))
  cases dialect with
  | sqlite => exact joined
  | generic | postgres | mysql => simpa [Dialect.concatTokens, Dialect.concatFrame] using called

/-- A chain.  A single operand stands as it is, and of no operands nothing is written. -/
theorem chain (connective : Connective) {pieces : List (Bool × List Token)}
    (phrases : ∀ piece ∈ pieces, Phrase dialect .expression piece.2) :
    Phrase dialect .expression (connective.tokens pieces) := by
  have operands : Phrase dialect .expression
      (Token.separatedBy (" " ++ connective.operator.symbol ++ " ")
        (pieces.map fun piece => Token.operand piece.1 piece.2)) :=
    separatedBy (isJoint_symbol connective.operator) fun piece mem => by
      obtain ⟨inner, innerMem, rfl⟩ := List.mem_map.1 mem
      exact (phrases inner innerMem).operand inner.1
  unfold Connective.tokens
  split
  · exact phrases _ (List.mem_singleton_self _)
  · exact operands

/-- Membership in a list.  Nothing is in an empty list. -/
theorem membership (negated : Bool) {tested : List Token} {items : List (List Token)}
    (testedPhrase : Phrase dialect .expression tested)
    (itemPhrases : ∀ item ∈ items, Phrase dialect .expression item) :
    Phrase dialect .expression (membershipTokens negated tested items) := by
  unfold membershipTokens
  split
  · exact .single rfl
  · have list : Encloses .expression (if negated then " NOT IN (" else " IN (") ")" := by
      refine ⟨?_, ?_, ⟨[], by decide, .nil _⟩, ?_, rfl⟩
      · cases negated <;> decide
      · cases negated with
        | false => exact ⟨[.word "IN"], [], by decide, rfl, rfl⟩
        | true => exact ⟨[.word "NOT", .word "IN"], [], by decide, rfl, rfl⟩
      · cases negated <;> rfl
    refine testedPhrase.behind ⟨.enclosed list (withCommas itemPhrases).toQuery, ?_⟩
    refine canFollow_text ?_ _
    cases negated <;> rfl

theorem between {tested low high : List Token} (testedPhrase : Phrase dialect .expression tested)
    (lowPhrase : Phrase dialect .expression low) (highPhrase : Phrase dialect .expression high) :
    Phrase dialect .expression
      (tested ++ .text " BETWEEN " :: (low ++ .text " AND " :: high)) :=
  around rfl testedPhrase (around rfl lowPhrase highPhrase)

theorem encloses_aggregate (function : AggregateFunction) (distinct overAll : Bool) :
    Encloses .expression (function.keyword ++ if distinct then "(DISTINCT " else "(")
      (if overAll then ") OVER()" else ")") where
  calm := by cases function <;> cases distinct <;> cases overAll <;> decide
  opens := by
    refine ⟨[.word function.keyword], if distinct then [.word "DISTINCT"] else [], ?_, ?_, ?_⟩
    · cases function <;> cases distinct <;> decide
    · cases function <;> rfl
    · cases distinct <;> rfl
  closes := by
    cases overAll with
    | false => exact ⟨[], by decide, .nil _⟩
    | true =>
        have call : Balanced Level.expression.stops [.word "OVER", .symbol '(', .symbol ')'] :=
          .cons rfl (.group (.nil _) (.nil _))
        exact ⟨_, by decide, call⟩
  trails := by cases function <;> cases distinct <;> decide
  leads := by cases overAll <;> rfl

/-- A call of an aggregate function. -/
theorem aggregate (call : AggregateCall) (phrase : Phrase dialect .expression tokens) :
    Phrase dialect .expression (call.tokens tokens) :=
  .enclosed (encloses_aggregate call.function call.distinct call.overAll) phrase.toQuery

/-- A direction and a place for NULL behind a written expression. -/
theorem sorted (direction : SortDirection) (nulls? : Option NullsOrder)
    (phrase : Phrase dialect .expression tokens) :
    Phrase dialect .expression (sortTokens tokens direction nulls?) := by
  refine phrase.followed ?_ ?_
  · cases direction <;> rcases nulls? with _ | _ | _ <;> decide
  · cases direction <;> rcases nulls? with _ | _ | _ <;> rfl

end Phrase

namespace Tail

/-- A clause that vanishes without entries. -/
theorem listClause {keyword : String} {pieces : List (List Token)}
    (joint : isJoint level.stops keyword = true)
    (phrases : ∀ piece ∈ pieces, Phrase dialect .expression piece) :
    Tail dialect level (listClauseTokens keyword pieces) := by
  cases pieces with
  | nil => exact .nil dialect level
  | cons piece pieces =>
      exact .joint joint ((Phrase.withCommas phrases).weaken level.stops_subset)

/-- A clause that vanishes without its condition. -/
theorem condition {keyword : String} {condition? : Option (List Token)}
    (joint : isJoint level.stops keyword = true)
    (phrases : ∀ condition ∈ condition?, Phrase dialect .expression condition) :
    Tail dialect level (conditionTokens keyword condition?) := by
  cases condition? with
  | none => exact .nil dialect level
  | some condition => exact .joint joint ((phrases condition rfl).weaken level.stops_subset)

/-- Written assignments, as a row. -/
theorem inserted {assigned : List (String × List Token)}
    (phrases : ∀ pair ∈ assigned, Phrase dialect .expression pair.2) :
    Tail dialect .expression (insertedTokens assigned) := by
  unfold insertedTokens
  split
  · exact .text rfl rfl
  · have row : Phrase dialect .expression (Token.withCommas (assigned.map Prod.snd)) :=
      .withCommas fun piece mem => by
        obtain ⟨pair, pairMem, rfl⟩ := List.mem_map.1 mem
        exact phrases pair pairMem
    exact .joint rfl (.around rfl (.columnList _ _) (row.toQuery.parenthesized _))

/-- A union with a written select. -/
theorem union (distinct : Bool) (phrase : Phrase dialect .query tokens) :
    Tail dialect .query (dialect.unionTokens distinct tokens) := by
  refine .joint ?_ phrase
  cases dialect <;> cases distinct <;> rfl

/-- A join to a written table. -/
theorem join (kind : JoinKind) {condition? : Option (List Token)}
    (phrase : Phrase dialect .table tokens)
    (conditions : ∀ condition ∈ condition?, Phrase dialect .expression condition) :
    Tail dialect .table (kind.tokens tokens condition?) := by
  refine .joint ?_ (phrase.behind (.condition rfl conditions))
  cases kind <;> rfl

end Tail

end Shapes

end CheckedSql
