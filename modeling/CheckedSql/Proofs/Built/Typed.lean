import CheckedSql.Proofs.Built.Basic
import CheckedSql.Proofs.Building

/-!
# Types of built expressions

Each call that builds an operator checks the types of its operands, and some keep the
type of the result.  `Expr.IsTyped` says of the outermost node of an expression that it has
passed these checks, and `Expr.isTyped_of_built` that it holds of every built expression.

A chain grows by one operand at a time.  Its first operand was there when it was started,
so it is static.
-/

namespace CheckedSql

/-- The operands of the node have passed the checks of its call, and the node keeps the type that
was found for it. -/
def Expr.IsTyped : Expr → Prop
  | .unary operator operand => operator.accepts operand.type = true
  | .binary operator left right type =>
      operator.connective? = none ∧ operator.resultType left.type right.type = .ok type
  | .concat left right => left.type.isText = true ∧ right.type.isText = true
  | .chain _ operands =>
      (∃ first others, operands = .static first :: others)
        ∧ ∀ operand ∈ operands, operand.value.type.isBoolean = true
  | .within _ tested items => ∀ item ∈ items, tested.type.comparable item.type = true
  | .between tested low high =>
      tested.type.comparable low.type = true ∧ tested.type.comparable high.type = true
  | .cases branches otherwise type =>
      (∀ branch ∈ branches, branch.1.type.isBoolean = true)
        ∧ (∀ result ∈ resultTypes branches otherwise,
          (leadingType (resultTypes branches otherwise)).comparable result = true)
        ∧ type = (leadingType (resultTypes branches otherwise)).optionalIf
          ((resultTypes branches otherwise).any ValueType.isOptional)
  | .aggregate call none => call.function = .count
  | .aggregate call (some argument) => aggregateAccepts call.function argument.type = true
  | .subquery select => select.fields.length = 1
  | .column _ | .value _ | .parameter _ | .groupKey _ | .existsIn _ => True

namespace Expr

theorem isBoolean_of_resultType {connective : Connective} {left right type : ValueType}
    (typed : connective.operator.resultType left right = .ok type) :
    left.isBoolean = true ∧ right.isBoolean = true := by
  rw [← Bool.and_eq_true]
  cases connective <;>
    simp only [Connective.operator, Operator.resultType, Operator.family] at typed <;>
    split at typed <;> first | assumption | cases typed

/-- A chain of typed operands is typed. -/
theorem isTyped_chained {connective : Connective} {left : Expr} {right : Entry Expr}
    (leftTyped : left.IsTyped) (leftBoolean : left.type.isBoolean = true)
    (rightBoolean : right.value.type.isBoolean = true) :
    (chained connective left right).IsTyped := by
  obtain ⟨operands, same, old⟩ := exists_chained connective left right
  rw [same]
  rcases old with rfl | rfl
  · obtain ⟨⟨first, others, rfl⟩, booleans⟩ := leftTyped
    refine ⟨⟨first, others ++ [right], rfl⟩, ?_⟩
    exact List.forall_mem_append.2 ⟨booleans, List.forall_mem_singleton.2 rightBoolean⟩
  · refine ⟨⟨left, [right], rfl⟩, ?_⟩
    exact List.forall_mem_cons.2 ⟨leftBoolean, List.forall_mem_singleton.2 rightBoolean⟩

/-- `AND` and `OR` check both sides. -/
theorem isTyped_of_mkChain {connective : Connective} {left expr : Expr} {right : Entry Expr}
    (made : mkChain connective left right = .ok expr) (leftTyped : left.IsTyped) :
    expr.IsTyped := by
  obtain ⟨⟨type, typed⟩, rfl⟩ := mkChain_eq_ok.1 made
  obtain ⟨leftBoolean, rightBoolean⟩ := isBoolean_of_resultType typed
  exact isTyped_chained leftTyped leftBoolean rightBoolean

/-- What a call returns is typed if the expressions it is given are. -/
theorem MadeFrom.isTyped {arguments : List Part} {expr : Expr} (made : MadeFrom arguments expr)
    (given : ∀ inner, .expr inner ∈ arguments → inner.IsTyped) : expr.IsTyped := by
  cases made with
  | column | value | parameter | existsIn => trivial
  | unary made =>
      obtain ⟨accepted, rfl⟩ := mkUnary_eq_ok.1 made
      exact accepted
  | binary made =>
      rcases mkBinary_eq_ok made with
        ⟨connective, -, chainMade⟩ | ⟨-, texts, rfl⟩ | ⟨notChain, -, type, typed, rfl⟩
      · exact isTyped_of_mkChain chainMade (given _ (.head _))
      · simp only [joinsTexts, Bool.and_eq_true] at texts
        exact texts.1
      · exact ⟨notChain, typed⟩
  | chain made => exact isTyped_of_mkChain made (given _ (.head _))
  | within made =>
      obtain ⟨comparable, rfl⟩ := mkWithin_eq_ok.1 made
      exact comparable
  | between made =>
      obtain ⟨low, high, rfl⟩ := mkBetween_eq_ok.1 made
      exact ⟨low, high⟩
  | cases made =>
      obtain ⟨conditions, results, rfl⟩ := mkCases_eq_ok.1 made
      exact ⟨conditions, results, rfl⟩
  | aggregate made =>
      obtain ⟨-, accepted, rfl⟩ := mkAggregate_eq_ok.1 made
      exact accepted
  | countAll => rfl
  | overAll made =>
      obtain ⟨call, argument?, rfl, rfl⟩ := mkOver_eq_ok.1 made
      have inner := given _ (.head _)
      cases argument? <;> exact inner
  | groupKey made =>
      obtain ⟨-, rfl⟩ := mkGroupKey_eq_ok.1 made
      trivial
  | subquery made =>
      obtain ⟨single, rfl⟩ := mkSubquery_eq_ok.1 made
      exact single

theorem isTyped_of_built {expr : Expr} (built : (Part.expr expr).Built) : expr.IsTyped :=
  built_induction MadeFrom.isTyped built

/-- Some operand of a built chain is active. -/
theorem activeValues_ne_nil_of_isTyped {connective : Connective} {operands : List (Entry Expr)}
    (typed : (Expr.chain connective operands).IsTyped) : activeValues operands ≠ [] := by
  obtain ⟨⟨first, others, rfl⟩, -⟩ := typed
  rw [activeValues_cons]
  exact List.cons_ne_nil _ _

end Expr

end CheckedSql
