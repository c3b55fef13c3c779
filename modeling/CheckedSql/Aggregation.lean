import CheckedSql.OrderedSet
import CheckedSql.Syntax.Equality

/-!
# Aggregation

A statement with an aggregate function gives one row per group, so what it
selects must be the same for all rows of a group.

Without `GROUP BY` all rows are one group.  `Expr.aggregateKind` sorts
expressions into those that fit such a statement, those that fit a plain one,
and those that fit either way or no way.  With `GROUP BY`, an expression must
read aggregate functions, constants and the grouped expressions only.  That is
`Expr.isAggregateOver`.

All these rules look at an expression and at the results for its children.
`Expr.summarize` is that recursion.  A select inside an expression is a scope
of its own, and its expressions are no children.
-/

namespace CheckedSql

/-! ## Children -/

/-- The immediate sub-expressions in the same scope. -/
def Expr.children : Expr → List Expr
  | .column _ | .value _ | .parameter _ | .existsIn _ | .subquery _ => []
  | .unary _ operand => [operand]
  | .binary _ left right _ => [left, right]
  | .concat left right => [left, right]
  | .chain _ operands => operands.map Entry.value
  | .within _ tested items => tested :: items
  | .between tested low high => [tested, low, high]
  | .cases branches otherwise _ =>
      branches.flatMap (fun branch => [branch.1, branch.2]) ++ [otherwise]
  | .aggregate _ argument? => argument?.toList
  | .groupKey inner => [inner]

mutual

/-- The result of `step` for an expression, given the results for its children. -/
def Expr.summarize {α : Type} (step : Expr → List α → α) : Expr → α
  | .column c => step (.column c) []
  | .value v => step (.value v) []
  | .parameter p => step (.parameter p) []
  | .unary operator operand => step (.unary operator operand) [Expr.summarize step operand]
  | .binary operator left right type =>
      step (.binary operator left right type) [Expr.summarize step left, Expr.summarize step right]
  | .concat left right =>
      step (.concat left right) [Expr.summarize step left, Expr.summarize step right]
  | .chain connective operands =>
      step (.chain connective operands) (Expr.summarizeEntries step operands)
  | .within negated tested items =>
      step (.within negated tested items)
        (Expr.summarize step tested :: Expr.summarizeList step items)
  | .between tested low high =>
      step (.between tested low high)
        [Expr.summarize step tested, Expr.summarize step low, Expr.summarize step high]
  | .cases branches otherwise type =>
      step (.cases branches otherwise type)
        (Expr.summarizeBranches step branches ++ [Expr.summarize step otherwise])
  | .aggregate call none => step (.aggregate call none) []
  | .aggregate call (some argument) =>
      step (.aggregate call (some argument)) [Expr.summarize step argument]
  | .groupKey inner => step (.groupKey inner) [Expr.summarize step inner]
  | .existsIn select => step (.existsIn select) []
  | .subquery select => step (.subquery select) []

/-- The results for a list of expressions. -/
def Expr.summarizeList {α : Type} (step : Expr → List α → α) : List Expr → List α
  | [] => []
  | expr :: exprs => Expr.summarize step expr :: Expr.summarizeList step exprs

/-- The results for the operands of a chain. -/
def Expr.summarizeEntries {α : Type} (step : Expr → List α → α) : List (Entry Expr) → List α
  | [] => []
  | ⟨_, expr⟩ :: entries => Expr.summarize step expr :: Expr.summarizeEntries step entries

/-- The results for the conditions and results of a `CASE`. -/
def Expr.summarizeBranches {α : Type} (step : Expr → List α → α) : List (Expr × Expr) → List α
  | [] => []
  | (condition, result) :: branches =>
      Expr.summarize step condition :: Expr.summarize step result
        :: Expr.summarizeBranches step branches

end

theorem Expr.summarizeList_eq {α : Type} (step : Expr → List α → α) (exprs : List Expr) :
    Expr.summarizeList step exprs = exprs.map (Expr.summarize step) := by
  induction exprs with
  | nil => rfl
  | cons expr exprs ih => simp [Expr.summarizeList, ih]

theorem Expr.summarizeEntries_eq {α : Type} (step : Expr → List α → α)
    (entries : List (Entry Expr)) :
    Expr.summarizeEntries step entries
      = entries.map fun entry => Expr.summarize step entry.value := by
  induction entries with
  | nil => rfl
  | cons entry entries ih => simp [Expr.summarizeEntries, ih]

theorem Expr.summarizeBranches_eq {α : Type} (step : Expr → List α → α)
    (branches : List (Expr × Expr)) :
    Expr.summarizeBranches step branches
      = (branches.flatMap fun branch => [branch.1, branch.2]).map (Expr.summarize step) := by
  induction branches with
  | nil => rfl
  | cons branch branches ih => simp [Expr.summarizeBranches, ih]

/-- A summary is one step over the summaries of the children. -/
theorem Expr.summarize_eq {α : Type} (step : Expr → List α → α) (expr : Expr) :
    expr.summarize step = step expr (expr.children.map (Expr.summarize step)) := by
  cases expr with
  | aggregate call argument? => cases argument? <;> simp [Expr.summarize, Expr.children]
  | _ =>
    simp [Expr.summarize, Expr.children, Expr.summarizeList_eq, Expr.summarizeEntries_eq,
      Expr.summarizeBranches_eq, Function.comp_def]

/-! ## Kinds -/

/-- How an expression relates to aggregation when all rows are one group. -/
inductive AggregateKind where
  /-- Literals and parameters fit either way. -/
  | neutral
  | aggregate
  | nonAggregate
  | mixed
  deriving DecidableEq, Repr

/-- The name of a kind. -/
def AggregateKind.name : AggregateKind → String
  | neutral => "neutral"
  | aggregate => "aggregate"
  | nonAggregate => "non_aggregate"
  | mixed => "mixed"

/-- The kind of an expression with parts of two kinds. -/
def AggregateKind.combine : AggregateKind → AggregateKind → AggregateKind
  | neutral, kind => kind
  | kind, neutral => kind
  | aggregate, aggregate => aggregate
  | nonAggregate, nonAggregate => nonAggregate
  | _, _ => mixed

namespace Expr

/-- Whether an aggregate function occurs. -/
def containsAggregate : Expr → Bool :=
  summarize fun expr children =>
    match expr with
    | .aggregate _ _ => true
    | _ => children.any id

/-- The kind of an expression. -/
def aggregateKind : Expr → AggregateKind :=
  summarize fun expr children =>
    match expr with
    | .value _ | .parameter _ | .existsIn _ | .subquery _ => .neutral
    | .aggregate _ _ => .aggregate
    | .column _ | .groupKey _ => .nonAggregate
    | _ => children.foldl .combine .neutral

/-- Whether an expression reads nothing but aggregate functions, constants and the `known`
expressions. -/
def isAggregateOver (known : OrderedSet Expr) : Expr → Bool :=
  summarize fun expr children =>
    known.contains expr ||
      match expr with
      | .value _ | .parameter _ | .aggregate _ _ | .existsIn _ | .subquery _ => true
      | .column _ | .groupKey _ => false
      | _ => children.all id

/-- The name a result column takes from its expression. -/
def implicitName? : Expr → Option String
  | .column c => some c.name
  | .groupKey inner => inner.implicitName?
  | .aggregate call _ => some call.function.name
  | _ => none

end Expr

end CheckedSql
