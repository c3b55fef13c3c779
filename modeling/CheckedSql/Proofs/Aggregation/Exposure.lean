import CheckedSql.Building.Clause
import CheckedSql.Proofs.Part

/-!
# What the row of an expression shows

An expression over a group may read any row of it.  What it reads in an aggregate function
is the same for all rows, and so is what it reads in an expression that the rows are grouped
by.  All else is *exposed*: `Expr.Exposes known expr inner` says that `inner` stands in `expr`
outside the aggregate functions and outside the `known` expressions.  A select in an expression
is exposed as a whole.

The two tests of expressions are read in these terms.  An expression is an aggregate over
grouped expressions exactly if everything it exposes that could be a `GROUP BY` entry is one
(`Expr.isAggregateOver_iff`).  Without `GROUP BY`, nothing is known, and the kind says the same
(`Expr.fitsGroup_aggregateKind`).
-/

namespace CheckedSql

/-! ## Kinds -/

namespace AggregateKind

/-- Whether expressions of the kind have one value when all rows are one group. -/
def fitsGroup : AggregateKind → Bool
  | neutral | aggregate => true
  | nonAggregate | mixed => false

/-- Whether expressions of the kind call an aggregate function. -/
def callsAggregate : AggregateKind → Bool
  | aggregate | mixed => true
  | neutral | nonAggregate => false

theorem fitsGroup_combine (left right : AggregateKind) :
    (left.combine right).fitsGroup = (left.fitsGroup && right.fitsGroup) := by
  cases left <;> cases right <;> rfl

theorem callsAggregate_combine (left right : AggregateKind) :
    (left.combine right).callsAggregate = (left.callsAggregate || right.callsAggregate) := by
  cases left <;> cases right <;> rfl

/-- What is combined fits a group if all of it does. -/
theorem fitsGroup_foldl (kinds : List AggregateKind) (first : AggregateKind) :
    (kinds.foldl combine first).fitsGroup = (first.fitsGroup && kinds.all fitsGroup) := by
  induction kinds generalizing first with
  | nil => simp
  | cons kind kinds ih => rw [List.foldl_cons, ih, fitsGroup_combine, List.all_cons, Bool.and_assoc]

/-- What is combined calls an aggregate function if some of it does. -/
theorem callsAggregate_foldl (kinds : List AggregateKind) (first : AggregateKind) :
    (kinds.foldl combine first).callsAggregate
      = (first.callsAggregate || kinds.any callsAggregate) := by
  induction kinds generalizing first with
  | nil => simp
  | cons kind kinds ih =>
      rw [List.foldl_cons, ih, callsAggregate_combine, List.any_cons, Bool.or_assoc]

/-- A kind that calls an aggregate function and is not mixed fits a group. -/
theorem fitsGroup_of_callsAggregate {kind : AggregateKind} (calls : kind.callsAggregate = true)
    (notMixed : kind ≠ .mixed) : kind.fitsGroup = true := by
  cases kind with
  | aggregate => rfl
  | mixed => exact absurd rfl notMixed
  | neutral | nonAggregate => cases calls

theorem fitsGroup_iff {kind : AggregateKind} :
    kind.fitsGroup = true ↔ kind = .neutral ∨ kind = .aggregate := by
  cases kind <;> simp [fitsGroup]

theorem callsAggregate_iff {kind : AggregateKind} :
    kind.callsAggregate = true ↔ kind = .aggregate ∨ kind = .mixed := by
  cases kind <;> simp [callsAggregate]

theorem callsAggregate_eq_false_iff {kind : AggregateKind} :
    kind.callsAggregate = false ↔ kind = .neutral ∨ kind = .nonAggregate := by
  cases kind <;> simp [callsAggregate]

end AggregateKind

namespace Expr

/-! ## One step of the tests -/

/-- Whether the expression is a call of an aggregate function. -/
def isAggregate : Expr → Bool
  | .aggregate _ _ => true
  | _ => false

theorem isAggregateOver_eq (known : OrderedSet Expr) (expr : Expr) :
    expr.isAggregateOver known
      = (known.contains expr || (expr.isAggregate
        || (!expr.isGroupEntry && expr.children.all (isAggregateOver known)))) := by
  rw [isAggregateOver, summarize_eq]
  cases expr <;> simp [isAggregate, isGroupEntry, children, Function.comp_def]

theorem aggregateKind_eq (expr : Expr) :
    expr.aggregateKind
      = if expr.isAggregate then .aggregate
        else if expr.isGroupEntry then .nonAggregate
        else (expr.children.map aggregateKind).foldl .combine .neutral := by
  rw [aggregateKind, summarize_eq]
  cases expr <;> simp [isAggregate, isGroupEntry, children]

theorem containsAggregate_eq (expr : Expr) :
    expr.containsAggregate = (expr.isAggregate || expr.children.any containsAggregate) := by
  rw [containsAggregate, summarize_eq]
  cases expr <;> simp [isAggregate, children, Function.comp_def]

/-! ## Exposed expressions -/

/-- The inner expression stands in the outer one outside the aggregate functions and outside the
known expressions. -/
inductive Exposes (known : OrderedSet Expr) : Expr → Expr → Prop where
  | self {expr : Expr} : known.contains expr = false → Exposes known expr expr
  | child {expr child inner : Expr} :
      known.contains expr = false → expr.isAggregate = false → child ∈ expr.children →
      Exposes known child inner → Exposes known expr inner

/-- What is exposed stands in the expression. -/
theorem Exposes.contains {known : OrderedSet Expr} {expr inner : Expr}
    (exposes : Exposes known expr inner) : (Part.expr expr).Contains (.expr inner) := by
  induction exposes with
  | self => exact .refl
  | child _ _ mem _ ih => exact .head (List.mem_append_left _ (List.mem_map_of_mem mem)) ih

/-- An expression is an aggregate over known expressions exactly if it exposes nothing that could be
an entry of `GROUP BY`. -/
theorem isAggregateOver_iff {known : OrderedSet Expr} {expr : Expr} :
    expr.isAggregateOver known = true
      ↔ ∀ inner, Exposes known expr inner → inner.isGroupEntry = false := by
  rw [isAggregateOver_eq]
  cases isKnown : known.contains expr with
  | true =>
      simp only [Bool.true_or, true_iff]
      intro inner exposes
      cases exposes with
      | self unknown | child unknown => rw [isKnown] at unknown; cases unknown
  | false =>
      cases isCall : expr.isAggregate with
      | true =>
          simp only [Bool.true_or, Bool.or_true, true_iff]
          intro inner exposes
          cases exposes with
          | self => cases expr <;> first | rfl | cases isCall
          | child _ notCall => rw [isCall] at notCall; cases notCall
      | false =>
          have each (child : Expr) (mem : child ∈ expr.children) :
              child.isAggregateOver known = true
                ↔ ∀ inner, Exposes known child inner → inner.isGroupEntry = false :=
            isAggregateOver_iff
          rw [Bool.false_or, Bool.false_or, Bool.and_eq_true, Bool.not_eq_true', List.all_eq_true]
          constructor
          · rintro ⟨notEntry, children⟩ inner exposes
            cases exposes with
            | self => exact notEntry
            | child _ _ mem exposed => exact (each _ mem).1 (children _ mem) inner exposed
          · intro plain
            refine ⟨plain expr (.self isKnown), fun child mem => (each child mem).2 ?_⟩
            intro inner exposed
            exact plain inner (.child isKnown isCall mem exposed)
termination_by sizeOf expr
decreasing_by exact sizeOf_lt_of_mem_children mem

/-- With nothing known, the kind says whether an expression is an aggregate. -/
theorem fitsGroup_aggregateKind (expr : Expr) :
    expr.aggregateKind.fitsGroup = expr.isAggregateOver ∅ := by
  rw [isAggregateOver_eq, aggregateKind_eq, OrderedSet.contains_empty, Bool.false_or]
  cases expr.isAggregate with
  | true => rfl
  | false =>
      cases expr.isGroupEntry with
      | true => rfl
      | false =>
          have each (child : Expr) (mem : child ∈ expr.children) :
              child.aggregateKind.fitsGroup = child.isAggregateOver ∅ :=
            fitsGroup_aggregateKind child
          have same : (expr.children.all fun child => child.aggregateKind.fitsGroup)
              = expr.children.all (isAggregateOver ∅) := by
            rw [Bool.eq_iff_iff, List.all_eq_true, List.all_eq_true]
            exact forall₂_congr fun child mem => by rw [each child mem]
          rw [if_neg Bool.false_ne_true, if_neg Bool.false_ne_true, AggregateKind.fitsGroup_foldl,
            List.all_map]
          exact same
termination_by sizeOf expr
decreasing_by exact sizeOf_lt_of_mem_children mem

/-- An expression whose kind fits a group exposes no column. -/
theorem not_exposes_column {expr : Expr} (fits : expr.aggregateKind.fitsGroup = true)
    (column : Column) : ¬ Exposes ∅ expr (.column column) := by
  rw [fitsGroup_aggregateKind, isAggregateOver_iff] at fits
  intro exposes
  exact absurd (fits _ exposes) nofun

end Expr

end CheckedSql
