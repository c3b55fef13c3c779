import CheckedSql.Proofs.Aggregation.SingleGroup
import CheckedSql.Proofs.Reflexivity

/-!
# How the tests of expressions agree

Three recursions tell expressions apart by their aggregate functions: the kind, the test for a
call, and the test over known expressions.  Each clause trusts one of them.  They agree on every
built expression (`Expr.classifiers_agree`): the kind alone answers the test for a call, and it
answers the test over known expressions when nothing is known.

The last test is also meant to be compositional.  It accepts what is known and, for what calls
build, it asks the children.  One call breaks the tie between the two: `AND` and `OR` go on with a
chain of their operator instead of nesting it, so the known chain is no child of the result, and
its operands are asked instead (`Expr.continued_chain_not_over`).  In a `GROUP BY` clause, chains
are never known, since its entries are columns and declared entries.
-/

namespace CheckedSql

namespace Expr

variable {known larger : OrderedSet Expr} {expr : Expr}

/-! ## Known expressions -/

/-- What is known is accepted. -/
theorem isAggregateOver_of_contains (isKnown : known.contains expr = true) :
    expr.isAggregateOver known = true := by
  rw [isAggregateOver_eq, isKnown, Bool.true_or]

/-- A set contains its members, unless a NaN stands in them. -/
theorem contains_of_mem (mem : expr ∈ known.toList) (free : (Part.expr expr).NanFree) :
    known.contains expr = true := by
  have same : Expr.beq expr expr = true := free.equalsItself
  exact List.any_eq_true.2 ⟨expr, mem, same⟩

section Larger

variable (included : ∀ other, known.contains other = true → larger.contains other = true)

include included

/-- The more is known, the less is exposed. -/
theorem Exposes.of_larger {inner : Expr} (exposes : Exposes larger expr inner) :
    Exposes known expr inner := by
  have unknown {other : Expr} (isNew : larger.contains other = false) :
      known.contains other = false := by
    rw [← Bool.not_eq_true] at isNew ⊢
    exact fun isKnown => isNew (included other isKnown)
  induction exposes with
  | self isNew => exact .self (unknown isNew)
  | child isNew notCall mem _ ih => exact .child (unknown isNew) notCall mem ih

/-- What is an aggregate over some expressions is one over more expressions. -/
theorem isAggregateOver_mono (accepted : expr.isAggregateOver known = true) :
    expr.isAggregateOver larger = true := by
  rw [isAggregateOver_iff] at accepted ⊢
  exact fun inner exposes => accepted inner (exposes.of_larger included)

end Larger

/-- An expression that could be a `GROUP BY` entry equals no other kind of expression. -/
theorem isGroupEntry_of_beq {entry : Expr} (isEntry : entry.isGroupEntry = true)
    (same : Expr.beq entry expr = true) : expr.isGroupEntry = true := by
  cases entry with
  | column | groupKey => cases expr <;> first | rfl | cases same
  | _ => cases isEntry

/-! ## Calls -/

/-- An expression that is no `GROUP BY` entry is accepted if its children are. -/
theorem isAggregateOver_of_children (notEntry : expr.isGroupEntry = false)
    (children : ∀ child ∈ expr.children, child.isAggregateOver known = true) :
    expr.isAggregateOver known = true := by
  simp [isAggregateOver_eq, notEntry, List.all_eq_true.2 children]

theorem isAggregateOver_aggregate {call : AggregateCall} {argument? : Option Expr} :
    (aggregate call argument?).isAggregateOver known = true := by
  simp [isAggregateOver_eq, isAggregate]

/-- The expression is the chain `left` with more operands. -/
def Extends (expr left : Expr) : Prop :=
  ∃ connective operands more,
    left = chain connective operands ∧ expr = chain connective (operands ++ more)

/-- An accepted chain that is not known has accepted operands. -/
theorem isAggregateOver_of_mem_operands {connective : Connective} {operands : List (Entry Expr)}
    (accepted : (chain connective operands).isAggregateOver known = true)
    (isNew : known.contains (chain connective operands) = false) :
    ∀ child ∈ (chain connective operands).children, child.isAggregateOver known = true := by
  rw [isAggregateOver_eq, isNew] at accepted
  exact List.all_eq_true.1 accepted

/-- `AND` and `OR` keep what is accepted, if the operands of a known chain that they extend are
accepted. -/
theorem isAggregateOver_chained {connective : Connective} {left : Expr} {right : Entry Expr}
    (leftOver : left.isAggregateOver known = true)
    (rightOver : right.value.isAggregateOver known = true)
    (extended : (chained connective left right).Extends left → known.contains left = true →
      ∀ child ∈ left.children, child.isAggregateOver known = true) :
    (chained connective left right).isAggregateOver known = true := by
  obtain ⟨operands, same, old⟩ := exists_chained connective left right
  rw [same] at extended ⊢
  refine isAggregateOver_of_children rfl ?_
  rw [children, List.map_append, List.forall_mem_append, List.map_singleton,
    List.forall_mem_singleton]
  refine ⟨?_, rightOver⟩
  rcases old with rfl | rfl
  · cases isKnown : known.contains (chain connective operands) with
    | true => exact extended ⟨_, _, _, rfl, rfl⟩ isKnown
    | false => exact isAggregateOver_of_mem_operands leftOver isKnown
  · exact List.forall_mem_singleton.2 leftOver

/-- A call that does not make a `GROUP BY` entry keeps what is accepted, if the operands of a known
chain that it extends are accepted. -/
theorem MadeFrom.isAggregateOver {arguments : List Part} (made : MadeFrom arguments expr)
    (notEntry : expr.isGroupEntry = false)
    (given : ∀ inner, .expr inner ∈ arguments → inner.isAggregateOver known = true)
    (extended : ∀ left, .expr left ∈ arguments → expr.Extends left →
      known.contains left = true → ∀ child ∈ left.children, child.isAggregateOver known = true) :
    expr.isAggregateOver known = true := by
  cases made with
  | column => cases notEntry
  | value | parameter | existsIn => exact isAggregateOver_of_children rfl (by simp [children])
  | unary made =>
      obtain ⟨-, rfl⟩ := mkUnary_eq_ok.1 made
      refine isAggregateOver_of_children rfl ?_
      simpa [children] using given
  | binary made =>
      rcases mkBinary_eq_ok made with
        ⟨connective, -, chainMade⟩ | ⟨-, -, rfl⟩ | ⟨-, -, type, -, rfl⟩
      · obtain ⟨-, rfl⟩ := mkChain_eq_ok.1 chainMade
        exact isAggregateOver_chained (given _ (.head _)) (given _ (.tail _ (.head _)))
          (extended _ (.head _))
      all_goals
        refine isAggregateOver_of_children rfl ?_
        simpa [children] using given
  | chain made =>
      obtain ⟨-, rfl⟩ := mkChain_eq_ok.1 made
      exact isAggregateOver_chained (given _ (.head _)) (given _ (.tail _ (.head _)))
        (extended _ (.head _))
  | within made =>
      obtain ⟨-, rfl⟩ := mkWithin_eq_ok.1 made
      exact isAggregateOver_of_children rfl fun child mem => given child (List.mem_map_of_mem mem)
  | between made =>
      obtain ⟨-, -, rfl⟩ := mkBetween_eq_ok.1 made
      refine isAggregateOver_of_children rfl ?_
      simpa [children] using given
  | cases made =>
      obtain ⟨-, -, rfl⟩ := mkCases_eq_ok.1 made
      refine isAggregateOver_of_children rfl fun child mem => given child ?_
      simpa [children] using mem
  | aggregate made =>
      obtain ⟨-, -, rfl⟩ := mkAggregate_eq_ok.1 made
      exact isAggregateOver_aggregate
  | countAll => exact isAggregateOver_aggregate
  | overAll made =>
      obtain ⟨call, argument?, rfl, rfl⟩ := mkOver_eq_ok.1 made
      exact isAggregateOver_aggregate
  | groupKey made =>
      obtain ⟨-, rfl⟩ := mkGroupKey_eq_ok.1 made
      cases notEntry
  | subquery made =>
      obtain ⟨-, rfl⟩ := mkSubquery_eq_ok.1 made
      exact isAggregateOver_of_children rfl (by simp [children])

/-- No chain that a call extends is known where the known expressions could be `GROUP BY`
entries. -/
theorem Extends.not_known {left : Expr} (extension : expr.Extends left)
    (entries : ∀ entry ∈ known.toList, entry.isGroupEntry = true) :
    ¬ known.contains left = true := by
  obtain ⟨connective, operands, more, rfl, rfl⟩ := extension
  intro isKnown
  obtain ⟨entry, mem, same⟩ := List.any_eq_true.1 isKnown
  cases isGroupEntry_of_beq (entries entry mem) same

/-! ## The three tests -/

/-- The tests of a built expression agree.  Its kind says whether it is an aggregate over nothing,
and whether it calls an aggregate function.  An aggregate over some expressions is one over more,
an expression without a NaN is one over every set that it is a member of, and so is every result of
a call whose arguments are, declared `GROUP BY` entries and columns apart.  That last rule needs
more for `AND` and `OR` with a known chain on the left: the operands of the chain must be aggregates
as well, unless all known expressions could be `GROUP BY` entries. -/
theorem classifiers_agree (built : (Part.expr expr).Built) :
    (expr.isAggregateOver ∅ = true
        ↔ expr.aggregateKind = .neutral ∨ expr.aggregateKind = .aggregate)
      ∧ (expr.containsAggregate = true
        ↔ expr.aggregateKind = .aggregate ∨ expr.aggregateKind = .mixed)
      ∧ ∀ known : OrderedSet Expr,
        (∀ larger : OrderedSet Expr,
          (∀ other, known.contains other = true → larger.contains other = true) →
          expr.isAggregateOver known = true → expr.isAggregateOver larger = true)
        ∧ (expr ∈ known.toList → (Part.expr expr).NanFree → expr.isAggregateOver known = true)
        ∧ ∀ arguments, expr.MadeFrom arguments → expr.isGroupEntry = false →
          (∀ inner, .expr inner ∈ arguments → inner.isAggregateOver known = true) →
          ((∀ left, .expr left ∈ arguments → expr.Extends left → known.contains left = true →
              ∀ child ∈ left.children, child.isAggregateOver known = true)
            ∨ ∀ entry ∈ known.toList, entry.isGroupEntry = true) →
          expr.isAggregateOver known = true := by
  refine ⟨?_, ?_, fun known => ⟨?_, ?_, ?_⟩⟩
  · rw [← fitsGroup_aggregateKind, AggregateKind.fitsGroup_iff]
  · rw [← callsAggregate_aggregateKind built, AggregateKind.callsAggregate_iff]
  · exact fun larger included accepted => isAggregateOver_mono included accepted
  · exact fun mem free => isAggregateOver_of_contains (contains_of_mem mem free)
  · rintro arguments made notEntry given (extended | entries)
    · exact made.isAggregateOver notEntry given extended
    · refine made.isAggregateOver notEntry given fun left mem extension isKnown => ?_
      exact absurd isKnown (extension.not_known entries)

/-- The condition `foo.id = foo.id AND foo.id = foo.id`. -/
def sameIdTwice : Expr :=
  .chain .and [.static (.sameId "foo" "foo"), .static (.sameId "foo" "foo")]

/-- The condition with `AND TRUE` behind it. -/
def sameIdTwiceAndTrue : Expr :=
  .chain .and [.static (.sameId "foo" "foo"), .static (.sameId "foo" "foo"),
    .static (.value (.bool true))]

theorem sameIdTwice_made :
    MadeFrom [.expr (.sameId "foo" "foo"), .expr (.sameId "foo" "foo")] sameIdTwice := by
  have connected : mkBinary .and (.sameId "foo" "foo") (.sameId "foo" "foo")
      = .ok sameIdTwice := rfl
  exact .binary connected

theorem sameIdTwice_built : (Part.expr sameIdTwice).Built :=
  .of_pair sameIdTwice_made (sameId_built "foo" "foo") (sameId_built "foo" "foo")

theorem sameIdTwiceAndTrue_made :
    MadeFrom [.expr sameIdTwice, .expr (.value (.bool true))] sameIdTwiceAndTrue := by
  have connected : mkBinary .and sameIdTwice (.value (.bool true)) = .ok sameIdTwiceAndTrue := rfl
  exact .binary connected

theorem sameId_nanFree (left right : String) : (Part.expr (.sameId left right)).NanFree := by
  have column (name : String) : (Part.column (.ofId name)).NanFree := .of_leaf (by simp) rfl
  refine .of_children (by simp [sameId]) ?_
  simp [Part.children, parts, children, select?, sameId, column]

theorem sameIdTwice_nanFree : (Part.expr sameIdTwice).NanFree := by
  refine .of_children (by simp [sameIdTwice]) ?_
  simp [Part.children, parts, children, select?, sameIdTwice, Entry.static, sameId_nanFree]

theorem sameIdTwice_over :
    (sameIdTwice.aggregateKind = .nonAggregate ∧ sameIdTwice.isAggregateOver ∅ = false)
      ∧ sameIdTwice.isAggregateOver (.singleton (.column (.ofId "foo"))) = true
      ∧ sameIdTwice.isAggregateOver (.singleton sameIdTwice) = true := by
  obtain ⟨overNothing, -, overKnown⟩ := classifiers_agree sameIdTwice_built
  have kind : sameIdTwice.aggregateKind = .nonAggregate := rfl
  refine ⟨⟨kind, ?_⟩, ?_, ?_⟩
  · rw [← Bool.not_eq_true, overNothing, kind]
    rintro (same | same) <;> cases same
  · refine (overKnown _).2.2 _ sameIdTwice_made rfl ?_ (.inr (List.forall_mem_singleton.2 rfl))
    intro inner mem
    have isSameId : inner = .sameId "foo" "foo" := by simpa using mem
    rw [isSameId]
    decide
  · exact (overKnown _).2.1 (.head _) sameIdTwice_nanFree

theorem continued_chain_not_over :
    sameIdTwice.isAggregateOver (.singleton sameIdTwice) = true
      ∧ (Expr.value (.bool true)).isAggregateOver (.singleton sameIdTwice) = true
      ∧ mkBinary .and sameIdTwice (.value (.bool true)) = .ok sameIdTwiceAndTrue
      ∧ (Part.expr sameIdTwiceAndTrue).Built
      ∧ (Part.expr sameIdTwice).NanFree ∧ (Part.expr sameIdTwiceAndTrue).NanFree
      ∧ sameIdTwiceAndTrue.isAggregateOver (.singleton sameIdTwice) = false := by
  have literal : (Part.expr (.value (.bool true))).NanFree := .of_leaf (by simp) rfl
  refine ⟨by decide, by decide, rfl, ?_, sameIdTwice_nanFree, ?_, by decide⟩
  · exact .of_pair sameIdTwiceAndTrue_made sameIdTwice_built (.made (.value _) (by simp))
  · refine .of_children (by simp [sameIdTwiceAndTrue]) ?_
    simp [Part.children, parts, children, select?, sameIdTwiceAndTrue, Entry.static,
      sameId_nanFree, literal]

end Expr

end CheckedSql
