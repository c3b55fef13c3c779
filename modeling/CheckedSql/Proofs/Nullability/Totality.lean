import CheckedSql.Proofs.Nullability.Evaluation
import CheckedSql.Proofs.Writing.Placeholder

/-!
# Expressions that come to something

`Expr.Yields` is a relation, and what it says of all outcomes of an expression would say
nothing of an expression without any.  There is no such expression: if each parameter in
what is written of an expression has a value, the expression comes to something
(`Expr.exists_yields`), which may be a failure.
-/

namespace CheckedSql

namespace Expr

variable {Datum : Type} {engine : Engine Datum} {env : Environment Datum}

theorem exists_yieldAll {exprs : List Expr}
    (each : ∀ expr ∈ exprs, ∃ outcome, expr.Yields engine env outcome) :
    ∃ outcomes, YieldAll engine env exprs outcomes := by
  induction exprs with
  | nil => exact ⟨[], rfl⟩
  | cons expr exprs ih =>
      rw [List.forall_mem_cons] at each
      obtain ⟨⟨first, firstYields⟩, each⟩ := each
      obtain ⟨others, othersYield⟩ := ih each
      exact ⟨_, first, others, firstYields, othersYield, rfl⟩

theorem exists_yieldActive {entries : List (Entry Expr)}
    (each : ∀ expr ∈ activeValues entries, ∃ outcome, expr.Yields engine env outcome) :
    ∃ outcomes, YieldActive engine env entries outcomes := by
  induction entries with
  | nil => exact ⟨[], rfl⟩
  | cons entry entries ih =>
      obtain ⟨presence, expr⟩ := entry
      rw [activeValues_cons] at each
      unfold YieldActive
      split at each
      · next active =>
          rw [List.forall_mem_cons] at each
          obtain ⟨⟨first, firstYields⟩, each⟩ := each
          obtain ⟨others, othersYield⟩ := ih each
          exact ⟨_, (if_pos active).mpr ⟨first, others, firstYields, othersYield, rfl⟩⟩
      · next inactive =>
          obtain ⟨others, othersYield⟩ := ih each
          exact ⟨others, (if_neg inactive).mpr othersYield⟩

theorem exists_yieldBranch {branches : List (Expr × Expr)} {otherwise : Outcome Datum → Prop}
    (each : ∀ branch ∈ branches, (∃ outcome, branch.1.Yields engine env outcome)
      ∧ ∃ outcome, branch.2.Yields engine env outcome)
    (last : ∃ outcome, otherwise outcome) :
    ∃ outcome, YieldBranch engine env branches otherwise outcome := by
  induction branches with
  | nil => exact last
  | cons branch branches ih =>
      obtain ⟨condition, result⟩ := branch
      rw [List.forall_mem_cons] at each
      obtain ⟨⟨⟨test, testYields⟩, ⟨chosen, chosenYields⟩⟩, each⟩ := each
      obtain ⟨later, laterYields⟩ := ih each
      unfold YieldBranch
      by_cases fault : test.isFault = true
      · exact ⟨.fault, test, testYields, (if_pos fault).mpr rfl⟩
      · by_cases holds : test.datum?.any engine.isTrue = true
        · exact ⟨chosen, test, testYields, by rwa [if_neg fault, if_pos holds]⟩
        · exact ⟨later, test, testYields, by rwa [if_neg fault, if_neg holds]⟩

/-- An expression comes to something if that is so for its written operands. -/
theorem exists_yields_of_operands {expr : Expr}
    (placeholder : ∀ bound, expr = .parameter bound → ∃ value?, env.Placeholder bound value?)
    (operands : ∀ child, .expr child ∈ expr.written → ∃ outcome, child.Yields engine env outcome) :
    ∃ outcome, expr.Yields engine env outcome := by
  cases expr with
  | column | value => exact ⟨_, rfl⟩
  | parameter bound =>
      obtain ⟨value?, isPlaceholder⟩ := placeholder bound rfl
      exact ⟨_, value?, isPlaceholder, rfl⟩
  | unary operator operand =>
      obtain ⟨inner, innerYields⟩ := operands operand (.head _)
      exact ⟨_, inner, innerYields, rfl⟩
  | binary | concat =>
      obtain ⟨first, firstYields⟩ := operands _ (.head _)
      obtain ⟨second, secondYields⟩ := operands _ (.tail _ (.head _))
      exact ⟨_, first, second, firstYields, secondYields, rfl⟩
  | chain connective entries =>
      obtain ⟨inner, innerYield⟩ := exists_yieldActive fun operand mem =>
        operands operand (List.mem_map_of_mem mem)
      exact ⟨_, inner, innerYield, rfl⟩
  | within negated tested items =>
      unfold Yields
      cases items with
      | nil => exact ⟨_, rfl⟩
      | cons item items =>
          obtain ⟨first, firstYields⟩ := operands tested (.head _)
          obtain ⟨others, othersYield⟩ := exists_yieldAll fun other (mem : other ∈ item :: items) =>
            operands other (.tail _ (List.mem_append_left _ (List.mem_map_of_mem mem)))
          exact ⟨_, first, others, firstYields, othersYield, rfl⟩
  | between tested low high =>
      obtain ⟨first, firstYields⟩ := operands tested (.head _)
      obtain ⟨second, secondYields⟩ := operands low (.tail _ (.head _))
      obtain ⟨third, thirdYields⟩ := operands high (.tail _ (.tail _ (.head _)))
      exact ⟨_, first, second, third, firstYields, secondYields, thirdYields, rfl⟩
  | cases branches otherwise type =>
      have child {inner : Expr} (mem : inner ∈ (Expr.cases branches otherwise type).children) :
          ∃ outcome, inner.Yields engine env outcome :=
        operands inner (List.mem_append_left _ (List.mem_map_of_mem mem))
      refine exists_yieldBranch (fun branch mem => ⟨child ?_, child ?_⟩) (child ?_)
      · exact List.mem_append_left _ (List.mem_flatMap.2 ⟨branch, mem, .head _⟩)
      · exact List.mem_append_left _ (List.mem_flatMap.2 ⟨branch, mem, .tail _ (.head _)⟩)
      · exact List.mem_append_right _ (.head _)
  | aggregate => exact ⟨.fault, fun _ => rfl⟩
  | groupKey inner => exact operands inner (.head _)
  | existsIn => exact ⟨.fault, rfl⟩
  | subquery => exact ⟨.fault, trivial⟩

/-- An expression comes to something if each parameter in what is written of it has a value. -/
theorem exists_yields {expr : Expr}
    (placeholders : ∀ bound ∈ (Part.expr expr).parameters, ∃ value?, env.Placeholder bound value?) :
    ∃ outcome, expr.Yields engine env outcome := by
  generalize same : Part.expr expr = part at placeholders
  induction part using Part.induction generalizing expr with
  | step part ih =>
      subst same
      refine exists_yields_of_operands ?_ fun child mem => ?_
      · rintro bound rfl
        exact placeholders bound (by rw [Part.parameters_parameter]; exact .head _)
      · have notParameter : ∀ bound, Part.expr expr ≠ .expr (.parameter bound) := by
          rintro bound same
          cases same
          cases mem
        have inChildren := (Part.expr expr).written_sublist.subset mem
        refine ih (.expr child) inChildren rfl fun bound inner => ?_
        rw [Part.parameters_eq notParameter] at placeholders
        exact placeholders bound (List.mem_flatMap.2 ⟨_, mem, inner⟩)

end Expr

end CheckedSql
