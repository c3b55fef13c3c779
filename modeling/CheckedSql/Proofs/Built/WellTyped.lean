import CheckedSql.Proofs.Built.Children
import CheckedSql.Proofs.Built.Typed

/-!
# Well typed expressions

The calls look at one expression at a time, and not at all of them in the same way.  `+` gives
three kinds of nodes and takes the spelling or the types to tell which, a chain grows inside
of the expression that it goes on with, and the results of a `CASE` are compared with one of
them only.

`Expr.WellTyped` says what a node should be, whatever call it came from.  For the results of
a `CASE` it asks for comparable pairs.  One result stands for all of them, since it has a
data type if any has one, and types that are comparable with a data type are comparable with
each other (`ValueType.comparable_of_leadingType`).
-/

namespace CheckedSql

/-! ## Comparable types -/

theorem DataType.isNumeric_of_isDayOrTimePoint {dataType : DataType}
    (isPoint : dataType.isDayOrTimePoint = true) : dataType.isNumeric = false := by
  cases dataType <;> first | rfl | cases isPoint

namespace ValueType

/-- A data type is comparable with another one if they are the same, both numbers, or both points
in time. -/
theorem comparable_data {left right : DataType} {leftOptional rightOptional : Bool} :
    (ValueType.data left leftOptional).comparable (.data right rightOptional) = true
      ↔ left = right ∨ (left.isNumeric = true ∧ right.isNumeric = true)
        ∨ (left.isDayOrTimePoint = true ∧ right.isDayOrTimePoint = true) := by
  simp [comparable, or_assoc]

/-- Types that are comparable with one data type are comparable with each other. -/
theorem comparable_of_data {dataType : DataType} {nullable : Bool} {first second : ValueType}
    (withFirst : (ValueType.data dataType nullable).comparable first = true)
    (withSecond : (ValueType.data dataType nullable).comparable second = true) :
    first.comparable second = true := by
  cases first with
  | noValue => cases withFirst
  | null => cases second <;> first | rfl | cases withSecond
  | data left leftOptional =>
      cases second with
      | noValue => cases withSecond
      | null => rfl
      | data right rightOptional =>
          rw [comparable_data] at withFirst withSecond ⊢
          rcases withFirst with rfl | ⟨number, leftNumber⟩ | ⟨point, leftPoint⟩
          · exact withSecond
          · rcases withSecond with rfl | ⟨-, rightNumber⟩ | ⟨point, -⟩
            · exact .inr (.inl ⟨leftNumber, number⟩)
            · exact .inr (.inl ⟨leftNumber, rightNumber⟩)
            · rw [DataType.isNumeric_of_isDayOrTimePoint point] at number
              cases number
          · rcases withSecond with rfl | ⟨number, -⟩ | ⟨-, rightPoint⟩
            · exact .inr (.inr ⟨leftPoint, point⟩)
            · rw [DataType.isNumeric_of_isDayOrTimePoint point] at number
              cases number
            · exact .inr (.inr ⟨leftPoint, rightPoint⟩)

/-- Of types that the leading one is comparable with, any two are comparable. -/
theorem comparable_of_leadingType {types : List ValueType}
    (leads : ∀ type ∈ types, (Expr.leadingType types).comparable type = true)
    {first second : ValueType} (firstMem : first ∈ types) (secondMem : second ∈ types) :
    first.comparable second = true := by
  have withFirst := leads first firstMem
  have withSecond := leads second secondMem
  unfold Expr.leadingType at withFirst withSecond
  cases found : types.find? fun type => type.dataType?.isSome with
  | none =>
      -- only `NULL` is comparable with `NULL` and has no data type
      have onlyNull : ∀ type ∈ types, null.comparable type = true → type = null := by
        intro type mem comparable
        have noData := List.find?_eq_none.1 found type mem
        cases type with
        | noValue => cases comparable
        | null => rfl
        | data => exact absurd rfl noData
      rw [found] at withFirst withSecond
      rw [onlyNull first firstMem withFirst, onlyNull second secondMem withSecond]
      rfl
  | some leading =>
      have hasData := List.find?_some found
      rw [found] at withFirst withSecond
      cases leading with
      | noValue | null => cases hasData
      | data => exact comparable_of_data withFirst withSecond

end ValueType

/-! ## Nodes -/

/-- Both expressions can serve as texts, and one of them is more than `NULL`. -/
def Expr.AreTexts (left right : Expr) : Prop :=
  left.type.isText = true ∧ right.type.isText = true ∧ ¬(left.type = .null ∧ right.type = .null)

/-- The node follows the typing rule of its kind. -/
def Expr.WellTyped : Expr → Prop
  | .unary operator operand => operator.accepts operand.type = true
  | .binary operator left right type =>
      operator ≠ .and ∧ operator ≠ .or ∧ ¬(operator = .add ∧ left.AreTexts right)
        ∧ operator.resultType left.type right.type = .ok type
  | .concat left right => left.AreTexts right
  | .chain _ operands =>
      2 ≤ operands.length ∧ (∃ first others, operands = .static first :: others)
        ∧ ∀ operand ∈ operands, operand.value.type.isBoolean = true
  | .within _ tested items => ∀ item ∈ items, tested.type.comparable item.type = true
  | .between tested low high =>
      tested.type.comparable low.type = true ∧ tested.type.comparable high.type = true
  | .cases branches otherwise type =>
      (∀ branch ∈ branches, branch.1.type.isBoolean = true)
        ∧ (∀ first ∈ resultTypes branches otherwise, ∀ second ∈ resultTypes branches otherwise,
          first.comparable second = true)
        ∧ type = (leadingType (resultTypes branches otherwise)).optionalIf
          ((resultTypes branches otherwise).any ValueType.isOptional)
  | .aggregate call none => call.function = .count
  | .aggregate call (some argument) => aggregateAccepts call.function argument.type = true
  | .subquery select => select.fields.length = 1
  | .column _ | .value _ | .parameter _ | .groupKey _ | .existsIn _ => True

namespace Expr

theorem joinsTexts_iff {left right : Expr} :
    joinsTexts left.type right.type = true ↔ left.AreTexts right := by
  simp only [joinsTexts, AreTexts, Bool.and_eq_true, Bool.not_eq_true', Bool.and_eq_false_iff,
    beq_eq_false_iff_ne, ne_eq, Decidable.not_and_iff_not_or_not, and_assoc]

/-- `AND` and `OR` give a chain, with an operand on each side. -/
theorem wellTyped_of_mkChain {connective : Connective} {left expr : Expr} {right : Entry Expr}
    (made : mkChain connective left right = .ok expr) (leftTyped : left.IsTyped) :
    expr.WellTyped := by
  have typed := isTyped_of_mkChain made leftTyped
  obtain ⟨-, rfl⟩ := mkChain_eq_ok.1 made
  obtain ⟨operands, same, old⟩ := exists_chained connective left right
  rw [same] at typed ⊢
  refine ⟨?_, typed⟩
  rcases old with rfl | rfl
  · obtain ⟨⟨first, others, rfl⟩, -⟩ := leftTyped
    simp
  · exact Nat.le_refl 2

/-- A binary operator gives the kind of node that its spelling and its operands ask for. -/
theorem wellTyped_of_mkBinary {operator : Operator} {left right expr : Expr}
    (made : mkBinary operator left right = .ok expr) (leftTyped : left.IsTyped) :
    expr.WellTyped := by
  rcases mkBinary_eq_ok made with
    ⟨connective, -, chainMade⟩ | ⟨-, texts, rfl⟩ | ⟨notChain, noTexts, type, typed, rfl⟩
  · exact wellTyped_of_mkChain chainMade leftTyped
  · exact joinsTexts_iff.1 texts
  · rw [joinsTexts_iff] at noTexts
    refine ⟨?_, ?_, noTexts, typed⟩
    · rintro rfl
      cases notChain
    · rintro rfl
      cases notChain

/-- What a call returns is well typed if the expressions it is given have passed their checks. -/
theorem MadeFrom.wellTyped {arguments : List Part} {expr : Expr} (made : MadeFrom arguments expr)
    (given : ∀ inner, .expr inner ∈ arguments → inner.IsTyped) : expr.WellTyped := by
  have typed := made.isTyped given
  cases made with
  | column | value | parameter | countAll | existsIn => exact typed
  | unary made =>
      obtain ⟨-, rfl⟩ := mkUnary_eq_ok.1 made
      exact typed
  | binary made => exact wellTyped_of_mkBinary made (given _ (.head _))
  | chain made => exact wellTyped_of_mkChain made (given _ (.head _))
  | within made =>
      obtain ⟨-, rfl⟩ := mkWithin_eq_ok.1 made
      exact typed
  | between made =>
      obtain ⟨-, -, rfl⟩ := mkBetween_eq_ok.1 made
      exact typed
  | @cases branches otherwise _ made =>
      obtain ⟨conditions, results, rfl⟩ := mkCases_eq_ok.1 made
      refine ⟨conditions, ?_, rfl⟩
      intro first firstMem second secondMem
      exact ValueType.comparable_of_leadingType results firstMem secondMem
  | aggregate made =>
      obtain ⟨-, -, rfl⟩ := mkAggregate_eq_ok.1 made
      exact typed
  | overAll made =>
      obtain ⟨call, argument?, rfl, rfl⟩ := mkOver_eq_ok.1 made
      cases argument? <;> exact typed
  | groupKey made =>
      obtain ⟨-, rfl⟩ := mkGroupKey_eq_ok.1 made
      exact typed
  | subquery made =>
      obtain ⟨-, rfl⟩ := mkSubquery_eq_ok.1 made
      exact typed

/-- Every expression in a built part, at any depth and inside of any select, is well typed. -/
theorem wellTyped_of_built {part : Part} (built : part.Built) {expr : Expr}
    (contains : part.Contains (.expr expr)) : expr.WellTyped := by
  have exprBuilt := built.of_contains contains
  cases exprBuilt with
  | made made arguments =>
      exact MadeFrom.wellTyped made fun inner mem => isTyped_of_built (arguments _ mem)

/-- A `CASE` that gives `NULL`, a whole number without a sign, or the number of `foo`. -/
def mixedCase : Expr :=
  .cases [(sameId "foo" "bar", .value .null), (sameId "bar" "foo", .value (.uint 1))]
    (.column (.ofId "foo")) (.optional .unsignedIntegral)

theorem mixedCase_built : (Part.expr mixedCase).Built := by
  let branches : List (Expr × Expr) :=
    [(sameId "foo" "bar", .value .null), (sameId "bar" "foo", .value (.uint 1))]
  have made : mkCases branches (.column (.ofId "foo")) = .ok mixedCase := rfl
  refine .made (.cases made) ?_
  simp only [branches, List.flatMap_cons, List.flatMap_nil, List.append_nil, List.cons_append,
    List.nil_append, List.forall_mem_cons]
  have valueBuilt (value : Value) : (Part.expr (.value value)).Built := .made (.value value) nofun
  exact ⟨sameId_built "foo" "bar", valueBuilt _, sameId_built "bar" "foo", valueBuilt _,
    Column.ofId_built "foo", nofun⟩

/-- Its results are compared with the number without a sign, and fit each other. -/
theorem mixedCase_wellTyped :
    (Part.expr mixedCase).Built ∧ (Part.expr mixedCase).Contains (.expr mixedCase)
      ∧ mixedCase.WellTyped ∧ (sameId "foo" "bar").WellTyped := by
  have contains : (Part.expr mixedCase).Contains (.expr (sameId "foo" "bar")) :=
    .single (.head _)
  exact ⟨mixedCase_built, .refl, wellTyped_of_built mixedCase_built .refl,
    wellTyped_of_built mixedCase_built contains⟩

end Expr

end CheckedSql
