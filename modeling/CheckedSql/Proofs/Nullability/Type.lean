import CheckedSql.Proofs.Built.Basic

/-!
# Types that may be NULL

Two questions are asked of a type: whether its values may be NULL, and whether it has
values at all.  Operators take operands with a value only
(`Operator.hasValue_of_resultType`), and give a result that may be NULL as soon as one of
the operands may (`Operator.isOptional_of_resultType`).  A type without a value cannot be
made optional.
-/

namespace CheckedSql

namespace ValueType

@[simp] theorem isOptional_optionalIf_of (dataType : DataType) (nullable : Bool) :
    ((of dataType).optionalIf nullable).isOptional = nullable := by
  cases nullable <;> rfl

@[simp] theorem isOptional_conditionType (operandOptional : Bool) :
    (conditionType operandOptional).isOptional = operandOptional :=
  isOptional_optionalIf_of .boolean operandOptional

theorem hasValue_of_fits {type : ValueType} {expected : DataType}
    (fits : type.fits expected = true) : type.hasValue = true := by
  cases type with
  | noValue => cases fits
  | null | data => rfl

theorem hasValue_of_isNumeric {type : ValueType} (isNumeric : type.isNumeric = true) :
    type.hasValue = true := by
  cases type with
  | noValue => cases isNumeric
  | null | data => rfl

theorem hasValue_of_isInteger {type : ValueType} (isInteger : type.isInteger = true) :
    type.hasValue = true :=
  (Bool.or_eq_true _ _ ▸ isInteger).elim hasValue_of_fits hasValue_of_fits

theorem hasValue_of_comparable {left right : ValueType}
    (comparable : left.comparable right = true) :
    left.hasValue = true ∧ right.hasValue = true := by
  cases left <;> cases right <;> first | exact ⟨rfl, rfl⟩ | cases comparable

theorem isOptional_forceOptional {type : ValueType} (hasValue : type.hasValue = true) :
    type.forceOptional.isOptional = true := by
  cases type with
  | noValue => cases hasValue
  | null | data => rfl

end ValueType

/-- Other than a distinction, an operator accounts for both of its operands. -/
theorem Operator.isOptional_of_resultType {operator : Operator} {left right type : ValueType}
    (typed : operator.resultType left right = .ok type)
    (notDistinction : operator.family ≠ .distinction) :
    type.isOptional = (left.isOptional || right.isOptional) := by
  have accepted {accepts : Bool} {result : ValueType} {failure : Failure}
      (typed : (if accepts then Except.ok result else .error failure) = .ok type) :
      type = result := by
    split at typed
    · exact (Except.ok.inj typed).symm
    · cases typed
  cases family : operator.family with
  | distinction => exact absurd family notDistinction
  | comparison | arithmetic | division | modulus | logical | bitwise | pattern =>
      simp only [resultType, family] at typed
      rw [accepted typed]
      simp [ValueType.booleanResult, ValueType.arithmeticResult]

/-- An operator takes operands with a value only. -/
theorem Operator.hasValue_of_resultType {operator : Operator} {left right type : ValueType}
    (typed : operator.resultType left right = .ok type) :
    left.hasValue = true ∧ right.hasValue = true := by
  have accepted {accepts : Bool} {result : ValueType} {failure : Failure}
      (typed : (if accepts then Except.ok result else .error failure) = .ok type) :
      accepts = true := by
    split at typed
    · assumption
    · cases typed
  cases family : operator.family with
  | comparison | distinction =>
      simp only [resultType, family] at typed
      exact ValueType.hasValue_of_comparable (accepted typed)
  | arithmetic | division =>
      simp only [resultType, family] at typed
      have both := accepted typed
      rw [Bool.and_eq_true] at both
      exact both.imp ValueType.hasValue_of_isNumeric ValueType.hasValue_of_isNumeric
  | modulus | bitwise =>
      simp only [resultType, family] at typed
      have both := accepted typed
      rw [Bool.and_eq_true] at both
      exact both.imp ValueType.hasValue_of_isInteger ValueType.hasValue_of_isInteger
  | logical | pattern =>
      simp only [resultType, family] at typed
      have both := accepted typed
      rw [Bool.and_eq_true] at both
      exact both.imp ValueType.hasValue_of_fits ValueType.hasValue_of_fits

/-! ## A select without a value -/

/-- A select of a parameter that has no value. -/
def Select.valueless : Select where
  clauses := [.columns false [.static ⟨.parameter ⟨"p", .noValue⟩, "x", true⟩]]

theorem Select.valueless_built : (Part.select valueless).Built := by
  have named : ∀ column ∈ [Entry.static
      (SelectColumn.mk (.parameter ⟨"p", .noValue⟩) "x" true)], column.value.IsMade := by
    rw [List.forall_mem_singleton]
    exact .inl rfl
  refine .made (.select With.areMade_none named rfl) ?_
  rintro argument (_ | ⟨_, ⟨⟩⟩)
  exact .made (.parameter _) (by simp)

end CheckedSql
