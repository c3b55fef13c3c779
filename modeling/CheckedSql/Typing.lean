import CheckedSql.Syntax.Basic

/-!
# Types of expressions

`Expr.type` reads the type of an expression off its tree.  Operators keep the
type found when they were built, and the rest follows from the operands: a
condition may be NULL if one of its operands may, and a select used as a value
may always be NULL, because it may have no row.
-/

namespace CheckedSql

/-- The type of an aggregate function applied to an argument of this type. -/
def AggregateFunction.resultType (function : AggregateFunction) (argument : ValueType) :
    ValueType :=
  match function with
  | count => .of .integral
  | avg => .optional .floatingPoint
  | sum =>
      match argument.dataType? with
      | some .boolean | none => .optional .integral
      | some dataType => .optional dataType
  | min | max => argument.forceOptional

/-- The type of a condition, given whether an operand may be NULL. -/
def conditionType (operandOptional : Bool) : ValueType :=
  (ValueType.of .boolean).optionalIf operandOptional

mutual

/-- The type of an expression. -/
def Expr.type : Expr → ValueType
  | .column column => column.type
  | .value value => value.type
  | .parameter parameter => parameter.type
  | .unary operator operand => operator.resultType (Expr.type operand)
  | .binary _ _ _ type => type
  | .concat left right =>
      (ValueType.of .text).optionalIf ((Expr.type left).isOptional || (Expr.type right).isOptional)
  | .chain _ operands => conditionType (Expr.anyOptionalEntry operands)
  | .within _ tested items =>
      conditionType ((Expr.type tested).isOptional || Expr.anyOptional items)
  | .between tested low high =>
      conditionType ((Expr.type tested).isOptional || (Expr.type low).isOptional
        || (Expr.type high).isOptional)
  | .cases _ _ type => type
  | .aggregate call none => call.function.resultType .noValue
  | .aggregate call (some argument) => call.function.resultType (Expr.type argument)
  | .groupKey inner => Expr.type inner
  | .existsIn _ => .of .boolean
  | .subquery ⟨clauses⟩ => ((Clause.firstColumnType? clauses).getD .noValue).forceOptional

/-- Whether some expression of a list may be NULL. -/
def Expr.anyOptional : List Expr → Bool
  | [] => false
  | expr :: exprs => (Expr.type expr).isOptional || Expr.anyOptional exprs

/-- Whether some operand of a chain may be NULL, active or not. -/
def Expr.anyOptionalEntry : List (Entry Expr) → Bool
  | [] => false
  | ⟨_, expr⟩ :: entries => (Expr.type expr).isOptional || Expr.anyOptionalEntry entries

/-- The type of the first selected column. -/
def Clause.firstColumnType? : List Clause → Option ValueType
  | [] => none
  | .columns _ (⟨_, expr, _, _⟩ :: _) :: _ => some (Expr.type expr)
  | .columns _ [] :: _ => none
  | _ :: clauses => Clause.firstColumnType? clauses

end

example : (Expr.subquery ⟨[.columns false [.static ⟨.value (.bool true), "a", true⟩]]⟩).type
    = .optional .boolean := by decide

end CheckedSql
