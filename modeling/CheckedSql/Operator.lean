import CheckedSql.Ascii
import CheckedSql.Failure

/-!
# Operators

A binary operator belongs to a family, and the family fixes which operands it
takes and what type it gives back.  `Operator.resultType` is that rule.

`AND` and `OR` are binary operators too, but expressions keep them as chains.
`Connective` is the type of the two, and `Operator.connective?` picks them out.
Operators with one operand are `UnaryOperator`s.
-/

namespace CheckedSql

/-! ## Binary operators -/

/-- Operators with one typing rule. -/
inductive OperatorFamily where
  | comparison
  /-- Comparisons that never yield NULL. -/
  | distinction
  | arithmetic
  | division
  /-- The remainder of integers. -/
  | modulus
  | logical
  | bitwise
  | pattern
  deriving DecidableEq, Repr

/-- The name of a family. -/
def OperatorFamily.name : OperatorFamily → String
  | comparison => "comparison"
  | distinction => "distinction"
  | arithmetic => "arithmetic"
  | division => "division"
  | modulus => "modulus"
  | logical => "logical"
  | bitwise => "bitwise"
  | pattern => "pattern"

/-- The binary operators of SQL. -/
inductive Operator where
  | eq
  | ne
  | lt
  | le
  | gt
  | ge
  | isDistinctFrom
  | isNotDistinctFrom
  | add
  | sub
  | mul
  | div
  | rem
  | and
  | or
  | bitAnd
  | bitOr
  | bitXor
  | shiftLeft
  | shiftRight
  | like
  deriving DecidableEq, Repr

/-- The two operators that form chains. -/
inductive Connective where
  | and
  | or
  deriving DecidableEq, Repr

namespace Operator

/-- All binary operators. -/
def all : List Operator :=
  [eq, ne, lt, le, gt, ge, isDistinctFrom, isNotDistinctFrom, add, sub, mul, div, rem, and, or,
    bitAnd, bitOr, bitXor, shiftLeft, shiftRight, like]

/-- The SQL spelling of an operator. -/
def symbol : Operator → String
  | eq => "="
  | ne => "<>"
  | lt => "<"
  | le => "<="
  | gt => ">"
  | ge => ">="
  | isDistinctFrom => "IS DISTINCT FROM"
  | isNotDistinctFrom => "IS NOT DISTINCT FROM"
  | add => "+"
  | sub => "-"
  | mul => "*"
  | div => "/"
  | rem => "%"
  | and => "AND"
  | or => "OR"
  | bitAnd => "&"
  | bitOr => "|"
  | bitXor => "^"
  | shiftLeft => "<<"
  | shiftRight => ">>"
  | like => "LIKE"

/-- The family of an operator. -/
def family : Operator → OperatorFamily
  | eq | ne | lt | le | gt | ge => .comparison
  | isDistinctFrom | isNotDistinctFrom => .distinction
  | add | sub | mul => .arithmetic
  | div => .division
  | rem => .modulus
  | and | or => .logical
  | bitAnd | bitOr | bitXor | shiftLeft | shiftRight => .bitwise
  | like => .pattern

/-- Whether the operator is offered as a named constant.  Distinctions and bit operators are
reached through methods and symbols only. -/
def isNamedConstant (operator : Operator) : Bool :=
  operator.family ≠ .distinction && operator.family ≠ .bitwise

/-- The operator of a spelling, in any case.  `==` and `!=` are accepted for `=` and `<>`. -/
def ofSymbol? (symbol : String) : Option Operator :=
  if symbol = "==" then some .eq
  else if symbol = "!=" then some .ne
  else
    let upper := asciiUpper symbol
    all.find? fun operator => operator.symbol == upper

/-- The operator of a spelling, or the failure that names it. -/
def ofSymbol (symbol : String) : Except Error Operator :=
  match ofSymbol? symbol with
  | some operator => .ok operator
  | none => fail .operator (.unknownOperator symbol)

/-- The chain an operator forms, if it forms one. -/
def connective? : Operator → Option Connective
  | and => some .and
  | or => some .or
  | _ => none

/-- The type of `left operator right`, or why the operator does not take these operands. -/
def resultType (operator : Operator) (left right : ValueType) : Except Failure ValueType :=
  let accepting (accepted : Bool) (result : ValueType) : Except Failure ValueType :=
    if accepted then .ok result else .error (.operandTypes operator.symbol left right)
  match operator.family with
  | .comparison => accepting (left.comparable right) (left.booleanResult right)
  | .distinction => accepting (left.comparable right) (.of .boolean)
  | .arithmetic => accepting (left.isNumeric && right.isNumeric) (left.arithmeticResult right)
  | .division =>
      accepting (left.isNumeric && right.isNumeric)
        ((ValueType.of .floatingPoint).optionalIf (left.isOptional || right.isOptional))
  | .modulus | .bitwise =>
      accepting (left.isInteger && right.isInteger) (left.arithmeticResult right)
  | .logical => accepting (left.isBoolean && right.isBoolean) (left.booleanResult right)
  | .pattern => accepting (left.isText && right.isText) (left.booleanResult right)

theorem mem_all (operator : Operator) : operator ∈ all := by
  cases operator <;> decide

example : ofSymbol? "is distinct From" = some .isDistinctFrom := by decide

example : ofSymbol? "is  distinct from" = none := by decide

end Operator

/-- A connective as a binary operator. -/
def Connective.operator : Connective → Operator
  | .and => .and
  | .or => .or

@[simp] theorem Connective.connective?_operator (connective : Connective) :
    connective.operator.connective? = some connective := by
  cases connective <;> rfl

/-! ## Unary operators -/

/-- The operators with one operand. -/
inductive UnaryOperator where
  | negate
  | bitNot
  | not
  | isNull
  | isNotNull
  deriving DecidableEq, Repr

namespace UnaryOperator

/-- The SQL spelling of an operator, as messages show it. -/
def symbol : UnaryOperator → String
  | negate => "-"
  | bitNot => "~"
  | not => "NOT"
  | isNull => "IS NULL"
  | isNotNull => "IS NOT NULL"

/-- Whether an operator takes an operand of this type. -/
def accepts : UnaryOperator → ValueType → Bool
  | negate, operand => operand.isNumeric
  | bitNot, operand => operand.isInteger
  | not, operand => operand.isBoolean
  | isNull, operand => operand.hasValue
  | isNotNull, operand => operand.hasValue

/-- The type of the operator applied to an operand of this type. -/
def resultType : UnaryOperator → ValueType → ValueType
  | negate, operand => operand
  | bitNot, operand => operand
  | not, operand => (ValueType.of .boolean).optionalIf operand.isOptional
  | isNull, _ => .of .boolean
  | isNotNull, _ => .of .boolean

end UnaryOperator

end CheckedSql
