import CheckedSql.Aggregation
import CheckedSql.Scope

/-!
# Building expressions

Each `mk` function checks the types of its operands and builds one node.  An
expression built with them is well typed all the way down.

`+` between texts joins them, and `AND` and `OR` extend a chain of the same
operator on their left instead of nesting.  An aggregate function does not take
an argument that contains one.
-/

namespace CheckedSql

/-- The failure of an expression builder, attributed to expressions. -/
def inExpression {α : Type} : Except Failure α → Except Error α
  | .ok result => .ok result
  | .error failure => fail .expression failure

/-- Fails unless an expression can serve as a condition. -/
def requireBoolean (origin : Origin) (expr : Expr) : Except Error Unit :=
  require expr.type.isBoolean origin (.notBoolean expr.type)

namespace Expr

/-- A unary operator applied to an operand. -/
def mkUnary (operator : UnaryOperator) (operand : Expr) : Except Error Expr := do
  require (operator.accepts operand.type) .expression
    (.operandType operator.symbol operand.type)
  return .unary operator operand

/-- `left` and `right` in a chain, which goes on with the chain that `left` may be. -/
def chained (connective : Connective) (left : Expr) (right : Entry Expr) : Expr :=
  match left with
  | .chain inner operands =>
      if inner = connective then .chain connective (operands ++ [right])
      else .chain connective [.static left, right]
  | _ => .chain connective [.static left, right]

/-- `AND` or `OR`, with a right operand that may be dynamic. -/
def mkChain (connective : Connective) (left : Expr) (right : Entry Expr) : Except Error Expr := do
  let _ ← inExpression (connective.operator.resultType left.type right.value.type)
  return chained connective left right

/-- Whether `+` joins two operands of these types. -/
def joinsTexts (left right : ValueType) : Bool :=
  left.isText && right.isText && !(left == .null && right == .null)

/-- A binary operator applied to two operands. -/
def mkBinary (operator : Operator) (left right : Expr) : Except Error Expr :=
  match operator.connective? with
  | some connective => mkChain connective left (.static right)
  | none =>
      if operator = .add ∧ joinsTexts left.type right.type then .ok (.concat left right)
      else do
        let type ← inExpression (operator.resultType left.type right.type)
        return .binary operator left right type

/-- Fails at the first of several expressions that cannot be compared with a type. -/
def requireComparable (origin : Origin) (operator : String) (type : ValueType)
    (others : List ValueType) : Except Error Unit :=
  others.forM fun other =>
    require (type.comparable other) origin (.operandTypes operator type other)

/-- `IN` or `NOT IN`. -/
def mkWithin (negated : Bool) (tested : Expr) (items : List Expr) : Except Error Expr := do
  requireComparable .expression (if negated then "NOT IN" else "IN") tested.type (items.map type)
  return .within negated tested items

/-- `BETWEEN`. -/
def mkBetween (tested low high : Expr) : Except Error Expr := do
  requireComparable .expression "BETWEEN" tested.type [low.type, high.type]
  return .between tested low high

/-- The type that the results of a `CASE` are compared with: the first one with a data type. -/
def leadingType (results : List ValueType) : ValueType :=
  (results.find? fun type => type.dataType?.isSome).getD .null

/-- A `CASE` over conditions with their results. -/
def mkCases (branches : List (Expr × Expr)) (otherwise : Expr) : Except Error Expr := do
  branches.forM fun branch => requireBoolean .case branch.1
  let results := branches.map (fun branch => branch.2.type) ++ [otherwise.type]
  let leading := leadingType results
  requireComparable .case "CASE" leading results
  return .cases branches otherwise (leading.optionalIf (results.any ValueType.isOptional))

/-- Whether an aggregate function takes an argument of this type. -/
def aggregateAccepts (function : AggregateFunction) (argument : ValueType) : Bool :=
  match function with
  | .sum | .avg => argument.isNumeric
  | .count | .min | .max => argument.hasValue

/-- An aggregate function applied to an argument. -/
def mkAggregate (function : AggregateFunction) (distinct : Bool) (argument : Expr) :
    Except Error Expr := do
  require (!argument.containsAggregate) function.origin .nestedAggregates
  require (aggregateAccepts function argument.type) function.origin
    (.operandType function.keyword argument.type)
  return .aggregate ⟨function, distinct, false⟩ (some argument)

/-- `COUNT(*)`. -/
def countAll : Expr := .aggregate ⟨.count, false, false⟩ none

/-- An aggregate function as a window over all rows. -/
def mkOver : Expr → Except Error Expr
  | .aggregate call argument? => .ok (.aggregate { call with overAll := true } argument?)
  | _ => fail .window .overRequiresAggregate

/-- An expression declared to be a `GROUP BY` entry. -/
def mkGroupKey (inner : Expr) : Except Error Expr := do
  require (!inner.containsAggregate) .groupBy .aggregateNotAllowed
  return .groupKey inner

/-- A select with one column as a value. -/
def mkSubquery (select : Select) : Except Error Expr := do
  require (select.fields.length == 1) .subSelect .scalarSubquery
  return .subquery select

end Expr

/-! ## Named and sorted expressions, assignments -/

/-- An expression under a name. -/
def SelectColumn.mkNamed (expr : Expr) (name : String) : Except Error SelectColumn := do
  require (!name.isEmpty) .as .missingName
  return { expr, name, aliased := true }

/-- Whether the name that an expression gives to a column is written.  Engines disagree about the
names of aggregate functions. -/
def Expr.writesImplicitName : Expr → Bool
  | .aggregate _ _ => true
  | _ => false

/-- A result column under the name its expression gives. -/
def SelectColumn.mkUnnamed (expr : Expr) : Except Error SelectColumn :=
  match expr.implicitName? with
  | some name => .ok { expr, name, aliased := expr.writesImplicitName }
  | none => fail .select .missingName

/-- A sort order. -/
def SortOrder.mkSorted (expr : Expr) (direction : SortDirection) (nulls? : Option NullsOrder) :
    Except Error SortOrder := do
  require expr.type.hasValue .orderBy (.operandType "ORDER BY" expr.type)
  return { expr, direction, nulls? }

namespace Column

/-- Fails if statements may not assign the column. -/
def requireAssignable (origin : Origin) (column : Column) : Except Error Unit :=
  require (!column.spec.readOnly) origin (.readOnlyColumn column.name)

/-- Whether a column of one type can hold a value of another. -/
def holds (columnType value : ValueType) : Bool :=
  columnType.comparable value && (columnType.isOptional || !value.isOptional)

/-- Fails unless the column can hold the value of an expression. -/
def requireHolds (column : Column) (value : Expr) : Except Error Unit := do
  require (holds column.type value.type) .set
    (.assignmentTypes column.name column.type value.type)
  require (!value.containsAggregate) .set .aggregateNotAllowed

/-- The assignment of a value. -/
def assign (column : Column) (value : Expr) : Except Error Assignment := do
  column.requireAssignable .set
  column.requireHolds value
  return { column, value? := some value }

/-- The assignment of the default. -/
def assignDefault (column : Column) : Except Error Assignment := do
  column.requireAssignable .set
  return { column, value? := none }

end Column

end CheckedSql
