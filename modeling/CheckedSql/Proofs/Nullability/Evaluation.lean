import CheckedSql.Operator
import CheckedSql.Syntax.Basic

/-!
# Evaluation with NULL

What an expression may come to when a row is looked at: NULL, a datum, or a failure such as
a division by zero.  An `Engine` says what is done with data.  What is done with NULL is
the same for all engines:

* a strict operation gives NULL if an operand is NULL,
* `AND`, `OR`, `NOT` and `IN` follow the logic with three truth values,
* `IS NULL`, `IS DISTINCT FROM` and `EXISTS` are true or false,
* a `CASE` is what the result of the first branch with a true condition is.

An `Environment` gives a value to each column, and possible values to each parameter: a
parameter that is written twice has two placeholders, which are bound independently.
`Expr.Yields` relates an expression to all it may come to.  The rows of selects and of
groups are not looked at, so a select may come to anything, and so may an aggregate
function, except that `COUNT` is never NULL.

Only what is written counts.  An inactive operand of a chain is left out, and a test for
membership in an empty list is a literal.
-/

namespace CheckedSql

/-- What an expression comes to. -/
inductive Outcome (Datum : Type) where
  | null
  | datum (datum : Datum)
  /-- The evaluation fails. -/
  | fault
  deriving DecidableEq

/-- The operations that give NULL if an operand is NULL. -/
inductive StrictOperation where
  | negate
  | bitNot
  | binary (operator : Operator)
  | concat
  | between
  deriving DecidableEq

/-- What an engine does with data. -/
structure Engine (Datum : Type) where
  /-- The datum of a value other than NULL. -/
  literal : Value → Datum
  truth : Bool → Datum
  isTrue : Datum → Bool
  /-- An operation on data.  Without a result, it fails. -/
  apply : StrictOperation → List Datum → Option Datum

/-- The values of columns and placeholders.  There is none for NULL. -/
structure Environment (Datum : Type) where
  column : Column → Option Datum
  /-- The values that the placeholders of a parameter may be bound to. -/
  Placeholder : Parameter → Option Datum → Prop

variable {Datum : Type}

/-! ## Outcomes -/

namespace Outcome

def isNull : Outcome Datum → Bool
  | null => true
  | _ => false

def isFault : Outcome Datum → Bool
  | fault => true
  | _ => false

def datum? : Outcome Datum → Option Datum
  | datum found => some found
  | _ => none

/-- A value, where there may be none. -/
def ofValue? : Option Datum → Outcome Datum
  | some value => datum value
  | none => null

/-- A result, where there may be none. -/
def ofResult? : Option Datum → Outcome Datum
  | some result => datum result
  | none => fault

end Outcome

namespace Engine

variable (engine : Engine Datum)

/-- A value as an outcome. -/
def value? (value : Value) : Option Datum :=
  if value.isNull then none else some (engine.literal value)

/-- A truth value as an outcome. -/
def condition (holds : Bool) : Outcome Datum := .datum (engine.truth holds)

/-- A strict operation.  A failure of an operand is one of the operation. -/
def strict (operation : StrictOperation) (operands : List (Outcome Datum)) : Outcome Datum :=
  if operands.any Outcome.isFault then .fault
  else if operands.any Outcome.isNull then .null
  else .ofResult? (engine.apply operation (operands.filterMap Outcome.datum?))

/-- A test that is true or false of NULL. -/
def nullTest (expected : Bool) : Outcome Datum → Outcome Datum
  | .fault => .fault
  | operand => engine.condition (operand.isNull == expected)

/-- `NOT`. -/
def negation : Outcome Datum → Outcome Datum
  | .fault => .fault
  | .null => .null
  | .datum operand => engine.condition (!engine.isTrue operand)

/-- An operator with one operand. -/
def unary : UnaryOperator → Outcome Datum → Outcome Datum
  | .negate, operand => engine.strict .negate [operand]
  | .bitNot, operand => engine.strict .bitNot [operand]
  | .not, operand => engine.negation operand
  | .isNull, operand => engine.nullTest true operand
  | .isNotNull, operand => engine.nullTest false operand

/-- `IS DISTINCT FROM` and `IS NOT DISTINCT FROM`: NULL is distinct from data only. -/
def distinction (operator : Operator) : Outcome Datum → Outcome Datum → Outcome Datum
  | .fault, _ => .fault
  | _, .fault => .fault
  | .null, .null => engine.condition (operator == .isNotDistinctFrom)
  | .null, .datum _ => engine.condition (operator == .isDistinctFrom)
  | .datum _, .null => engine.condition (operator == .isDistinctFrom)
  | .datum left, .datum right => .ofResult? (engine.apply (.binary operator) [left, right])

/-- A binary operator that forms no chain. -/
def binary (operator : Operator) (left right : Outcome Datum) : Outcome Datum :=
  if operator.family = .distinction then engine.distinction operator left right
  else engine.strict (.binary operator) [left, right]

/-- Whether an operand alone decides a chain: a false one of `AND`, a true one of `OR`. -/
def decides (connective : Connective) : Outcome Datum → Bool
  | .datum operand => engine.isTrue operand == (connective == .or)
  | _ => false

/-- `AND` and `OR`. -/
def chain (connective : Connective) (operands : List (Outcome Datum)) : Outcome Datum :=
  if operands.any Outcome.isFault then .fault
  else if operands.any (engine.decides connective) then engine.condition (connective == .or)
  else if operands.any Outcome.isNull then .null
  else engine.condition (connective == .and)

/-- `IN` and `NOT IN`: whether an item equals the tested operand. -/
def within (negated : Bool) (tested : Outcome Datum) (items : List (Outcome Datum)) :
    Outcome Datum :=
  let found := engine.chain .or (items.map fun item => engine.strict (.binary .eq) [tested, item])
  if negated then engine.negation found else found

end Engine

/-! ## Expressions -/

mutual

/-- The expression may come to this. -/
def Expr.Yields (engine : Engine Datum) (env : Environment Datum) : Expr → Outcome Datum → Prop
  | .column source, outcome => outcome = .ofValue? (env.column source)
  | .value literal, outcome => outcome = .ofValue? (engine.value? literal)
  | .parameter bound, outcome =>
      ∃ value?, env.Placeholder bound value? ∧ outcome = .ofValue? value?
  | .unary operator operand, outcome =>
      ∃ inner, Expr.Yields engine env operand inner ∧ outcome = engine.unary operator inner
  | .binary operator left right _, outcome =>
      ∃ first second, Expr.Yields engine env left first ∧ Expr.Yields engine env right second
        ∧ outcome = engine.binary operator first second
  | .concat left right, outcome =>
      ∃ first second, Expr.Yields engine env left first ∧ Expr.Yields engine env right second
        ∧ outcome = engine.strict .concat [first, second]
  | .chain connective operands, outcome =>
      ∃ inner, Expr.YieldActive engine env operands inner
        ∧ outcome = engine.chain connective inner
  | .within negated tested items, outcome =>
      if items.isEmpty then outcome = engine.condition negated
      else ∃ first others, Expr.Yields engine env tested first
        ∧ Expr.YieldAll engine env items others ∧ outcome = engine.within negated first others
  | .between tested low high, outcome =>
      ∃ first second third, Expr.Yields engine env tested first
        ∧ Expr.Yields engine env low second ∧ Expr.Yields engine env high third
        ∧ outcome = engine.strict .between [first, second, third]
  | .cases branches otherwise _, outcome =>
      Expr.YieldBranch engine env branches (Expr.Yields engine env otherwise) outcome
  | .aggregate call _, outcome => call.function = .count → outcome.isNull = false
  | .groupKey inner, outcome => Expr.Yields engine env inner outcome
  | .existsIn _, outcome => outcome.isNull = false
  | .subquery _, _ => True

/-- The expressions of a list may come to these. -/
def Expr.YieldAll (engine : Engine Datum) (env : Environment Datum) :
    List Expr → List (Outcome Datum) → Prop
  | [], outcomes => outcomes = []
  | expr :: exprs, outcomes =>
      ∃ first others, Expr.Yields engine env expr first ∧ Expr.YieldAll engine env exprs others
        ∧ outcomes = first :: others

/-- The active entries may come to these. -/
def Expr.YieldActive (engine : Engine Datum) (env : Environment Datum) :
    List (Entry Expr) → List (Outcome Datum) → Prop
  | [], outcomes => outcomes = []
  | ⟨presence, expr⟩ :: entries, outcomes =>
      if presence.isActive then
        ∃ first others, Expr.Yields engine env expr first
          ∧ Expr.YieldActive engine env entries others ∧ outcomes = first :: others
      else Expr.YieldActive engine env entries outcomes

/-- The first branch with a true condition may come to this, or what is given otherwise. -/
def Expr.YieldBranch (engine : Engine Datum) (env : Environment Datum) :
    List (Expr × Expr) → (Outcome Datum → Prop) → Outcome Datum → Prop
  | [], otherwise, outcome => otherwise outcome
  | (condition, result) :: branches, otherwise, outcome =>
      ∃ test, Expr.Yields engine env condition test
        ∧ if test.isFault then outcome = .fault
          else if test.datum?.any engine.isTrue then Expr.Yields engine env result outcome
          else Expr.YieldBranch engine env branches otherwise outcome

end

end CheckedSql
