import CheckedSql.Proofs.Writing.PartLayout

/-!
# Active forms

What a reader of a written expression can know of it is its *active form*.  Inactive operands
of a chain leave nothing behind, and a chain of one operand is that operand.  Nothing shows
that an expression is declared as a `GROUP BY` entry.  Membership in an empty list is written
as a truth value.  A column is known by its two names, a value and a select by their texts,
and of a parameter it is known only that there is one.

A minus sign in front of a number may belong to the number or be an operator.  So the form of
a negated literal is the literal with the sign, if there is none in front of it already.
-/

namespace CheckedSql

/-- What can be known of an expression from its text. -/
inductive Form where
  | column (qualifier name : String)
  | literal (text : String)
  | parameter
  | unary (operator : UnaryOperator) (operand : Form)
  | binary (operator : Operator) (left right : Form)
  | concat (left right : Form)
  | chain (connective : Connective) (operands : List Form)
  | within (negated : Bool) (tested : Form) (items : List Form)
  | between (tested low high : Form)
  | cases (branches : List (Form × Form)) (otherwise : Form)
  | aggregate (call : AggregateCall) (argument? : Option Form)
  | existsIn (select : String)
  | subquery (select : String)

/-- The form of an operator with an operand. -/
def UnaryOperator.form : UnaryOperator → Form → Form
  | negate, .literal text =>
      if text.toList.head? = some '-' then .unary negate (.literal text) else .literal ("-" ++ text)
  | operator, operand => .unary operator operand

/-- The form of a chain of active operands. -/
def Connective.form : Connective → List Form → Form
  | _, [operand] => operand
  | connective, operands => .chain connective operands

/-- The text of a value, if the dialect has one. -/
def Dialect.valueText (dialect : Dialect) (value : Value) : String :=
  (dialect.literal value).toOption.getD ""

/-- The text of a select that is written on its own, if it can be written. -/
def Dialect.selectText (dialect : Dialect) (select : Select) : String :=
  (dialect.write (select.tokens dialect)).toOption.getD ""

mutual

/-- The active form of an expression. -/
def Expr.form (dialect : Dialect) : Expr → Form
  | .column c => .column c.qualifier c.name
  | .value v => .literal (dialect.valueText v)
  | .parameter _ => .parameter
  | .unary operator inner => operator.form (Expr.form dialect inner)
  | .binary operator left right _ =>
      .binary operator (Expr.form dialect left) (Expr.form dialect right)
  | .concat left right => .concat (Expr.form dialect left) (Expr.form dialect right)
  | .chain connective operands => connective.form (Expr.activeForms dialect operands)
  | .within negated tested items =>
      if items.isEmpty then .literal (dialect.booleanLiteral negated)
      else .within negated (Expr.form dialect tested) (Expr.listForms dialect items)
  | .between tested low high =>
      .between (Expr.form dialect tested) (Expr.form dialect low) (Expr.form dialect high)
  | .cases branches otherwise _ =>
      .cases (Expr.branchForms dialect branches) (Expr.form dialect otherwise)
  | .aggregate call argument? => .aggregate call (Expr.form? dialect argument?)
  | .groupKey inner => Expr.form dialect inner
  | .existsIn select => .existsIn (dialect.selectText select)
  | .subquery select => .subquery (dialect.selectText select)

/-- The active forms of expressions. -/
def Expr.listForms (dialect : Dialect) : List Expr → List Form
  | [] => []
  | expr :: exprs => Expr.form dialect expr :: Expr.listForms dialect exprs

/-- The active forms of the active entries. -/
def Expr.activeForms (dialect : Dialect) : List (Entry Expr) → List Form
  | [] => []
  | ⟨presence, expr⟩ :: entries =>
      if presence.isActive then Expr.form dialect expr :: Expr.activeForms dialect entries
      else Expr.activeForms dialect entries

/-- The active forms of the conditions and results of a `CASE`. -/
def Expr.branchForms (dialect : Dialect) : List (Expr × Expr) → List (Form × Form)
  | [] => []
  | (condition, result) :: branches =>
      (Expr.form dialect condition, Expr.form dialect result) :: Expr.branchForms dialect branches

/-- The active form of an optional expression. -/
def Expr.form? (dialect : Dialect) : Option Expr → Option Form
  | none => none
  | some expr => some (Expr.form dialect expr)

end

section Lists

variable (dialect : Dialect)

theorem Expr.listForms_eq (exprs : List Expr) :
    Expr.listForms dialect exprs = exprs.map (Expr.form dialect) := by
  induction exprs with
  | nil => rfl
  | cons expr exprs ih => rw [Expr.listForms, ih, List.map_cons]

theorem Expr.activeForms_eq (entries : List (Entry Expr)) :
    Expr.activeForms dialect entries = (activeValues entries).map (Expr.form dialect) :=
  map_activeValues rfl (fun _ _ _ => rfl) entries

end Lists

end CheckedSql
