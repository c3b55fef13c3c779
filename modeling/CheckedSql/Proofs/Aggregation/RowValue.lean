import CheckedSql.Proofs.Nullability.Evaluation
import CheckedSql.Syntax.Equality

/-!
# Values on the rows of a group

What an expression comes to on a row of a group.  A `Group` is what all its rows share: the
engine, the values of the parameters, and what aggregate functions and selects come to.  It also
settles which dynamic operands are there.  A row adds the values of the columns, and
`Expr.valueIn` is the value of an expression on that row.

`GROUP BY` compares trees with `==`, which takes 0.0 and -0.0 for the same number and tells
dynamic operands apart by their presence.  So a group must treat equal trees alike, and then
equal expressions have equal values (`Expr.valueIn_congr`).
-/

namespace CheckedSql

variable {Datum : Type}

/-! ## Groups -/

/-- What the rows of a group have in common. -/
structure Group (Datum : Type) where
  engine : Engine Datum
  /-- The value of a parameter, the same wherever it stands. -/
  parameter : Parameter → Option Datum
  /-- What aggregate functions and selects come to. -/
  settled : Expr → Outcome Datum
  /-- Whether an operand of a chain is there. -/
  includes : Entry Expr → Bool
  includes_static : ∀ operand, operand.isStatic = true → includes operand = true
  value_congr : ∀ value other, (value == other) = true →
    engine.value? value = engine.value? other
  settled_congr : ∀ expr other, Expr.beq expr other = true → settled expr = settled other
  includes_congr : ∀ operand other, Expr.beqEntry operand other = true →
    includes operand = includes other

/-- The values of the columns. -/
abbrev Row (Datum : Type) := Column → Option Datum

namespace Engine

variable (engine : Engine Datum)

/-- The operands of a chain that are there, joined.  A single one is left as it is. -/
def joined (connective : Connective) : List (Outcome Datum) → Outcome Datum
  | [operand] => operand
  | operands => engine.chain connective operands

/-- The result of the first branch with a true condition, or what is given otherwise. -/
def cases : List (Outcome Datum × Outcome Datum) → Outcome Datum → Outcome Datum
  | [], otherwise => otherwise
  | (test, result) :: branches, otherwise =>
      if test.isFault then .fault
      else if test.datum?.any engine.isTrue then result
      else cases branches otherwise

end Engine

/-! ## Expressions -/

mutual

/-- The value of an expression on a row. -/
def Expr.valueIn (group : Group Datum) (row : Row Datum) : Expr → Outcome Datum
  | .column source => .ofValue? (row source)
  | .value literal => .ofValue? (group.engine.value? literal)
  | .parameter bound => .ofValue? (group.parameter bound)
  | .unary operator operand => group.engine.unary operator (Expr.valueIn group row operand)
  | .binary operator left right _ =>
      group.engine.binary operator (Expr.valueIn group row left) (Expr.valueIn group row right)
  | .concat left right =>
      group.engine.strict .concat [Expr.valueIn group row left, Expr.valueIn group row right]
  | .chain connective operands =>
      group.engine.joined connective (Expr.includedValues group row operands)
  | .within negated tested items =>
      if items.isEmpty then group.engine.condition negated
      else group.engine.within negated (Expr.valueIn group row tested)
        (Expr.listValues group row items)
  | .between tested low high =>
      group.engine.strict .between [Expr.valueIn group row tested, Expr.valueIn group row low,
        Expr.valueIn group row high]
  | .cases branches otherwise _ =>
      group.engine.cases (Expr.branchValues group row branches)
        (Expr.valueIn group row otherwise)
  | .aggregate call argument? => group.settled (.aggregate call argument?)
  | .groupKey inner => Expr.valueIn group row inner
  | .existsIn select => group.settled (.existsIn select)
  | .subquery select => group.settled (.subquery select)

/-- The values of expressions. -/
def Expr.listValues (group : Group Datum) (row : Row Datum) : List Expr → List (Outcome Datum)
  | [] => []
  | expr :: exprs => Expr.valueIn group row expr :: Expr.listValues group row exprs

/-- The values of the operands that are there. -/
def Expr.includedValues (group : Group Datum) (row : Row Datum) :
    List (Entry Expr) → List (Outcome Datum)
  | [] => []
  | ⟨presence, expr⟩ :: entries =>
      if group.includes ⟨presence, expr⟩ then
        Expr.valueIn group row expr :: Expr.includedValues group row entries
      else Expr.includedValues group row entries

/-- The values of the conditions and results of a `CASE`. -/
def Expr.branchValues (group : Group Datum) (row : Row Datum) :
    List (Expr × Expr) → List (Outcome Datum × Outcome Datum)
  | [] => []
  | (condition, result) :: branches =>
      (Expr.valueIn group row condition, Expr.valueIn group row result)
        :: Expr.branchValues group row branches

end

section Lists

variable (group : Group Datum) (row : Row Datum)

theorem Expr.listValues_eq (exprs : List Expr) :
    Expr.listValues group row exprs = exprs.map (Expr.valueIn group row) := by
  induction exprs with
  | nil => rfl
  | cons expr exprs ih => rw [Expr.listValues, ih, List.map_cons]

theorem Expr.includedValues_eq (entries : List (Entry Expr)) :
    Expr.includedValues group row entries
      = (entries.filter group.includes).map fun entry => entry.value.valueIn group row := by
  induction entries with
  | nil => rfl
  | cons entry entries ih =>
      obtain ⟨presence, expr⟩ := entry
      rw [Expr.includedValues, List.filter_cons]
      split <;> simp [ih]

theorem Expr.branchValues_eq (branches : List (Expr × Expr)) :
    Expr.branchValues group row branches
      = branches.map fun branch => (branch.1.valueIn group row, branch.2.valueIn group row) := by
  induction branches with
  | nil => rfl
  | cons branch branches ih => rw [Expr.branchValues, ih, List.map_cons]

end Lists

/-! ## Equal expressions -/

section Congruence

variable (group : Group Datum) (row : Row Datum)

mutual

/-- Equal expressions have equal values. -/
theorem Expr.valueIn_congr : (expr other : Expr) → Expr.beq expr other = true →
    expr.valueIn group row = other.valueIn group row
  | .column _, other, same => by
      cases other with
      | column => rw [eq_of_beq same]
      | _ => cases same
  | .value literal, other, same => by
      cases other with
      | value number => exact congrArg Outcome.ofValue? (group.value_congr literal number same)
      | _ => cases same
  | .parameter _, other, same => by
      cases other with
      | parameter => rw [eq_of_beq same]
      | _ => cases same
  | .unary _ operand, other, same => by
      cases other with
      | unary _ inner =>
          simp only [Expr.beq, Bool.and_eq_true] at same
          simp only [Expr.valueIn, eq_of_beq same.1, Expr.valueIn_congr operand inner same.2]
      | _ => cases same
  | .binary _ left right _, other, same => by
      cases other with
      | binary _ first second _ =>
          simp only [Expr.beq, Bool.and_eq_true] at same
          simp only [Expr.valueIn, eq_of_beq same.1.1.1,
            Expr.valueIn_congr left first same.1.1.2, Expr.valueIn_congr right second same.1.2]
      | _ => cases same
  | .concat left right, other, same => by
      cases other with
      | concat first second =>
          simp only [Expr.beq, Bool.and_eq_true] at same
          simp only [Expr.valueIn, Expr.valueIn_congr left first same.1,
            Expr.valueIn_congr right second same.2]
      | _ => cases same
  | .chain _ operands, other, same => by
      cases other with
      | chain _ entries =>
          simp only [Expr.beq, Bool.and_eq_true] at same
          simp only [Expr.valueIn, eq_of_beq same.1,
            Expr.includedValues_congr operands entries same.2]
      | _ => cases same
  | .within _ tested items, other, same => by
      cases other with
      | within _ inner exprs =>
          simp only [Expr.beq, Bool.and_eq_true] at same
          have values := Expr.listValues_congr items exprs same.2
          have isEmpty : items.isEmpty = exprs.isEmpty := by
            cases items <;> cases exprs <;> first | rfl | cases same.2
          simp only [Expr.valueIn, eq_of_beq same.1.1,
            Expr.valueIn_congr tested inner same.1.2, values, isEmpty]
      | _ => cases same
  | .between tested low high, other, same => by
      cases other with
      | between first second third =>
          simp only [Expr.beq, Bool.and_eq_true] at same
          simp only [Expr.valueIn, Expr.valueIn_congr tested first same.1.1,
            Expr.valueIn_congr low second same.1.2, Expr.valueIn_congr high third same.2]
      | _ => cases same
  | .cases branches otherwise _, other, same => by
      cases other with
      | cases pairs last _ =>
          simp only [Expr.beq, Bool.and_eq_true] at same
          simp only [Expr.valueIn, Expr.branchValues_congr branches pairs same.1.1,
            Expr.valueIn_congr otherwise last same.1.2]
      | _ => cases same
  | .aggregate _ _, other, same => by
      cases other with
      | aggregate => exact group.settled_congr _ _ same
      | _ => cases same
  | .groupKey inner, other, same => by
      cases other with
      | groupKey key => exact Expr.valueIn_congr inner key same
      | _ => cases same
  | .existsIn _, other, same => by
      cases other with
      | existsIn => exact group.settled_congr _ _ same
      | _ => cases same
  | .subquery _, other, same => by
      cases other with
      | subquery => exact group.settled_congr _ _ same
      | _ => cases same
termination_by structural expr => expr

theorem Expr.listValues_congr : (exprs others : List Expr) → Expr.beqList exprs others = true →
    Expr.listValues group row exprs = Expr.listValues group row others
  | [], others, same => by
      cases others with
      | nil => rfl
      | cons => cases same
  | expr :: exprs, others, same => by
      cases others with
      | nil => cases same
      | cons other others =>
          simp only [Expr.beqList, Bool.and_eq_true] at same
          simp only [Expr.listValues, Expr.valueIn_congr expr other same.1,
            Expr.listValues_congr exprs others same.2]
termination_by structural exprs => exprs

theorem Expr.includedValues_congr : (entries others : List (Entry Expr)) →
    Expr.beqEntries entries others = true →
    Expr.includedValues group row entries = Expr.includedValues group row others
  | [], others, same => by
      cases others with
      | nil => rfl
      | cons => cases same
  | ⟨presence, expr⟩ :: entries, others, same => by
      cases others with
      | nil => cases same
      | cons other others =>
          obtain ⟨otherPresence, other⟩ := other
          simp only [Expr.beqEntries, Bool.and_eq_true] at same
          have included := group.includes_congr _ _ same.1
          simp only [Expr.beqEntry, Bool.and_eq_true] at same
          simp only [Expr.includedValues, included, Expr.valueIn_congr expr other same.1.2,
            Expr.includedValues_congr entries others same.2]
termination_by structural entries => entries

theorem Expr.branchValues_congr : (branches others : List (Expr × Expr)) →
    Expr.beqBranches branches others = true →
    Expr.branchValues group row branches = Expr.branchValues group row others
  | [], others, same => by
      cases others with
      | nil => rfl
      | cons => cases same
  | (condition, result) :: branches, others, same => by
      cases others with
      | nil => cases same
      | cons other others =>
          obtain ⟨test, outcome⟩ := other
          simp only [Expr.beqBranches, Bool.and_eq_true] at same
          simp only [Expr.branchValues, Expr.valueIn_congr condition test same.1.1,
            Expr.valueIn_congr result outcome same.1.2,
            Expr.branchValues_congr branches others same.2]
termination_by structural branches => branches

end

end Congruence

end CheckedSql
