import CheckedSql.Execution
import CheckedSql.Proofs.Built.Children
import CheckedSql.Proofs.Built.Typed
import CheckedSql.Proofs.Nullability.Totality
import CheckedSql.Proofs.Nullability.Type

/-!
# Expressions that are never NULL

The type of an expression says whether it may be NULL.  It is kept in some nodes and read
off the operands of others, so each node has to account for all of its operands.
`Expr.isOptional_of_yields_null` is the induction: an expression comes to NULL only if its
type is optional, when columns and placeholders are NULL only if their types are.

A select that is used as a value may come to NULL whatever it selects, because it may have
no row.  Its type is made optional for that.  The type without a value cannot be made
optional, so `Expr.isValuelessSelect` is the one exception.  No operator and no assignment
takes an expression without a value, so a column that may not be NULL is never given NULL
(`Expr.nonOptional_not_null`).
-/

namespace CheckedSql

variable {Datum : Type}

/-! ## Outcomes that are NULL -/

theorem Outcome.ofValue?_eq_null {value? : Option Datum} (isNull : ofValue? value? = .null) :
    value? = none := by
  cases value? with
  | none => rfl
  | some value => cases isNull

theorem Outcome.eq_null_of_isNull {outcome : Outcome Datum} (isNull : outcome.isNull = true) :
    outcome = .null := by
  cases outcome with
  | null => rfl
  | datum | fault => cases isNull

namespace Engine

variable {engine : Engine Datum} {operands : List (Outcome Datum)}

theorem null_mem_of_any (anyNull : operands.any Outcome.isNull = true) : .null ∈ operands := by
  obtain ⟨operand, mem, isNull⟩ := List.any_eq_true.1 anyNull
  rwa [← Outcome.eq_null_of_isNull isNull]

/-- A strict operation gives NULL only if an operand is NULL. -/
theorem null_mem_of_strict {operation : StrictOperation}
    (isNull : engine.strict operation operands = .null) : .null ∈ operands := by
  unfold strict at isNull
  split at isNull
  · cases isNull
  · split at isNull
    · next anyNull => exact null_mem_of_any anyNull
    · cases result : engine.apply operation (operands.filterMap Outcome.datum?) <;>
        rw [result] at isNull <;> cases isNull

/-- A chain gives NULL only if an operand is NULL. -/
theorem null_mem_of_chain {connective : Connective}
    (isNull : engine.chain connective operands = .null) : .null ∈ operands := by
  unfold chain at isNull
  split at isNull
  · cases isNull
  · split at isNull
    · cases isNull
    · split at isNull
      · next anyNull => exact null_mem_of_any anyNull
      · cases isNull

theorem eq_null_of_negation {operand : Outcome Datum}
    (isNull : engine.negation operand = .null) : operand = .null := by
  cases operand with
  | null => rfl
  | datum | fault => cases isNull

theorem nullTest_ne_null {expected : Bool} {operand : Outcome Datum} :
    engine.nullTest expected operand ≠ .null := by
  cases operand <;> exact nofun

theorem distinction_ne_null {operator : Operator} {left right : Outcome Datum} :
    engine.distinction operator left right ≠ .null := by
  cases left with
  | fault => exact nofun
  | null => cases right <;> exact nofun
  | datum first =>
      cases right with
      | datum second =>
          rw [distinction]
          cases engine.apply (.binary operator) [first, second] <;> exact nofun
      | null | fault => exact nofun

/-- Membership is NULL only if the tested operand or an item is NULL. -/
theorem null_of_within {negated : Bool} {tested : Outcome Datum} {items : List (Outcome Datum)}
    (isNull : engine.within negated tested items = .null) : tested = .null ∨ .null ∈ items := by
  have found : engine.chain .or
      (items.map fun item => engine.strict (.binary .eq) [tested, item]) = .null := by
    cases negated with
    | false => exact isNull
    | true => exact eq_null_of_negation isNull
  obtain ⟨item, itemMem, compared⟩ := List.mem_map.1 (null_mem_of_chain found)
  have either := null_mem_of_strict compared
  rw [List.mem_cons, List.mem_singleton] at either
  rcases either with same | same
  · exact .inl same.symm
  · rw [← same] at itemMem
    exact .inr itemMem

end Engine

/-! ## Lists of expressions -/

section Lists

variable {engine : Engine Datum} {env : Environment Datum} {outcomes : List (Outcome Datum)}

theorem Expr.yields_of_mem_yieldAll {exprs : List Expr} {outcome : Outcome Datum}
    (yields : YieldAll engine env exprs outcomes) (mem : outcome ∈ outcomes) :
    ∃ expr ∈ exprs, expr.Yields engine env outcome := by
  induction exprs generalizing outcomes with
  | nil =>
      rw [YieldAll] at yields
      subst yields
      cases mem
  | cons expr exprs ih =>
      rw [YieldAll] at yields
      obtain ⟨first, others, firstYields, othersYield, rfl⟩ := yields
      rcases List.mem_cons.1 mem with rfl | later
      · exact ⟨expr, .head _, firstYields⟩
      · obtain ⟨found, foundMem, foundYields⟩ := ih othersYield later
        exact ⟨found, .tail _ foundMem, foundYields⟩

theorem Expr.yields_of_mem_yieldActive {entries : List (Entry Expr)} {outcome : Outcome Datum}
    (yields : YieldActive engine env entries outcomes) (mem : outcome ∈ outcomes) :
    ∃ entry ∈ entries, entry.value.Yields engine env outcome := by
  induction entries generalizing outcomes with
  | nil =>
      rw [YieldActive] at yields
      subst yields
      cases mem
  | cons entry entries ih =>
      obtain ⟨presence, expr⟩ := entry
      have later {others : List (Outcome Datum)} (yields : YieldActive engine env entries others)
          (mem : outcome ∈ others) :
          ∃ entry ∈ ⟨presence, expr⟩ :: entries, entry.value.Yields engine env outcome := by
        obtain ⟨found, foundMem, foundYields⟩ := ih yields mem
        exact ⟨found, .tail _ foundMem, foundYields⟩
      rw [YieldActive] at yields
      split at yields
      · obtain ⟨first, others, firstYields, othersYield, rfl⟩ := yields
        rcases List.mem_cons.1 mem with rfl | inOthers
        · exact ⟨_, .head _, firstYields⟩
        · exact later othersYield inOthers
      · exact later yields mem

/-- A `CASE` comes to NULL only if one of its results does. -/
theorem Expr.yields_of_yieldBranch {branches : List (Expr × Expr)}
    {otherwise : Outcome Datum → Prop} (yields : YieldBranch engine env branches otherwise .null) :
    otherwise .null ∨ ∃ branch ∈ branches, branch.2.Yields engine env .null := by
  induction branches with
  | nil => exact .inl yields
  | cons branch branches ih =>
      obtain ⟨condition, result⟩ := branch
      rw [YieldBranch] at yields
      obtain ⟨test, -, chosen⟩ := yields
      split at chosen
      · cases chosen
      · split at chosen
        · exact .inr ⟨_, .head _, chosen⟩
        · refine (ih chosen).imp_right fun ⟨found, mem, foundYields⟩ => ?_
          exact ⟨found, .tail _ mem, foundYields⟩

theorem Expr.anyOptional_of_mem {exprs : List Expr} {expr : Expr} (mem : expr ∈ exprs)
    (optional : expr.type.isOptional = true) : anyOptional exprs = true := by
  induction exprs with
  | nil => cases mem
  | cons first others ih =>
      rw [anyOptional, Bool.or_eq_true]
      rcases List.mem_cons.1 mem with rfl | later
      · exact .inl optional
      · exact .inr (ih later)

theorem Expr.anyOptionalEntry_of_mem {entries : List (Entry Expr)} {entry : Entry Expr}
    (mem : entry ∈ entries) (optional : entry.value.type.isOptional = true) :
    anyOptionalEntry entries = true := by
  induction entries with
  | nil => cases mem
  | cons first others ih =>
      obtain ⟨presence, expr⟩ := first
      rw [anyOptionalEntry, Bool.or_eq_true]
      rcases List.mem_cons.1 mem with rfl | later
      · exact .inl optional
      · exact .inr (ih later)

end Lists

/-! ## Expressions that are NULL -/

/-- Columns and placeholders are NULL only if their types are optional. -/
structure Environment.Respects (env : Environment Datum) : Prop where
  column : ∀ column, env.column column = none → column.type.isOptional = true
  placeholder : ∀ parameter, env.Placeholder parameter none → parameter.type.isOptional = true

namespace Expr

/-- A select whose column has no value, as a value or as a group key. -/
def isValuelessSelect : Expr → Bool
  | subquery select => !(subquery select).type.hasValue
  | groupKey inner => inner.isValuelessSelect
  | _ => false

theorem hasValue_of_isValuelessSelect {expr : Expr} (valueless : expr.isValuelessSelect = true) :
    expr.type.hasValue = false := by
  induction expr using isValuelessSelect.induct with
  | case1 select => exact Bool.not_eq_true' _ ▸ valueless
  | case2 inner ih =>
      rw [type]
      exact ih valueless
  | case3 expr notSelect notGroupKey =>
      rw [isValuelessSelect] at valueless
      · cases valueless
      · exact notSelect
      · exact notGroupKey

/-- The type of a `CASE` is optional if that of some result is. -/
theorem isOptional_of_result {leading type : ValueType} {results : List ValueType}
    (comparable : ∀ result ∈ results, leading.comparable result = true) (mem : type ∈ results)
    (optional : type.isOptional = true) :
    (leading.optionalIf (results.any ValueType.isOptional)).isOptional = true := by
  have someOptional : results.any ValueType.isOptional = true :=
    List.any_eq_true.2 ⟨type, mem, optional⟩
  rw [someOptional]
  exact ValueType.isOptional_forceOptional
    (ValueType.hasValue_of_comparable (comparable type mem)).1

variable {engine : Engine Datum} {env : Environment Datum}

/-- Operands with a value are NULL only if their types are optional. -/
def NullsAreTyped (engine : Engine Datum) (env : Environment Datum) (operands : List Expr) : Prop :=
  ∀ operand ∈ operands, operand.type.hasValue = true → operand.Yields engine env .null →
    operand.type.isOptional = true

/-! ### Operators -/

theorem isOptional_unary {operator : UnaryOperator} {operand : Expr}
    (typed : (unary operator operand).IsTyped) (nulls : NullsAreTyped engine env [operand])
    (yields : (unary operator operand).Yields engine env .null) :
    (unary operator operand).type.isOptional = true := by
  obtain ⟨inner, innerYields, same⟩ := yields
  rw [type]
  cases operator with
  | negate =>
      obtain rfl := List.mem_singleton.1 (Engine.null_mem_of_strict same.symm)
      exact nulls _ (.head _) (ValueType.hasValue_of_isNumeric typed) innerYields
  | bitNot =>
      obtain rfl := List.mem_singleton.1 (Engine.null_mem_of_strict same.symm)
      exact nulls _ (.head _) (ValueType.hasValue_of_isInteger typed) innerYields
  | not =>
      rw [Engine.eq_null_of_negation same.symm] at innerYields
      have optional := nulls _ (.head _) (ValueType.hasValue_of_fits typed) innerYields
      simpa [UnaryOperator.resultType] using optional
  | isNull | isNotNull => exact absurd same.symm Engine.nullTest_ne_null

theorem isOptional_binary {operator : Operator} {left right : Expr} {type : ValueType}
    (typed : (binary operator left right type).IsTyped)
    (nulls : NullsAreTyped engine env [left, right])
    (yields : (binary operator left right type).Yields engine env .null) :
    type.isOptional = true := by
  obtain ⟨first, second, firstYields, secondYields, same⟩ := yields
  obtain ⟨leftValue, rightValue⟩ := Operator.hasValue_of_resultType typed.2
  unfold Engine.binary at same
  split at same
  · exact absurd same.symm Engine.distinction_ne_null
  · next notDistinction =>
      have either := Engine.null_mem_of_strict same.symm
      rw [List.mem_cons, List.mem_singleton] at either
      rw [Operator.isOptional_of_resultType typed.2 notDistinction, Bool.or_eq_true]
      rcases either with rfl | rfl
      · exact .inl (nulls _ (.head _) leftValue firstYields)
      · exact .inr (nulls _ (.tail _ (.head _)) rightValue secondYields)

theorem isOptional_concat {left right : Expr} (typed : (concat left right).IsTyped)
    (nulls : NullsAreTyped engine env [left, right])
    (yields : (concat left right).Yields engine env .null) :
    (concat left right).type.isOptional = true := by
  obtain ⟨first, second, firstYields, secondYields, same⟩ := yields
  have either := Engine.null_mem_of_strict same.symm
  rw [List.mem_cons, List.mem_singleton] at either
  rw [type, ValueType.isOptional_optionalIf_of, Bool.or_eq_true]
  rcases either with rfl | rfl
  · exact .inl (nulls _ (.head _) (ValueType.hasValue_of_fits typed.1) firstYields)
  · exact .inr (nulls _ (.tail _ (.head _)) (ValueType.hasValue_of_fits typed.2) secondYields)

theorem isOptional_chain {connective : Connective} {entries : List (Entry Expr)}
    (typed : (chain connective entries).IsTyped)
    (nulls : NullsAreTyped engine env (chain connective entries).children)
    (yields : (chain connective entries).Yields engine env .null) :
    (chain connective entries).type.isOptional = true := by
  obtain ⟨inner, innerYield, same⟩ := yields
  obtain ⟨entry, mem, entryYields⟩ :=
    yields_of_mem_yieldActive innerYield (Engine.null_mem_of_chain same.symm)
  have hasValue := ValueType.hasValue_of_fits (typed.2 entry mem)
  have optional := nulls _ (List.mem_map_of_mem mem) hasValue entryYields
  rw [type, ValueType.isOptional_conditionType]
  exact anyOptionalEntry_of_mem mem optional

theorem isOptional_within {negated : Bool} {tested : Expr} {items : List Expr}
    (typed : (within negated tested items).IsTyped)
    (nulls : NullsAreTyped engine env (tested :: items))
    (yields : (within negated tested items).Yields engine env .null) :
    (within negated tested items).type.isOptional = true := by
  rw [Yields] at yields
  split at yields
  · cases yields
  · next notEmpty =>
      obtain ⟨first, others, firstYields, othersYield, same⟩ := yields
      rw [type, ValueType.isOptional_conditionType, Bool.or_eq_true]
      rcases Engine.null_of_within same.symm with rfl | anyNull
      · cases items with
        | nil => exact absurd rfl notEmpty
        | cons item items =>
            have testedValue := (ValueType.hasValue_of_comparable (typed item (.head _))).1
            exact .inl (nulls _ (.head _) testedValue firstYields)
      · obtain ⟨item, mem, itemYields⟩ := yields_of_mem_yieldAll othersYield anyNull
        have itemValue := (ValueType.hasValue_of_comparable (typed item mem)).2
        exact .inr (anyOptional_of_mem mem (nulls _ (.tail _ mem) itemValue itemYields))

theorem isOptional_between {tested low high : Expr} (typed : (between tested low high).IsTyped)
    (nulls : NullsAreTyped engine env [tested, low, high])
    (yields : (between tested low high).Yields engine env .null) :
    (between tested low high).type.isOptional = true := by
  obtain ⟨first, second, third, firstYields, secondYields, thirdYields, same⟩ := yields
  obtain ⟨testedValue, lowValue⟩ := ValueType.hasValue_of_comparable typed.1
  obtain ⟨-, highValue⟩ := ValueType.hasValue_of_comparable typed.2
  have either := Engine.null_mem_of_strict same.symm
  rw [List.mem_cons, List.mem_cons, List.mem_singleton] at either
  rw [type, ValueType.isOptional_conditionType, Bool.or_eq_true, Bool.or_eq_true]
  rcases either with rfl | rfl | rfl
  · exact .inl (.inl (nulls _ (.head _) testedValue firstYields))
  · exact .inl (.inr (nulls _ (.tail _ (.head _)) lowValue secondYields))
  · exact .inr (nulls _ (.tail _ (.tail _ (.head _))) highValue thirdYields)

/-- The type of a `CASE` accounts for every branch and for `ELSE`, whichever is chosen. -/
theorem isOptional_cases {branches : List (Expr × Expr)} {otherwise : Expr} {type : ValueType}
    (typed : (cases branches otherwise type).IsTyped)
    (nulls : NullsAreTyped engine env (cases branches otherwise type).children)
    (yields : (cases branches otherwise type).Yields engine env .null) :
    type.isOptional = true := by
  obtain ⟨-, comparable, same⟩ := typed
  have chosen {result : Expr} (child : result ∈ (cases branches otherwise type).children)
      (mem : result.type ∈ resultTypes branches otherwise)
      (resultYields : result.Yields engine env .null) : type.isOptional = true := by
    have hasValue := (ValueType.hasValue_of_comparable (comparable _ mem)).2
    rw [same]
    exact isOptional_of_result comparable mem (nulls _ child hasValue resultYields)
  rcases yields_of_yieldBranch yields with otherwiseYields | ⟨branch, mem, resultYields⟩
  · refine chosen ?_ ?_ otherwiseYields
    · exact List.mem_append_right _ (.head _)
    · exact List.mem_append_right _ (.head _)
  · refine chosen ?_ ?_ resultYields
    · exact List.mem_append_left _ (List.mem_flatMap.2 ⟨branch, mem, .tail _ (.head _)⟩)
    · exact List.mem_append_left _ (List.mem_map.2 ⟨branch, mem, rfl⟩)

/-! ### Aggregate functions and selects -/

/-- Every aggregate function but `COUNT` has an optional type, because there may be no rows. -/
theorem isOptional_aggregate {call : AggregateCall} {argument? : Option Expr}
    (typed : (aggregate call argument?).IsTyped)
    (yields : (aggregate call argument?).Yields engine env .null) :
    (aggregate call argument?).type.isOptional = true := by
  have notCount : call.function ≠ .count := fun count => by cases yields count
  cases argument? with
  | none => exact absurd typed notCount
  | some argument =>
      rw [type]
      cases function : call.function with
      | count => exact absurd function notCount
      | avg => rfl
      | sum =>
          rw [AggregateFunction.resultType]
          split <;> rfl
      | min | max =>
          rw [IsTyped, function] at typed
          exact ValueType.isOptional_forceOptional typed

/-- The type of a select is made optional, which only has no effect if there is no value. -/
theorem isOptional_subquery (select : Select) :
    (subquery select).type.isOptional = true ∨ (subquery select).isValuelessSelect = true := by
  cases hasValue : (subquery select).type.hasValue with
  | false => exact .inr (by rw [isValuelessSelect, hasValue]; rfl)
  | true =>
      left
      obtain ⟨clauses⟩ := select
      rw [type] at hasValue ⊢
      rw [← ValueType.forceOptional_optionalIf _ true, ValueType.optionalIf, if_pos rfl]
      exact ValueType.isOptional_forceOptional hasValue

/-! ### All expressions -/

/-- An expression is NULL only if its type is optional, if that is so for its operands. -/
theorem isOptional_of_operands {expr : Expr} (respects : env.Respects) (typed : expr.IsTyped)
    (operands : ∀ child ∈ expr.children, child.Yields engine env .null →
      child.type.isOptional = true ∨ child.isValuelessSelect = true)
    (yields : expr.Yields engine env .null) :
    expr.type.isOptional = true ∨ expr.isValuelessSelect = true := by
  -- An operand with a value is not the exception.
  have nulls : NullsAreTyped engine env expr.children := by
    intro child mem hasValue childYields
    refine (operands child mem childYields).resolve_right fun valueless => ?_
    rw [hasValue_of_isValuelessSelect valueless] at hasValue
    cases hasValue
  cases expr with
  | column source =>
      rw [Yields] at yields
      exact .inl (respects.column source (Outcome.ofValue?_eq_null yields.symm))
  | value literal =>
      rw [Yields] at yields
      have isNull := Outcome.ofValue?_eq_null yields.symm
      cases literal <;> first | exact .inl rfl | cases isNull
  | parameter bound =>
      rw [Yields] at yields
      obtain ⟨value?, placeholder, same⟩ := yields
      rw [Outcome.ofValue?_eq_null same.symm] at placeholder
      exact .inl (respects.placeholder bound placeholder)
  | unary => exact .inl (isOptional_unary typed nulls yields)
  | binary => exact .inl (isOptional_binary typed nulls yields)
  | concat => exact .inl (isOptional_concat typed nulls yields)
  | chain => exact .inl (isOptional_chain typed nulls yields)
  | within => exact .inl (isOptional_within typed nulls yields)
  | between => exact .inl (isOptional_between typed nulls yields)
  | cases => exact .inl (isOptional_cases typed nulls yields)
  | aggregate => exact .inl (isOptional_aggregate typed yields)
  | groupKey inner =>
      rw [Yields] at yields
      rw [type, isValuelessSelect]
      exact operands inner (.head _) yields
  | existsIn select =>
      rw [Yields] at yields
      cases yields
  | subquery select => exact isOptional_subquery select

/-- An expression comes to NULL only if its type is optional, or if it is a select whose column has
no value. -/
theorem isOptional_of_yields_null {expr : Expr} (respects : env.Respects)
    (built : (Part.expr expr).Built) (yields : expr.Yields engine env .null) :
    expr.type.isOptional = true ∨ expr.isValuelessSelect = true := by
  generalize same : Part.expr expr = part at built
  induction part using Part.induction generalizing expr with
  | step part ih =>
      subst same
      refine isOptional_of_operands respects (isTyped_of_built built) ?_ yields
      intro child mem childYields
      have childPart : Part.expr child ∈ (Part.expr expr).children :=
        List.mem_append_left _ (List.mem_map_of_mem mem)
      exact ih _ childPart childYields rfl (built.of_mem_children childPart)

end Expr

/-! ## Bound values -/

/-- The values of columns, with the values that are bound to the parameters of a statement. -/
def Environment.bound (engine : Engine Datum) (columns : Column → Option Datum)
    (parameters : List Parameter) (values : List Value) : Environment Datum where
  column := columns
  Placeholder parameter value? :=
    ∃ value, (parameter, value) ∈ parameters.zip values ∧ value? = engine.value? value

section Bound

variable {engine : Engine Datum} {columns : Column → Option Datum} {parameters : List Parameter}
  {values : List Value}

/-- Values that were accepted for the parameters are NULL only where the types are optional. -/
theorem Environment.respects_bound (accepted : checkValues parameters values = .ok ())
    (respected : ∀ column, columns column = none → column.type.isOptional = true) :
    (bound engine columns parameters values).Respects where
  column := respected
  placeholder := by
    rintro parameter ⟨value, mem, isNull⟩
    have binds := (checkValues_eq_ok.1 accepted).2 _ mem
    rw [Engine.value?] at isNull
    split at isNull
    · next null =>
        rw [Parameter.binds, if_pos null] at binds
        exact binds
    · cases isNull

/-- With accepted values, an expression comes to something if its parameters are among those of the
statement. -/
theorem Expr.exists_yields_bound (accepted : checkValues parameters values = .ok ()) {expr : Expr}
    (listed : ∀ parameter ∈ (Part.expr expr).parameters, parameter ∈ parameters) :
    ∃ outcome, expr.Yields engine (.bound engine columns parameters values) outcome := by
  refine exists_yields fun parameter mem => ?_
  obtain ⟨index, inside, rfl⟩ := List.getElem_of_mem (listed parameter mem)
  have sameLength := (checkValues_eq_ok.1 accepted).1
  have insideZip : index < (parameters.zip values).length := by
    rw [List.length_zip]
    omega
  have paired := List.getElem_mem insideZip
  rw [List.getElem_zip] at paired
  exact ⟨_, _, paired, rfl⟩

end Bound

/-! ## Stored values -/

/-- A call takes the value for the column, in an assignment or in a row of an `INSERT`. -/
def Column.Takes (column : Column) (value : Expr) : Prop :=
  (∃ assignment, column.assign value = .ok assignment)
    ∨ ∃ (insert result : Insert) (columns : List Column) (rows : List (List Expr))
        (row : List (Entry Expr)), insert.values row = .ok result
      ∧ insert.clauses.getLast? = some (.values (.rows columns rows))
      ∧ (column, value) ∈ columns.zip (row.map Entry.value)

/-- What a call takes for a column passes the check of the column. -/
theorem Column.Takes.holds {column : Column} {value : Expr} (takes : column.Takes value) :
    Column.holds column.type value.type = true := by
  rcases takes with ⟨assignment, assigned⟩ | ⟨insert, result, columns, rows, row, made, last, mem⟩
  · rw [assign, check_eq_ok, check_eq_ok] at assigned
    exact (requireHolds_eq_ok.1 assigned.2.1).1
  · rw [Insert.values, check_eq_ok] at made
    simp only [last] at made
    have rowPassed := (check_eq_ok.1 made.2).1
    rw [Insert.requireRow, check_eq_ok] at rowPassed
    exact (requireHolds_eq_ok.1 (forM_eq_ok.1 rowPassed.2 _ mem)).1

/-- What a call takes for a column that may not be NULL has a type that is not optional, and it is
no select without a value. -/
theorem Column.Takes.notOptional {column : Column} {value : Expr} (takes : column.Takes value)
    (required : column.type.isOptional = false) :
    value.type.isOptional = false ∧ value.isValuelessSelect = false := by
  have holds := takes.holds
  rw [Column.holds, required, Bool.false_or, Bool.and_eq_true, Bool.not_eq_true'] at holds
  obtain ⟨comparable, notOptional⟩ := holds
  refine ⟨notOptional, Bool.eq_false_iff.2 fun valueless => ?_⟩
  have hasValue := (ValueType.hasValue_of_comparable comparable).2
  rw [Expr.hasValue_of_isValuelessSelect valueless] at hasValue
  cases hasValue

/-- An expression whose type is not optional is never NULL, unless it is a select whose column has
no value.  What a call takes for a column that may not be NULL is never NULL, when accepted values
are bound to the parameters, and it comes to something. -/
theorem Expr.nonOptional_not_null (engine : Engine Datum) :
    (∀ env : Environment Datum, env.Respects → ∀ expr, (Part.expr expr).Built →
      expr.type.isOptional = false → expr.isValuelessSelect = false →
      ¬ expr.Yields engine env .null)
    ∧ ∀ (columns : Column → Option Datum) (parameters : List Parameter) (values : List Value),
      (∀ column, columns column = none → column.type.isOptional = true) →
      checkValues parameters values = .ok () →
      ∀ (column : Column) (value : Expr), (Part.expr value).Built →
        column.type.isOptional = false → column.Takes value →
        ¬ value.Yields engine (.bound engine columns parameters values) .null
          ∧ ((∀ parameter ∈ (Part.expr value).parameters, parameter ∈ parameters) →
            ∃ outcome, value.Yields engine (.bound engine columns parameters values) outcome) := by
  have notNull (env : Environment Datum) (respects : env.Respects) (expr : Expr)
      (built : (Part.expr expr).Built) (notOptional : expr.type.isOptional = false)
      (notValueless : expr.isValuelessSelect = false) : ¬ expr.Yields engine env .null := by
    intro yields
    rcases isOptional_of_yields_null respects built yields with optional | valueless
    · rw [notOptional] at optional
      cases optional
    · rw [notValueless] at valueless
      cases valueless
  refine ⟨notNull, ?_⟩
  intro columns parameters values respected accepted column value built required takes
  obtain ⟨notOptional, notValueless⟩ := takes.notOptional required
  have respects : (Environment.bound engine columns parameters values).Respects :=
    Environment.respects_bound accepted respected
  exact ⟨notNull _ respects value built notOptional notValueless, exists_yields_bound accepted⟩

/-! ### A sum and a select -/

/-- Addition of integers.  All else fails. -/
def Engine.integers : Engine Int where
  literal
    | .int value => value.toInt
    | _ => 0
  truth holds := if holds then 1 else 0
  isTrue datum := datum != 0
  apply
    | .binary .add, [left, right] => some (left + right)
    | _, _ => none

/-- A number after that of a row. -/
def Expr.laterId : Expr :=
  .binary .add (.column (.ofId "foo")) (.parameter ⟨"step", .of .integral⟩) (.of .integral)

theorem Expr.laterId_built : (Part.expr laterId).Built := by
  have made : mkBinary .add (.column (.ofId "foo")) (.parameter ⟨"step", .of .integral⟩)
      = .ok laterId := rfl
  exact .of_pair (.binary made) (Column.ofId_built "foo") (.made (.parameter _) (by simp))

/-- The row numbers are 2. -/
def Environment.ofStep (value : Value) : Environment Int :=
  .bound .integers (fun _ => some 2) [⟨"step", .of .integral⟩] [value]

theorem Expr.laterId_not_null :
    checkValues [⟨"step", .of .integral⟩] [.int 3] = .ok ()
      ∧ (Column.ofId "foo").assign laterId = .ok ⟨.ofId "foo", some laterId⟩
      ∧ laterId.Yields .integers (.ofStep (.int 3)) (.datum 5)
      ∧ ¬ laterId.Yields .integers (.ofStep (.int 3)) .null := by
  have accepted : checkValues [⟨"step", .of .integral⟩] [.int 3] = .ok () := rfl
  have assigned : (Column.ofId "foo").assign laterId = .ok ⟨.ofId "foo", some laterId⟩ := rfl
  refine ⟨accepted, assigned, ?_, ?_⟩
  · exact ⟨.datum 2, .datum 3, rfl, ⟨some 3, ⟨.int 3, .head _, rfl⟩, rfl⟩, rfl⟩
  · have notNull := (nonOptional_not_null .integers).2 (fun _ => some 2) _ _ nofun accepted
    exact (notNull (.ofId "foo") laterId laterId_built rfl (.inl ⟨_, assigned⟩)).1

/-- A select of a parameter without a value is not optional, and it is NULL where there is no
row. -/
theorem Expr.valuelessSelect_null :
    (Part.expr (.subquery .valueless)).Built
      ∧ (Expr.subquery .valueless).type.isOptional = false
      ∧ (Environment.mk (fun _ => some 2) (fun _ value? => value? = some 3)).Respects
      ∧ (Expr.subquery .valueless).Yields .integers
        ⟨fun _ => some 2, fun _ value? => value? = some 3⟩ .null := by
  have made : mkSubquery .valueless = .ok (.subquery .valueless) := rfl
  refine ⟨.made (.subquery made) ?_, rfl, ⟨nofun, nofun⟩, trivial⟩
  rw [List.forall_mem_singleton]
  exact Select.valueless_built

end CheckedSql
