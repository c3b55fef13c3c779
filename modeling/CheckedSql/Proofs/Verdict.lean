import CheckedSql.Execution

/-!
# What verdicts say

The checks of a statement succeed exactly if each rule holds.  A statement passes
`checkPrepare` if it is consistent and each of its clauses finds every name it
reads among those that the statement provides.  Values are accepted for parameters
if there is one for each and it can be bound.

A traversal fails with what is wrong about the first item that is refused
(`forM_eq_error`).  Which failures a check can end with at all follows from its parts
(`FailsOnly`): the rules of a statement itself never blame names that nothing provides, nor
the order of calls (`Statement.checksRules_checkConsistency`).
-/

namespace CheckedSql

theorem requireEmpty_eq_ok {names : NameSet} {origin : Origin}
    {failure : List String → Failure} :
    requireEmpty names origin failure = .ok () ↔ names.isEmpty = true := require_eq_ok

/-! ## Failures -/

theorem require_eq_error {condition : Bool} {origin : Origin} {failure : Failure} {error : Error} :
    require condition origin failure = .error error
      ↔ condition = false ∧ error = .check origin failure := by
  cases condition <;> simp [require, fail, eq_comm]

/-- What follows a check fails only after the check. -/
theorem check_eq_error {β : Type} {check : Except Error Unit} {next : Except Error β}
    {error : Error} :
    (check >>= fun _ => next) = .error error
      ↔ check = .error error ∨ check = .ok () ∧ next = .error error := by
  rw [bind_eq_error]
  refine or_congr_right ?_
  constructor
  · rintro ⟨⟨⟩, passed, failed⟩
    exact ⟨passed, failed⟩
  · rintro ⟨passed, failed⟩
    exact ⟨(), passed, failed⟩

/-- Checking the items of a list fails with the error of the first one that is refused. -/
theorem forM_eq_error {α : Type} {items : List α} {check : α → Except Error Unit} {error : Error} :
    items.forM check = .error error
      ↔ ∃ before item after, items = before ++ item :: after
        ∧ (∀ earlier ∈ before, check earlier = .ok ()) ∧ check item = .error error := by
  induction items with
  | nil =>
      constructor
      · rintro ⟨⟩
      · rintro ⟨before, item, after, same, -⟩
        cases before <;> cases same
  | cons first rest ih =>
      rw [List.forM, check_eq_error, ih]
      constructor
      · rintro (refused | ⟨passed, before, item, after, rfl, accepted, refused⟩)
        · exact ⟨[], first, rest, rfl, by simp, refused⟩
        · exact ⟨first :: before, item, after, rfl, List.forall_mem_cons.2 ⟨passed, accepted⟩,
            refused⟩
      · rintro ⟨before, item, after, same, accepted, refused⟩
        cases before with
        | nil =>
            obtain ⟨rfl, -⟩ := List.cons.inj same
            exact .inl refused
        | cons head before =>
            obtain ⟨rfl, rfl⟩ := List.cons.inj same
            obtain ⟨passed, accepted⟩ := List.forall_mem_cons.1 accepted
            exact .inr ⟨passed, before, item, after, rfl, accepted, refused⟩

/-- Every error that the outcome may be is of this kind. -/
def FailsOnly {α : Type} (kind : Error → Prop) (outcome : Except Error α) : Prop :=
  ∀ error, outcome = .error error → kind error

namespace FailsOnly

variable {α β : Type} {kind other : Error → Prop}

theorem ok (value : α) : FailsOnly kind (.ok value : Except Error α) := by
  rintro error ⟨⟩

theorem bind {first : Except Error α} {next : α → Except Error β} (here : FailsOnly kind first)
    (later : ∀ value, FailsOnly kind (next value)) : FailsOnly kind (first >>= next) := by
  intro error failed
  rcases bind_eq_error.1 failed with failsHere | ⟨value, -, failsLater⟩
  · exact here error failsHere
  · exact later value error failsLater

theorem fail {origin : Origin} {failure : Failure} (ofKind : kind (.check origin failure)) :
    FailsOnly kind (CheckedSql.fail origin failure : Except Error α) := by
  rintro error ⟨⟩
  exact ofKind

theorem require {condition : Bool} {origin : Origin} {failure : Failure}
    (ofKind : kind (.check origin failure)) :
    FailsOnly kind (CheckedSql.require condition origin failure) := by
  cases condition with
  | false => exact fail ofKind
  | true => exact ok ()

theorem forM {items : List α} {check : α → Except Error Unit}
    (each : ∀ item, FailsOnly kind (check item)) : FailsOnly kind (items.forM check) := by
  intro error failed
  obtain ⟨-, item, -, -, -, refused⟩ := forM_eq_error.1 failed
  exact each item error refused

theorem imp {outcome : Except Error α} (fails : FailsOnly kind outcome)
    (weaker : ∀ error, kind error → other error) : FailsOnly other outcome :=
  fun error failed => weaker error (fails error failed)

end FailsOnly

/-! ## Rules -/

/-- Columns belong to a target if their qualifiers are its identity. -/
theorem requireOwnColumns_eq_ok {origin : Origin} {target? : Option Table}
    {columns : List Column} :
    requireOwnColumns origin target? columns = .ok ()
      ↔ ∀ target ∈ target?, ∀ column ∈ columns, column.qualifier = target.identity := by
  cases target? with
  | none => simp [requireOwnColumns]
  | some target =>
      simp only [requireOwnColumns, Option.mem_some_iff, forall_eq']
      split
      · next none_foreign =>
          rw [List.find?_eq_none] at none_foreign
          simpa using none_foreign
      · next column found =>
          have foreign := List.find?_some found
          simp only [fail, reduceCtorEq, false_iff]
          intro own
          simp [own column (List.mem_of_find?_eq_some found)] at foreign

namespace Clause

/-- A clause is provided for if its names are among those that are provided. -/
theorem checkProvided_eq_ok {names : Names} {clause : Clause} :
    clause.checkProvided names = .ok ()
      ↔ (clause.names.needs.tables \ names.tables).isEmpty = true
        ∧ (clause.names.needs.ctes \ names.ctes).isEmpty = true := by
  simp only [checkProvided, check_eq_ok, requireEmpty_eq_ok]

end Clause

/-- The failures of a statement's own rules. -/
def Failure.isInconsistency : Failure → Bool
  | notAggregate | notStaticAggregate | mixedAggregates | orderByAggregates => true
  | foreignColumn .. | missingRequiredColumns .. | assignmentsRequired => true
  | unknownStaticTables .. | unknownStaticCtes .. => true
  | noColumnsSelected | insertValuesRequired | whereRequired | onConflictWhereRequired => true
  | _ => false

/-- The error says that a statement breaks one of its own rules. -/
def Error.isInconsistency : Error → Bool
  | check _ failure => failure.isInconsistency
  | _ => false

/-- The outcome is no failure but that of a statement's own rules. -/
abbrev ChecksRules (outcome : Except Error Unit) : Prop :=
  FailsOnly (fun error => error.isInconsistency = true) outcome

theorem checksRules_requireOwnColumns (origin : Origin) (target? : Option Table)
    (columns : List Column) : ChecksRules (requireOwnColumns origin target? columns) := by
  unfold requireOwnColumns
  split
  · exact .ok ()
  · split
    · exact .ok ()
    · exact .fail rfl

theorem checksRules_requireGrouped (origin : Origin) (scope : Scope) (isStatic : Bool)
    (expr : Expr) : ChecksRules (requireGrouped origin scope isStatic expr) :=
  .bind (.require rfl) fun _ => .require rfl

/-- The rules of a clause in its statement are rules of the statement. -/
theorem Clause.checksRules_checkConsistency (scope : Scope) (clause : Clause) :
    ChecksRules (clause.checkConsistency scope) := by
  have own := checksRules_requireOwnColumns
  cases clause with
  | columns marked entries =>
      rw [checkConsistency]
      split
      · exact .forM fun entry => checksRules_requireGrouped _ _ _ _
      · exact .require rfl
  | set assignments => exact .bind (own _ _ _) fun _ => .require rfl
  | values content =>
      rw [checkConsistency]
      split
      · exact .ok ()
      · exact .bind (own _ _ _) fun _ => .require rfl
  | having condition =>
      rw [checkConsistency]
      split
      · exact checksRules_requireGrouped _ _ _ _
      · exact .require rfl
  | orderBy orders =>
      rw [checkConsistency]
      split
      · exact .forM fun order => checksRules_requireGrouped _ _ _ _
      · exact .require rfl
  | onConflict keys action =>
      cases action with
      | doNothing => exact own _ _ _
      | doUpdate assignments condition? =>
          exact .bind (own _ _ _) fun _ => .bind (own _ _ _) fun _ =>
            .bind (.require rfl) fun _ => .require rfl
  | _ => exact .ok ()

namespace Statement

theorem checksRules_checkComplete (statement : Statement) :
    ChecksRules statement.checkComplete := by
  cases statement with
  | select | insert | delete => exact .require rfl
  | update => exact .bind (.require rfl) fun _ => .require rfl

theorem checksRules_checkConsistency (statement : Statement) :
    ChecksRules statement.checkConsistency := by
  refine .bind (.forM fun clause => clause.checksRules_checkConsistency _) fun _ => ?_
  refine .bind (.forM fun clause => ?_) fun _ => statement.checksRules_checkComplete
  exact .bind (.require rfl) fun _ => .require rfl

theorem checkConsistency_eq_ok {statement : Statement} :
    statement.checkConsistency = .ok ()
      ↔ (∀ clause ∈ statement.clauses, clause.checkConsistency statement.scope = .ok ())
        ∧ (∀ clause ∈ statement.clauses, clause.checkStatics statement.scope.names = .ok ())
        ∧ statement.checkComplete = .ok () := by
  simp only [checkConsistency, check_eq_ok, forM_eq_ok]

theorem checkPrepare_eq_ok {statement : Statement} :
    statement.checkPrepare = .ok ()
      ↔ statement.checkConsistency = .ok ()
        ∧ ∀ clause ∈ statement.clauses, clause.checkProvided statement.scope.names = .ok () := by
  simp only [checkPrepare, check_eq_ok, forM_eq_ok]

end Statement

theorem checkValues_eq_ok {parameters : List Parameter} {values : List Value} :
    checkValues parameters values = .ok () ↔ values.length = parameters.length
      ∧ ∀ pair ∈ parameters.zip values, pair.1.binds pair.2 = true := by
  have checked (pair : Parameter × Value) :
      pair.1.checkValue pair.2 = .ok () ↔ pair.1.binds pair.2 = true := by
    rw [Parameter.checkValue]
    split <;> simp [*]
  rw [checkValues]
  split
  · next different => exact ⟨nofun, fun accepted => absurd accepted.1 different⟩
  · next same =>
      rw [forM_eq_ok]
      simp only [checked, Decidable.not_not.1 same, true_and]

end CheckedSql
