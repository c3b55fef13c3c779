import CheckedSql.Building.Change
import CheckedSql.Building.Cte
import CheckedSql.Proofs.Verdict

/-!
# What building calls return

One lemma for each call that builds a part: the call succeeds exactly if its
checks pass, and this is what it returns then.  After this file, only the calls that
replace the last clause of a statement are opened, where their steps are described.
-/

namespace CheckedSql

/-! ## Expressions -/

namespace Expr

theorem mkUnary_eq_ok {operator : UnaryOperator} {operand expr : Expr} :
    mkUnary operator operand = .ok expr
      ↔ operator.accepts operand.type = true ∧ .unary operator operand = expr := by
  simp only [mkUnary, check_eq_ok, pure_eq_ok, require_eq_ok]

theorem inExpression_eq_ok {α : Type} {outcome : Except Failure α} {result : α} :
    inExpression outcome = .ok result ↔ outcome = .ok result := by
  cases outcome <;> simp [inExpression]

theorem mkChain_eq_ok {connective : Connective} {left expr : Expr} {right : Entry Expr} :
    mkChain connective left right = .ok expr
      ↔ (∃ type, connective.operator.resultType left.type right.value.type = .ok type)
        ∧ chained connective left right = expr := by
  simp only [mkChain, bind_eq_ok, pure_eq_ok, inExpression_eq_ok, exists_and_right]

/-- A call adds its operand to a chain: to the one that the expression is, or to a new one. -/
theorem exists_chained (connective : Connective) (left : Expr) (right : Entry Expr) :
    ∃ operands, chained connective left right = chain connective (operands ++ [right])
      ∧ (left = chain connective operands ∨ operands = [.static left]) := by
  unfold chained
  split
  · next inner operands =>
      split
      · next same => exact ⟨operands, rfl, .inl (by rw [same])⟩
      · exact ⟨[_], rfl, .inr rfl⟩
  · exact ⟨[_], rfl, .inr rfl⟩

/-- A binary operator extends a chain, joins two texts, or gives a node with its type. -/
theorem mkBinary_eq_ok {operator : Operator} {left right expr : Expr}
    (h : mkBinary operator left right = .ok expr) :
    (∃ connective, operator.connective? = some connective
        ∧ mkChain connective left (.static right) = .ok expr)
      ∨ (operator = .add ∧ joinsTexts left.type right.type = true ∧ expr = .concat left right)
      ∨ (operator.connective? = none
        ∧ ¬(operator = .add ∧ joinsTexts left.type right.type = true)
        ∧ ∃ type, operator.resultType left.type right.type = .ok type
          ∧ expr = .binary operator left right type) := by
  unfold mkBinary at h
  split at h
  · next connective found => exact .inl ⟨connective, found, h⟩
  · next notFound =>
      split at h
      · next texts => exact .inr (.inl ⟨texts.1, texts.2, (Except.ok.inj h).symm⟩)
      · next noTexts =>
          obtain ⟨type, typed, same⟩ := bind_eq_ok.1 h
          exact .inr (.inr ⟨notFound, noTexts, type, inExpression_eq_ok.1 typed,
            (pure_eq_ok.1 same).symm⟩)

theorem requireComparable_eq_ok {origin : Origin} {operator : String} {type : ValueType}
    {others : List ValueType} :
    requireComparable origin operator type others = .ok ()
      ↔ ∀ other ∈ others, type.comparable other = true := by
  simp only [requireComparable, forM_eq_ok, require_eq_ok]

theorem mkWithin_eq_ok {negated : Bool} {tested expr : Expr} {items : List Expr} :
    mkWithin negated tested items = .ok expr
      ↔ (∀ item ∈ items, tested.type.comparable item.type = true)
        ∧ .within negated tested items = expr := by
  simp only [mkWithin, check_eq_ok, pure_eq_ok, requireComparable_eq_ok, List.forall_mem_map]

theorem mkBetween_eq_ok {tested low high expr : Expr} :
    mkBetween tested low high = .ok expr
      ↔ tested.type.comparable low.type = true ∧ tested.type.comparable high.type = true
        ∧ .between tested low high = expr := by
  simp only [mkBetween, check_eq_ok, pure_eq_ok, requireComparable_eq_ok, List.forall_mem_cons,
    List.not_mem_nil, false_implies, implies_true, and_true, and_assoc]

theorem requireBoolean_eq_ok {origin : Origin} {expr : Expr} :
    requireBoolean origin expr = .ok () ↔ expr.type.isBoolean = true := require_eq_ok

/-- The types of the results of a `CASE`. -/
def resultTypes (branches : List (Expr × Expr)) (otherwise : Expr) : List ValueType :=
  branches.map (fun branch => branch.2.type) ++ [otherwise.type]

theorem mkCases_eq_ok {branches : List (Expr × Expr)} {otherwise expr : Expr} :
    mkCases branches otherwise = .ok expr
      ↔ (∀ branch ∈ branches, branch.1.type.isBoolean = true)
        ∧ (∀ type ∈ resultTypes branches otherwise,
          (leadingType (resultTypes branches otherwise)).comparable type = true)
        ∧ .cases branches otherwise ((leadingType (resultTypes branches otherwise)).optionalIf
            ((resultTypes branches otherwise).any ValueType.isOptional)) = expr := by
  simp only [mkCases, check_eq_ok, pure_eq_ok, forM_eq_ok, requireBoolean_eq_ok,
    requireComparable_eq_ok, resultTypes]

theorem mkAggregate_eq_ok {function : AggregateFunction} {distinct : Bool}
    {argument expr : Expr} :
    mkAggregate function distinct argument = .ok expr
      ↔ argument.containsAggregate = false ∧ aggregateAccepts function argument.type = true
        ∧ .aggregate ⟨function, distinct, false⟩ (some argument) = expr := by
  simp only [mkAggregate, check_eq_ok, pure_eq_ok, require_eq_ok, Bool.not_eq_true']

theorem mkOver_eq_ok {inner expr : Expr} :
    mkOver inner = .ok expr
      ↔ ∃ call argument?, inner = .aggregate call argument?
        ∧ .aggregate { call with overAll := true } argument? = expr := by
  constructor
  · intro h
    cases inner with
    | aggregate call argument? => exact ⟨call, argument?, rfl, Except.ok.inj h⟩
    | _ => cases h
  · rintro ⟨call, argument?, rfl, rfl⟩
    rfl

theorem mkGroupKey_eq_ok {inner expr : Expr} :
    mkGroupKey inner = .ok expr ↔ inner.containsAggregate = false ∧ .groupKey inner = expr := by
  simp only [mkGroupKey, check_eq_ok, pure_eq_ok, require_eq_ok, Bool.not_eq_true']

theorem mkSubquery_eq_ok {select : Select} {expr : Expr} :
    mkSubquery select = .ok expr ↔ select.fields.length = 1 ∧ .subquery select = expr := by
  simp only [mkSubquery, check_eq_ok, pure_eq_ok, require_eq_ok, beq_iff_eq]

end Expr

/-! ## Tables -/

namespace TableRef

/-- The condition can join the two sides. -/
structure CanJoin (left : TableRef) (right : Entry TableRef) (condition : Expr) : Prop where
  boolean : condition.type.isBoolean = true
  plain : condition.containsAggregate = false
  tables : condition.needs.tables.isSubsetOf (left.names.tables ∪ right.value.names.tables) = true
  statics : right.isStatic = true → condition.needs.tables.isDisjoint left.dynamicTables = true

theorem requireJoinCondition_eq_ok {left : TableRef} {right : Entry TableRef}
    {condition : Expr} :
    requireJoinCondition left right condition = .ok () ↔ CanJoin left right condition := by
  simp only [requireJoinCondition, check_eq_ok, Expr.requireBoolean_eq_ok, require_eq_ok,
    Bool.not_eq_true', Bool.or_eq_true]
  constructor
  · rintro ⟨boolean, plain, tables, statics⟩
    exact ⟨boolean, plain, tables, fun isStatic => statics.resolve_left (by simp [isStatic])⟩
  · rintro ⟨boolean, plain, tables, statics⟩
    refine ⟨boolean, plain, tables, ?_⟩
    cases isStatic : right.isStatic with
    | false => exact .inl rfl
    | true => exact .inr (statics isStatic)

theorem requireOptionalCondition_eq_ok {left : TableRef} {right : Entry TableRef}
    {condition? : Option Expr} :
    requireOptionalCondition left right condition? = .ok ()
      ↔ ∀ condition ∈ condition?, CanJoin left right condition := by
  cases condition? with
  | none => simp [requireOptionalCondition]
  | some condition => simp [requireOptionalCondition, requireJoinCondition_eq_ok]

/-- The sides share no table and read none from elsewhere, and the condition can join them. -/
theorem mkJoin_eq_ok {left : TableRef} {kind : JoinKind} {right : Entry TableRef}
    {condition? : Option Expr} {table : TableRef} :
    mkJoin left kind right condition? = .ok table
      ↔ (left.names.tables ∩ right.value.names.tables).isEmpty = true
        ∧ left.names.needs.tables.isEmpty = true
        ∧ right.value.names.needs.tables.isEmpty = true
        ∧ (∀ condition ∈ condition?, CanJoin left right condition)
        ∧ .join left kind right condition? = table := by
  simp only [mkJoin, check_eq_ok, pure_eq_ok, requireEmpty_eq_ok,
    requireOptionalCondition_eq_ok]

end TableRef

theorem Select.as_eq_ok {select : Select} {name : String} {derived : SubSelect} :
    select.as name = .ok derived
      ↔ select.checkConsistency = .ok () ∧ ⟨select, name, select.fields⟩ = derived := by
  simp only [Select.as, check_eq_ok, pure_eq_ok]

namespace Cte

theorem define_eq_ok {name : String} {base : Select} {cte : Cte} :
    define name base = .ok cte
      ↔ base.unresolvedCtes.contains name = false ∧ base.unresolvedTables.isEmpty = true
        ∧ base.checkConsistency = .ok () ∧ ⟨name, base, [], base.fields⟩ = cte := by
  simp only [define, check_eq_ok, pure_eq_ok, require_eq_ok, requireEmpty_eq_ok,
    Bool.not_eq_true']

theorem union_eq_ok {cte result : Cte} {distinct : Bool} {arm : Entry Select} :
    cte.union distinct arm = .ok result
      ↔ cte.fields = arm.value.fields ∧ arm.value.unresolvedTables.isEmpty = true
        ∧ arm.value.checkConsistency = .ok ()
        ∧ { cte with
            arms := cte.arms
              ++ [⟨distinct, arm, arm.value.unresolvedCtes.contains cte.name⟩] } = result := by
  simp only [union, check_eq_ok, pure_eq_ok, Clause.requireSameFields, require_eq_ok,
    requireEmpty_eq_ok, beq_iff_eq]

end Cte

/-! ## Clauses -/

theorem Column.requireHolds_eq_ok {column : Column} {value : Expr} :
    column.requireHolds value = .ok ()
      ↔ holds column.type value.type = true ∧ value.containsAggregate = false := by
  simp only [requireHolds, check_eq_ok, require_eq_ok, Bool.not_eq_true']

theorem requireWhere_eq_ok {condition : Expr} :
    requireWhere condition = .ok ()
      ↔ condition.type.isBoolean = true ∧ condition.containsAggregate = false := by
  simp only [requireWhere, check_eq_ok, Expr.requireBoolean_eq_ok, require_eq_ok,
    Bool.not_eq_true']

namespace Clause

theorem mkColumns_eq_ok {columns : List (Entry SelectColumn)} {clause : Clause} :
    mkColumns columns = .ok clause
      ↔ requireUniqueNames .select columns = .ok () ∧ .columns false columns = clause := by
  simp only [mkColumns, check_eq_ok, pure_eq_ok]

theorem mkReturning_eq_ok {columns : List (Entry SelectColumn)} {clause : Clause} :
    mkReturning columns = .ok clause
      ↔ columns.isEmpty = false ∧ requireUniqueNames .returning columns = .ok ()
        ∧ (columns.any fun column => column.value.expr.containsAggregate) = false
        ∧ .returning columns = clause := by
  simp only [mkReturning, check_eq_ok, pure_eq_ok, require_eq_ok, Bool.not_eq_true']

theorem mkWhere_eq_ok {condition : Entry Expr} {clause : Clause} :
    mkWhere condition = .ok clause
      ↔ requireWhere condition.value = .ok () ∧ .where (some condition) = clause := by
  simp only [mkWhere, check_eq_ok, pure_eq_ok]

theorem mkHaving_eq_ok {condition : Entry Expr} {clause : Clause} :
    mkHaving condition = .ok clause
      ↔ condition.value.type.isBoolean = true ∧ .having condition = clause := by
  simp only [mkHaving, check_eq_ok, pure_eq_ok, Expr.requireBoolean_eq_ok]

theorem mkGroupBy_eq_ok {entries : List (Entry Expr)} {clause : Clause} :
    mkGroupBy entries = .ok clause
      ↔ entries.isEmpty = false ∧ (entries.all fun entry => entry.value.isGroupEntry) = true
        ∧ hasDuplicates (entries.map Entry.value) = false ∧ .groupBy entries = clause := by
  simp only [mkGroupBy, check_eq_ok, pure_eq_ok, require_eq_ok, Bool.not_eq_true']

theorem mkOrderBy_eq_ok {orders : List (Entry SortOrder)} {clause : Clause} :
    mkOrderBy orders = .ok clause
      ↔ orders.isEmpty = false
        ∧ hasDuplicates (orders.map fun order => order.value.expr) = false
        ∧ .orderBy orders = clause := by
  simp only [mkOrderBy, check_eq_ok, pure_eq_ok, require_eq_ok, Bool.not_eq_true']

/-- A row count is a literal or a placeholder of an integer type, and no negative number. -/
theorem mkLimit_eq_ok {kind : LimitKind} {count : Expr} {clause : Clause}
    (h : mkLimit kind count = .ok clause) :
    count.isLiteral = true ∧ count.type.isInteger = true
      ∧ (∀ number, count = .value (.int number) → 0 ≤ number.toInt)
      ∧ clause = .limit kind count := by
  obtain ⟨counted, rest⟩ := check_eq_ok.1 h
  rw [require_eq_ok, Bool.and_eq_true, Bool.and_eq_true] at counted
  refine ⟨counted.1, counted.2.2, ?_, ?_⟩
  · rintro number rfl
    have natural := require_eq_ok.1 (check_eq_ok.1 rest).1
    simpa using natural
  · split at rest <;> exact (pure_eq_ok.1 (check_eq_ok.1 rest).2).symm

theorem mkUnion_eq_ok {fields : List ResultField} {distinct : Bool} {arm : Entry Select}
    {clause : Clause} :
    mkUnion fields distinct arm = .ok clause
      ↔ fields = arm.value.fields ∧ .union distinct arm = clause := by
  simp only [mkUnion, requireSameFields, check_eq_ok, pure_eq_ok, require_eq_ok, beq_iff_eq]

/-- Assigned columns that pass are told apart by their keys. -/
theorem nodup_of_requireAssignedColumns {origin : Origin} {columns : List Column}
    (passed : requireAssignedColumns origin columns = .ok ()) :
    (columns.map Column.key).Nodup := by
  cases columns with
  | nil => exact List.nodup_nil
  | cons first rest =>
      have noDuplicates := require_eq_ok.1 (check_eq_ok.1 passed).1
      rwa [Bool.not_eq_true', hasDuplicates_eq_false_iff] at noDuplicates

theorem mkSet_eq_ok {assignments : List (Entry Assignment)} {clause : Clause} :
    mkSet assignments = .ok clause
      ↔ requireAssignedColumns .set (assignedColumns assignments) = .ok ()
        ∧ .set assignments = clause := by
  simp only [mkSet, check_eq_ok, pure_eq_ok]

theorem mkInsertSet_eq_ok {assignments : List (Entry Assignment)} {clause : Clause} :
    mkInsertSet assignments = .ok clause
      ↔ requireAssignedColumns .set (assignedColumns assignments) = .ok ()
        ∧ .values (.set assignments) = clause := by
  simp only [mkInsertSet, check_eq_ok, pure_eq_ok]

theorem mkInsertColumns_eq_ok {columns : List Column} {clause : Clause} :
    mkInsertColumns columns = .ok clause
      ↔ requireAssignedColumns .columns columns = .ok ()
        ∧ (∀ column ∈ columns, column.requireAssignable .columns = .ok ())
        ∧ .values (.rows columns []) = clause := by
  simp only [mkInsertColumns, check_eq_ok, pure_eq_ok, forM_eq_ok]

theorem mkDoNothing_eq_ok {columns : List Column} {clause : Clause} :
    mkDoNothing columns = .ok clause
      ↔ requireConflictTarget columns = .ok () ∧ .onConflict columns .doNothing = clause := by
  simp only [mkDoNothing, check_eq_ok, pure_eq_ok]

theorem mkDoUpdate_eq_ok {columns : List Column} {assignments : List (Entry Assignment)}
    {clause : Clause} :
    mkDoUpdate columns assignments = .ok clause
      ↔ columns.isEmpty = false ∧ requireConflictTarget columns = .ok ()
        ∧ requireAssignedColumns .doUpdate (assignedColumns assignments) = .ok ()
        ∧ .onConflict columns (.doUpdate assignments none) = clause := by
  simp only [mkDoUpdate, check_eq_ok, pure_eq_ok, require_eq_ok, Bool.not_eq_true']

end Clause

/-! ## Statements -/

/-- A clause is appended if its place is after the last one. -/
theorem appendClause_eq_ok_iff {clauses result : List Clause} {clause : Clause} :
    appendClause clauses clause = .ok result
      ↔ (∀ last ∈ clauses.getLast?, last.rank < clause.rank) ∧ result = clauses ++ [clause] := by
  constructor
  · intro h
    refine ⟨?_, appendClause_eq_ok h⟩
    intro last found
    unfold appendClause at h
    rw [Option.mem_def.1 found] at h
    split at h
    · next missing => cases missing
    · next same =>
        cases same
        split at h
        · assumption
        · cases h
  · rintro ⟨later, rfl⟩
    unfold appendClause
    split
    · next missing =>
        rw [List.getLast?_eq_none_iff] at missing
        simp [missing]
    · next last found => rw [if_pos (later last found)]

theorem Select.append_eq_ok {select result : Select} {clause : Clause} :
    select.append clause = .ok result
      ↔ appendClause select.clauses clause = .ok result.clauses := by
  cases result with
  | mk clauses => simp only [append, bind_eq_ok, pure_eq_ok, mk.injEq, exists_eq_right]

theorem Insert.append_eq_ok {insert result : Insert} {clause : Clause} :
    insert.append clause = .ok result
      ↔ appendClause insert.clauses clause = .ok result.clauses := by
  cases result with
  | mk clauses => simp only [append, bind_eq_ok, pure_eq_ok, mk.injEq, exists_eq_right]

theorem Update.append_eq_ok {update result : Update} {clause : Clause} :
    update.append clause = .ok result
      ↔ appendClause update.clauses clause = .ok result.clauses := by
  cases result with
  | mk clauses => simp only [append, bind_eq_ok, pure_eq_ok, mk.injEq, exists_eq_right]

theorem Delete.append_eq_ok {delete result : Delete} {clause : Clause} :
    delete.append clause = .ok result
      ↔ appendClause delete.clauses clause = .ok result.clauses := by
  cases result with
  | mk clauses => simp only [append, bind_eq_ok, pure_eq_ok, mk.injEq, exists_eq_right]

end CheckedSql
