import CheckedSql.Proofs.Built.Calls
import CheckedSql.Proofs.Verdict

/-!
# The order of calls

Calls may come in any order, and a statement refuses those that come too late.  This is the
only place where the order of calls matters: what a call checks about its arguments never
fails for order (`IgnoresOrder`).  So a call that adds a clause fails for order exactly if its
arguments are accepted and the place of the clause is not behind the last one
(`Statement.Adds`), and a call that changes the last clause does so if that is no clause for
it (`Statement.Revises`).

Every successful call keeps the clauses in order, by one case for each of the two kinds of
calls (`Statement.Reached.ordered`), and each clause behind the head is that of a call
(`Statement.Reached.exists_call`).
-/

namespace CheckedSql

/-! ## Failures for order -/

/-- The error is that a call comes too late. -/
def Error.isOrder : Error → Bool
  | check _ (.clauseOrder _ _) => true
  | _ => false

/-- The outcome is no failure for order. -/
def IgnoresOrder {α : Type} (outcome : Except Error α) : Prop :=
  ∀ error, outcome = .error error → error.isOrder = false

namespace IgnoresOrder

variable {α β : Type}

theorem ok (value : α) : IgnoresOrder (.ok value) := FailsOnly.ok value

theorem bind {first : Except Error α} {next : α → Except Error β} (here : IgnoresOrder first)
    (later : ∀ value, IgnoresOrder (next value)) : IgnoresOrder (first >>= next) :=
  FailsOnly.bind here later

theorem fail {origin : Origin} {failure : Failure}
    (other : (Error.check origin failure).isOrder = false) :
    IgnoresOrder (CheckedSql.fail origin failure : Except Error α) :=
  FailsOnly.fail other

theorem require {condition : Bool} {origin : Origin} {failure : Failure}
    (other : (Error.check origin failure).isOrder = false) :
    IgnoresOrder (CheckedSql.require condition origin failure) :=
  FailsOnly.require other

theorem forM {items : List α} {check : α → Except Error Unit}
    (each : ∀ item, IgnoresOrder (check item)) : IgnoresOrder (items.forM check) :=
  FailsOnly.forM each

/-- The rules of a statement are not about order. -/
theorem of_checksRules {check : Except Error Unit} (checks : ChecksRules check) :
    IgnoresOrder check := by
  refine checks.imp fun error ofRule => ?_
  cases error with
  | check origin failure =>
      cases failure with
      | clauseOrder => cases ofRule
      | _ => rfl
  | _ => rfl

end IgnoresOrder

/-! ## Checks of arguments -/

theorem ignoresOrder_requireAssignedColumns (origin : Origin) (columns : List Column) :
    IgnoresOrder (requireAssignedColumns origin columns) := by
  cases columns with
  | nil => exact .fail rfl
  | cons first rest => exact .bind (.require rfl) fun _ => .require rfl

theorem ignoresOrder_requireWhere (condition : Expr) : IgnoresOrder (requireWhere condition) :=
  .bind (.require rfl) fun _ => .require rfl

theorem ignoresOrder_requireRow (columns : List Column) (row : List Expr) :
    IgnoresOrder (Insert.requireRow columns row) := by
  refine .bind (.require rfl) fun _ => .forM fun pair => ?_
  exact .bind (.require rfl) fun _ => .require rfl

namespace Clause

theorem ignoresOrder_mkReturning (entries : List (Entry SelectColumn)) :
    IgnoresOrder (mkReturning entries) :=
  .bind (.require rfl) fun _ => .bind (.require rfl) fun _ => .bind (.require rfl) fun _ => .ok _

theorem ignoresOrder_mkWhere (condition : Entry Expr) : IgnoresOrder (mkWhere condition) :=
  .bind (ignoresOrder_requireWhere _) fun _ => .ok _

theorem ignoresOrder_mkLimit (kind : LimitKind) (count : Expr) :
    IgnoresOrder (mkLimit kind count) := by
  refine .bind (.require rfl) fun _ => ?_
  dsimp only
  split
  · exact .bind (.require rfl) fun _ => .ok _
  · exact .ok _

end Clause

theorem Select.ignoresOrder_checkConsistency (select : Select) :
    IgnoresOrder select.checkConsistency :=
  .of_checksRules (Statement.select select).checksRules_checkConsistency

theorem ignoresOrder_mkWith (ctes : List (Entry Cte)) : IgnoresOrder (With.mkWith ctes) := by
  have definitions (names : List String) (defined : Definitions) :
      IgnoresOrder (Definitions.requireAll names defined ctes) := by
    induction ctes generalizing defined with
    | nil => exact .ok ()
    | cons cte ctes ih =>
        refine .bind ?_ fun _ => ih _
        exact .bind (.require rfl) fun _ => .require rfl
  exact .bind (.require rfl) fun _ => .bind (.require rfl) fun _ =>
    .bind (definitions _ _) fun _ => .ok _

/-- What a call on a select checks about its arguments is not about order. -/
theorem Select.BuildCall.ignoresOrder_of_made {select : Select} {call : BuildCall}
    {made : Except Error Clause} (makes : call.made? select = some made) : IgnoresOrder made := by
  cases call with
  | distinct => cases makes
  | «from» table =>
      cases makes
      exact .ok _
  | «where» condition =>
      cases makes
      exact Clause.ignoresOrder_mkWhere condition
  | groupBy entries =>
      cases makes
      exact .bind (.require rfl) fun _ => .bind (.require rfl) fun _ => .bind (.require rfl)
        fun _ => .ok _
  | having condition =>
      cases makes
      exact .bind (.require rfl) fun _ => .ok _
  | union unique arm =>
      cases makes
      exact .bind arm.value.ignoresOrder_checkConsistency fun _ => .bind (.require rfl)
        fun _ => .ok _
  | orderBy orders =>
      cases makes
      exact .bind (.require rfl) fun _ => .bind (.require rfl) fun _ => .ok _
  | limit kind count =>
      cases makes
      exact Clause.ignoresOrder_mkLimit kind count

theorem Insert.BuildCall.ignoresOrder_of_made {call : BuildCall} {made : Except Error Clause}
    (makes : call.made? = some made) : IgnoresOrder made := by
  have assigned := ignoresOrder_requireAssignedColumns
  cases call with
  | values | «where» => cases makes
  | set assignments =>
      cases makes
      exact .bind (assigned _ _) fun _ => .ok _
  | defaultValues =>
      cases makes
      exact .ok _
  | columns listed =>
      cases makes
      exact .bind (assigned _ _) fun _ => .bind (.forM fun column => .require rfl) fun _ => .ok _
  | doNothing keys =>
      cases makes
      exact .bind (.require rfl) fun _ => .ok _
  | doUpdate keys assignments =>
      cases makes
      exact .bind (.require rfl) fun _ => .bind (.require rfl) fun _ => .bind (assigned _ _)
        fun _ => .ok _
  | returning entries =>
      cases makes
      exact Clause.ignoresOrder_mkReturning entries

theorem Update.BuildCall.ignoresOrder_made (call : BuildCall) : IgnoresOrder call.made := by
  cases call with
  | set assignments =>
      exact .bind (ignoresOrder_requireAssignedColumns _ _) fun _ => .ok _
  | «where» condition => exact Clause.ignoresOrder_mkWhere condition
  | unconditionally => exact .ok _
  | returning entries => exact Clause.ignoresOrder_mkReturning entries

theorem Delete.BuildCall.ignoresOrder_made (call : BuildCall) : IgnoresOrder call.made := by
  cases call with
  | «where» condition => exact Clause.ignoresOrder_mkWhere condition
  | «using» | unconditionally => exact .ok _
  | returning entries => exact Clause.ignoresOrder_mkReturning entries

/-! ## Answers -/

namespace Statement

variable {statement : Statement} {call : BuildCall} {outcome : Except Error Statement}
  {last clause : Clause} {made : Except Error Clause}

theorem ignoresOrder_of_made (makes : statement.made? call = some made) : IgnoresOrder made := by
  cases statement <;> cases call <;> try cases makes
  · exact Select.BuildCall.ignoresOrder_of_made makes
  · exact Insert.BuildCall.ignoresOrder_of_made makes
  · exact Update.BuildCall.ignoresOrder_made _
  · exact Delete.BuildCall.ignoresOrder_made _

/-- What a statement with this last clause answers to a call that adds a clause. -/
structure Adds (statement : Statement) (last : Clause) (call : BuildCall) (clause : Clause)
    (outcome : Except Error Statement) : Prop where
  /-- A clause that does not belong behind the last one is refused. -/
  late : clause.rank ≤ last.rank → ∃ error, outcome = .error error
  /-- With arguments that are accepted, the place of the clause decides. -/
  accepted : statement.made? call = some (.ok clause) →
    outcome = if last.rank < clause.rank
      then .ok (statement.withClauses (statement.clauses ++ [clause]))
      else .error (.check clause.origin (.clauseOrder clause.origin last.origin))
  /-- Other arguments are refused with what is wrong about them. -/
  refused : ∀ error, statement.made? call = some (.error error) → outcome = .error error
  /-- No other call fails for order. -/
  order : ∀ error, outcome = .error error → error.isOrder = true → clause.rank ≤ last.rank

/-- What a statement with this last clause answers to a call that changes the last clause. -/
structure Revises (statement : Statement) (last : Clause) (call : BuildCall)
    (outcome : Except Error Statement) : Prop where
  /-- The call succeeds only on a clause for it, and changes nothing else. -/
  success : ∀ result, outcome = .ok result → ∃ clause, call.revise? last = some clause
    ∧ result = statement.withClauses (replaceLast statement.clauses clause)
  /-- On such a clause it does not fail for order. -/
  order : ∀ error, outcome = .error error → error.isOrder = true → call.revise? last = none

theorem adds_of_answer (found : statement.clauses.getLast? = some last)
    (adds : call.adds? = some clause) (answer : statement.answer? call = some outcome) :
    statement.Adds last call clause outcome := by
  obtain ⟨made, makes⟩ := exists_made answer adds
  obtain rfl := Option.some.inj ((answer?_of_made makes).symm.trans answer)
  have sameClause : ∀ other, made = .ok other → other = clause := by
    rintro other rfl
    exact Option.some.inj ((adds?_of_made makes).1.symm.trans adds)
  cases made with
  | error failure =>
      -- the clauses that are there have not been looked at
      refine ⟨fun _ => ⟨failure, rfl⟩, fun accepted => ?_, fun error refused => ?_, ?_⟩
      · cases makes.symm.trans accepted
      · cases makes.symm.trans refused
        rfl
      · rintro error ⟨⟩ isOrder
        rw [ignoresOrder_of_made makes failure rfl] at isOrder
        cases isOrder
  | ok other =>
      obtain rfl := sameClause other rfl
      have answered : (Except.ok other >>= statement.append) = statement.append other := rfl
      rw [answered, append_eq found]
      refine ⟨fun late => ?_, fun _ => rfl, fun error refused => ?_, fun error failed _ => ?_⟩
      · exact ⟨_, if_neg (Nat.not_lt.2 late)⟩
      · cases makes.symm.trans refused
      · by_contra behind
        rw [if_pos (Nat.not_le.1 behind)] at failed
        cases failed

/-- The answer to a call that has found no clause for it. -/
theorem Revises.of_fail {error : Error} (noClause : call.revise? last = none) :
    statement.Revises last call (.error error) :=
  ⟨nofun, fun _ _ _ => noClause⟩

/-- The answer to a call whose check on the argument is not about order. -/
theorem Revises.of_check {check : Except Error Unit} (ignores : IgnoresOrder check)
    {changed : Except Error Statement} (revises : statement.Revises last call changed) :
    statement.Revises last call (check >>= fun _ => changed) := by
  cases check with
  | ok => exact revises
  | error failure =>
      refine ⟨nofun, ?_⟩
      rintro error ⟨⟩ isOrder
      rw [ignores failure rfl] at isOrder
      cases isOrder

theorem Revises.of_replace (revises : call.revise? last = some clause) :
    statement.Revises last call
      (.ok (statement.withClauses (replaceLast statement.clauses clause))) := by
  refine ⟨fun result same => ⟨clause, revises, (Except.ok.inj same).symm⟩, ?_⟩
  rintro error ⟨⟩

theorem revises_distinct {select : Select} (found : select.clauses.getLast? = some last) :
    (Statement.select select).Revises last (.select .distinct)
      (Statement.select <$> select.distinct) := by
  simp only [Select.distinct, found]
  cases last with
  | columns marked entries => exact .of_replace rfl
  | _ => exact .of_fail rfl

theorem revises_values {insert : Insert} {row : List (Entry Expr)}
    (found : insert.clauses.getLast? = some last) :
    (Statement.insert insert).Revises last (.insert (.values row))
      (Statement.insert <$> insert.values row) := by
  rw [Insert.values, map_bind]
  refine .of_check (.require rfl) ?_
  simp only [found]
  cases last with
  | values content =>
      cases content with
      | rows listed rows =>
          rw [map_bind]
          exact .of_check (ignoresOrder_requireRow _ _) (.of_replace rfl)
      | _ => exact .of_fail rfl
  | _ => exact .of_fail rfl

theorem revises_where {insert : Insert} {condition : Entry Expr}
    (found : insert.clauses.getLast? = some last) :
    (Statement.insert insert).Revises last (.insert (.where condition))
      (Statement.insert <$> insert.where condition) := by
  simp only [Insert.where, found]
  cases last with
  | onConflict keys action =>
      cases action with
      | doUpdate assignments condition? =>
          cases condition? with
          | none =>
              rw [map_bind]
              exact .of_check (ignoresOrder_requireWhere _) (.of_replace rfl)
          | some condition => exact .of_fail rfl
      | doNothing => exact .of_fail rfl
  | _ => exact .of_fail rfl

theorem revises_of_answer (found : statement.clauses.getLast? = some last)
    (adds : call.adds? = none) (answer : statement.answer? call = some outcome) :
    statement.Revises last call outcome := by
  cases statement <;> cases call <;> try cases answer
  case select.select old call =>
    cases call with
    | distinct => exact revises_distinct found
    | _ => cases adds
  case insert.insert old call =>
    cases call with
    | values row => exact revises_values found
    | «where» condition => exact revises_where found
    | _ => cases adds
  case update.update | delete.delete => cases adds

/-! ## Sequences of calls -/

/-- What a statement is opened with. -/
inductive Opening where
  | select (columns : List (Entry SelectColumn))
  | insertInto (table : Table)
  | update (table : Table)
  | deleteFrom (table : Table)

namespace Opening

/-- Opens a statement behind definitions. -/
def start (definitions : Option With) : Opening → Except Error Statement
  | select columns => Statement.select <$> Select.start definitions columns
  | insertInto table => .ok (.insert (.start definitions table))
  | update table => .ok (.update (.start definitions table))
  | deleteFrom table => .ok (.delete (.start definitions table))

/-- Opens a statement, behind a `WITH` if there are definitions for it. -/
def run (opening : Opening) : Option (List (Entry Cte)) → Except Error Statement
  | none => opening.start none
  | some ctes => do opening.start (some (← With.mkWith ctes))

variable {opening : Opening} {definitions : Option With}

/-- A select starts if its columns have different names.  They fit behind every definition. -/
theorem start_select (columns : List (Entry SelectColumn)) :
    (select columns).start definitions = requireUniqueNames .select columns >>= fun _ =>
      .ok (.select ⟨With.clauses definitions ++ [.columns false columns]⟩) := by
  have appended : appendClause (With.clauses definitions) (.columns false columns)
      = .ok (With.clauses definitions ++ [.columns false columns]) := by
    refine appendClause_eq_ok_iff.2 ⟨fun last found => ?_, rfl⟩
    obtain ⟨ctes, rfl⟩ := clauses_with (List.mem_of_getLast? found)
    exact Nat.zero_lt_one
  rw [start, Select.start, Clause.mkColumns]
  cases requireUniqueNames .select columns with
  | error => rfl
  | ok =>
      show Statement.select <$> (appendClause _ _ >>= _) = _
      rw [appended]
      rfl

/-- An opened statement has its definitions, if there are some, and its head. -/
theorem start_clauses {statement : Statement}
    (started : opening.start definitions = .ok statement) :
    ∃ head, head.rank = 1 ∧ statement.allows head = true
      ∧ statement.clauses = With.clauses definitions ++ [head] := by
  cases opening with
  | select columns =>
      rw [start_select, check_eq_ok] at started
      obtain rfl := Except.ok.inj started.2
      exact ⟨_, rfl, rfl, rfl⟩
  | insertInto table | update table | deleteFrom table =>
      obtain rfl := Except.ok.inj started
      exact ⟨_, rfl, rfl, rfl⟩

theorem run_clauses {ctes? : Option (List (Entry Cte))} {statement : Statement}
    (opened : opening.run ctes? = .ok statement) :
    ∃ definitions head, head.rank = 1 ∧ statement.allows head = true
      ∧ statement.clauses = With.clauses definitions ++ [head] := by
  cases ctes? with
  | none => exact ⟨none, start_clauses opened⟩
  | some ctes =>
      obtain ⟨definitions, -, started⟩ := bind_eq_ok.1 opened
      exact ⟨some definitions, start_clauses started⟩

/-- Opening a statement does not fail for order. -/
theorem ignoresOrder_run (opening : Opening) (ctes? : Option (List (Entry Cte))) :
    IgnoresOrder (opening.run ctes?) := by
  have starts (definitions : Option With) : IgnoresOrder (opening.start definitions) := by
    cases opening with
    | select columns =>
        rw [start_select]
        exact .bind (.require rfl) fun _ => .ok _
    | insertInto | update | deleteFrom => exact .ok _
  cases ctes? with
  | none => exact starts none
  | some ctes => exact .bind (ignoresOrder_mkWith ctes) fun definitions => starts (some definitions)

end Opening

/-- The statements that an opening and successful calls behind it end at. -/
inductive Reached (ctes? : Option (List (Entry Cte))) (opening : Opening) :
    List BuildCall → Statement → Prop where
  | opened {statement : Statement} :
      opening.run ctes? = .ok statement → Reached ctes? opening [] statement
  | called {calls : List BuildCall} {old result : Statement} {call : BuildCall} :
      Reached ctes? opening calls old → old.answer? call = some (.ok result) →
      Reached ctes? opening (calls ++ [call]) result

section Reaching

variable {ctes? : Option (List (Entry Cte))} {opening : Opening} {calls : List BuildCall}
  {old result : Statement}

/-- There is a last clause. -/
theorem Ordered.exists_last (ordered : statement.Ordered) :
    ∃ last, statement.clauses.getLast? = some last := by
  obtain ⟨head, mem, -⟩ := ordered.headed
  cases found : statement.clauses.getLast? with
  | none =>
      rw [List.getLast?_eq_none_iff.1 found] at mem
      cases mem
  | some last => exact ⟨last, rfl⟩

/-- A successful call appends the clause it adds, or replaces the last one. -/
theorem answer?_eq_ok (found : old.clauses.getLast? = some last)
    (answer : old.answer? call = some (.ok result)) :
    (∃ clause, call.adds? = some clause ∧ old.allows clause = true ∧ last.rank < clause.rank
        ∧ result = old.withClauses (old.clauses ++ [clause]))
      ∨ ∃ clause, call.revise? last = some clause
        ∧ result = old.withClauses (replaceLast old.clauses clause) := by
  cases adds : call.adds? with
  | none => exact .inr ((revises_of_answer found adds answer).success result rfl)
  | some clause =>
      obtain ⟨made, makes⟩ := exists_made answer adds
      cases made with
      | error failure => cases (adds_of_answer found adds answer).refused failure makes
      | ok other =>
          obtain ⟨sameClause, allowed⟩ := adds?_of_made makes
          obtain rfl := Option.some.inj (adds.symm.trans sameClause)
          have answered := (adds_of_answer found adds answer).accepted makes
          split at answered
          · next behind => exact .inl ⟨clause, rfl, allowed, behind, Except.ok.inj answered⟩
          · cases answered

/-- A successful call keeps the clauses in order. -/
theorem Ordered.of_answer (ordered : old.Ordered) (answer : old.answer? call = some (.ok result)) :
    result.Ordered := by
  obtain ⟨last, found⟩ := ordered.exists_last
  rcases answer?_eq_ok found answer with ⟨clause, -, allowed, behind, rfl⟩ | ⟨clause, revises, rfl⟩
  · have kind := old.kind_withClauses (old.clauses ++ [clause])
    refine ordered.of_append kind ?_ ?_ (clauses_withClauses _ _)
    · rwa [allows_eq_of_kind kind]
    · intro other isLast
      cases found.symm.trans isLast
      exact behind
  · obtain ⟨sameRank, sameAllowed⟩ := BuildCall.revise?_keeps revises
    obtain ⟨earlier, before⟩ := List.getLast?_eq_some_iff.1 found
    have kind := old.kind_withClauses (replaceLast old.clauses clause)
    refine ordered.of_replace kind ?_ sameRank before ?_
    · rw [allows_eq_of_kind kind, sameAllowed]
      exact ordered.allowed last (List.mem_of_getLast? found)
    · rw [clauses_withClauses, before, replaceLast_append]

/-- The clauses of a reached statement are in order. -/
theorem Reached.ordered (reached : Reached ctes? opening calls statement) : statement.Ordered := by
  induction reached with
  | opened opened =>
      obtain ⟨definitions, head, rank, allowed, clauses⟩ := Opening.run_clauses opened
      exact .of_start rank allowed clauses
  | called _ answer ih => exact ih.of_answer answer

/-- A clause behind the head has the place of a clause that one of the calls adds. -/
theorem Reached.exists_call (reached : Reached ctes? opening calls statement)
    (mem : clause ∈ statement.clauses) (behind : 2 ≤ clause.rank) :
    ∃ call ∈ calls, ∃ added, call.adds? = some added ∧ added.rank = clause.rank := by
  induction reached generalizing clause with
  | opened opened =>
      obtain ⟨definitions, head, rank, -, clauses⟩ := Opening.run_clauses opened
      rw [clauses] at mem
      rcases List.mem_append.1 mem with isWith | isHead
      · obtain ⟨ctes, rfl⟩ := clauses_with isWith
        cases behind
      · -- the head has the first place behind the definitions
        rw [List.mem_singleton.1 isHead, rank] at behind
        cases behind
        contradiction
  | @called calls old result call reached answer ih =>
      have kept {other : Clause} (otherMem : other ∈ old.clauses) (otherBehind : 2 ≤ other.rank) :
          ∃ earlier ∈ calls ++ [call], ∃ added, earlier.adds? = some added
            ∧ added.rank = other.rank := by
        obtain ⟨earlier, earlierMem, found⟩ := ih otherMem otherBehind
        exact ⟨earlier, List.mem_append_left _ earlierMem, found⟩
      obtain ⟨last, found⟩ := reached.ordered.exists_last
      rcases answer?_eq_ok found answer with ⟨added, adds, -, -, rfl⟩ | ⟨changed, revises, rfl⟩
      · rw [clauses_withClauses] at mem
        rcases List.mem_append.1 mem with inOld | isNew
        · exact kept inOld behind
        · rw [List.mem_singleton.1 isNew]
          exact ⟨call, List.mem_append_right _ (.head _), added, adds, rfl⟩
      · rw [clauses_withClauses] at mem
        rcases List.mem_append.1 mem with inOld | isNew
        · exact kept (List.dropLast_subset _ inOld) behind
        · -- a changed clause was added by the call that added the old one
          obtain rfl := List.mem_singleton.1 isNew
          have sameRank := (BuildCall.revise?_keeps revises).1
          rw [sameRank] at behind ⊢
          exact kept (List.mem_of_getLast? found) behind

/-- A reached statement has the calls that led to it. -/
theorem Reached.isSome_answer? (reached : Reached ctes? opening calls statement) :
    ∀ call ∈ calls, (statement.answer? call).isSome = true := by
  induction reached with
  | opened => exact List.forall_mem_nil _
  | @called calls old result call reached answer ih =>
      have sameCalls (other : BuildCall) :
          (result.answer? other).isSome = (old.answer? other).isSome := by
        obtain ⟨last, found⟩ := reached.ordered.exists_last
        rcases answer?_eq_ok found answer with ⟨_, -, -, -, rfl⟩ | ⟨_, -, rfl⟩ <;>
          exact isSome_answer?_withClauses old _
      refine List.forall_mem_append.2 ⟨fun other mem => ?_, List.forall_mem_singleton.2 ?_⟩
      · rw [sameCalls]
        exact ih other mem
      · rw [sameCalls, answer]
        rfl

/-! ## Calls that a change needs -/

theorem Reached.exists_update_call {update : Update}
    (reached : Reached ctes? opening calls (.update update)) (mem : clause ∈ update.clauses)
    (behind : 2 ≤ clause.rank) : ∃ call, .update call ∈ calls ∧ call.adds.rank = clause.rank := by
  obtain ⟨call, callMem, added, adds, rank⟩ := reached.exists_call mem behind
  have has := reached.isSome_answer? call callMem
  cases call with
  | update call =>
      obtain rfl := Option.some.inj adds
      exact ⟨call, callMem, rank⟩
  | select | insert | delete => cases has

theorem Reached.exists_delete_call {delete : Delete}
    (reached : Reached ctes? opening calls (.delete delete)) (mem : clause ∈ delete.clauses)
    (behind : 2 ≤ clause.rank) : ∃ call, .delete call ∈ calls ∧ call.adds.rank = clause.rank := by
  obtain ⟨call, callMem, added, adds, rank⟩ := reached.exists_call mem behind
  have has := reached.isSome_answer? call callMem
  cases call with
  | delete call =>
      obtain rfl := Option.some.inj adds
      exact ⟨call, callMem, rank⟩
  | select | insert | update => cases has

/-- A consistent update has been told what to assign, and which rows it is about. -/
theorem Reached.update_calls {update : Update}
    (reached : Reached ctes? opening calls (.update update))
    (consistent : (Statement.update update).checkConsistency = .ok ()) :
    (∃ assignments, .update (.set assignments) ∈ calls)
      ∧ (.update .unconditionally ∈ calls ∨ ∃ condition, .update (.where condition) ∈ calls) := by
  obtain ⟨-, -, complete⟩ := checkConsistency_eq_ok.1 consistent
  obtain ⟨assigns, complete⟩ := check_eq_ok.1 complete
  obtain ⟨set, setMem, isSet⟩ := List.any_eq_true.1 (require_eq_ok.1 assigns)
  obtain ⟨rows, rowsMem, isWhere⟩ := List.any_eq_true.1 (require_eq_ok.1 complete)
  constructor
  · cases set with
    | set assignments =>
        obtain ⟨call, callMem, rank⟩ := reached.exists_update_call setMem (Nat.le_refl 2)
        cases call with
        | set given => exact ⟨given, callMem⟩
        | _ => cases rank
    | _ => cases isSet
  · cases rows with
    | «where» condition? =>
        obtain ⟨call, callMem, rank⟩ := reached.exists_update_call rowsMem (by simp [Clause.rank])
        cases call with
        | unconditionally => exact .inl callMem
        | «where» condition => exact .inr ⟨condition, callMem⟩
        | _ => cases rank
    | _ => cases isWhere

/-- A consistent deletion has been told which rows it is about. -/
theorem Reached.delete_calls {delete : Delete}
    (reached : Reached ctes? opening calls (.delete delete))
    (consistent : (Statement.delete delete).checkConsistency = .ok ()) :
    .delete .unconditionally ∈ calls ∨ ∃ condition, .delete (.where condition) ∈ calls := by
  obtain ⟨-, -, complete⟩ := checkConsistency_eq_ok.1 consistent
  obtain ⟨rows, rowsMem, isWhere⟩ := List.any_eq_true.1 (require_eq_ok.1 complete)
  cases rows with
  | «where» condition? =>
      obtain ⟨call, callMem, rank⟩ := reached.exists_delete_call rowsMem (by simp [Clause.rank])
      cases call with
      | unconditionally => exact .inl callMem
      | «where» condition => exact .inr ⟨condition, callMem⟩
      | _ => cases rank
  | _ => cases isWhere

/-! ## The order of calls -/

/-- The place behind the definitions is that of the columns of a select and of a target. -/
theorem columns_or_target_of_rank {head : Clause} (rank : head.rank = 1) :
    (∃ marked entries, head = .columns marked entries)
      ∨ ∃ kind table, head = .target kind table := by
  cases head with
  | columns marked entries => exact .inl ⟨marked, entries, rfl⟩
  | target kind table => exact .inr ⟨kind, table, rfl⟩
  | limit kind count => cases kind <;> cases rank
  | _ => cases rank

/-- Whatever calls come, and in whatever order, the clauses of a statement are of its kind and in
the order of SQL: definitions, if there are some, one head, and others behind it.  A call that adds
a clause fails for order exactly if it comes too late and its arguments are accepted, a call that
changes the last clause changes only such a clause and nothing else, and no statement is opened in
the wrong order.  A change can be consistent only if it has been told which rows it is about, and
an update only if it has been told what to assign. -/
theorem reached_in_order (reached : Reached ctes? opening calls statement) :
    statement.Ordered
      ∧ (∃ definitions head others, statement.clauses = definitions ++ head :: others
        ∧ (definitions = [] ∨ ∃ ctes, definitions = [.with ctes])
        ∧ ((∃ marked entries, head = .columns marked entries)
          ∨ ∃ kind table, head = .target kind table)
        ∧ ∀ clause ∈ others, 2 ≤ clause.rank)
      ∧ (∃ last, statement.clauses.getLast? = some last
        ∧ (∀ call clause outcome, call.adds? = some clause →
          statement.answer? call = some outcome → statement.Adds last call clause outcome)
        ∧ ∀ call outcome, call.adds? = none → statement.answer? call = some outcome →
          statement.Revises last call outcome)
      ∧ (∀ (other : Opening) given?, IgnoresOrder (other.run given?))
      ∧ (∀ update, statement = .update update → statement.checkConsistency = .ok () →
        (∃ assignments, .update (.set assignments) ∈ calls)
          ∧ (.update .unconditionally ∈ calls ∨ ∃ condition, .update (.where condition) ∈ calls))
      ∧ ∀ delete, statement = .delete delete → statement.checkConsistency = .ok () →
        .delete .unconditionally ∈ calls ∨ ∃ condition, .delete (.where condition) ∈ calls := by
  have ordered := reached.ordered
  refine ⟨ordered, ?_, ?_, Opening.ignoresOrder_run, ?_, ?_⟩
  · obtain ⟨definitions, head, others, clauses, defines, rank, behind⟩ := ordered.split
    exact ⟨definitions, head, others, clauses, defines, columns_or_target_of_rank rank, behind⟩
  · obtain ⟨last, found⟩ := ordered.exists_last
    exact ⟨last, found, fun _ _ _ adds answer => adds_of_answer found adds answer,
      fun _ _ adds answer => revises_of_answer found adds answer⟩
  · rintro update rfl consistent
    exact reached.update_calls consistent
  · rintro delete rfl consistent
    exact reached.delete_calls consistent

end Reaching

/-- An update of every row. -/
def resetting : Statement :=
  .update ⟨[.target .update (.ofId "foo"),
    .set [.static ⟨.ofId "foo", some (.value (.int 0))⟩], .where none]⟩

/-- The calls that make the update. -/
def resettingCalls : List BuildCall :=
  [.update (.set [.static ⟨.ofId "foo", some (.value (.int 0))⟩]), .update .unconditionally]

theorem resetting_refuses_where :
    Reached none (.update (.ofId "foo")) resettingCalls resetting
      ∧ resetting.answer? (.update (.where (.static (.sameId "foo" "foo"))))
        = some (.error (.check .where (.clauseOrder .where .where)))
      ∧ .update .unconditionally ∈ resettingCalls := by
  have reached : Reached none (.update (.ofId "foo")) resettingCalls resetting := by
    show Reached _ _ (([] ++ [_]) ++ [_]) _
    exact .called (.called (.opened rfl) rfl) rfl
  obtain ⟨-, -, ⟨last, found, adding, -⟩, -, told, -⟩ := reached_in_order reached
  obtain rfl : Clause.where none = last := Option.some.inj found
  refine ⟨reached, ?_, ?_⟩
  · let condition : Entry Expr := .static (.sameId "foo" "foo")
    have answer := adding (.update (.where condition)) (.where (some condition)) _ rfl rfl
    exact congrArg some (answer.accepted rfl)
  · rcases (told _ rfl rfl).2 with unconditionally | ⟨condition, mem⟩
    · exact unconditionally
    · simp [resettingCalls] at mem

end Statement

end CheckedSql
