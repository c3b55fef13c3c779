import CheckedSql.Proofs.Built.Order

/-!
# Calls on statements

A statement is opened, possibly behind the definitions of `WITH`, and then taken further by
one call after the other.  `Statement.BuildCall` lists the calls with their arguments, and
`Statement.answer?` is what a statement answers to a call that it has.

All but three calls add a clause.  They make it from their arguments (`Statement.made?`), and
only then look at the clauses that are there, so they answer as
`Statement.answer?_of_made` says.  The three others change the last clause
(`Statement.BuildCall.revise?`).  `Statement.Reached` are the statements that a sequence of
successful calls ends at.  A failing call leaves nothing behind, so each call may follow.
-/

namespace CheckedSql

/-! ## Calls -/

/-- A call that takes a select further. -/
inductive Select.BuildCall where
  | distinct
  | «from» (table : TableRef)
  | «where» (condition : Entry Expr)
  | groupBy (entries : List (Entry Expr))
  | having (condition : Entry Expr)
  | union (unique : Bool) (arm : Entry Select)
  | orderBy (orders : List (Entry SortOrder))
  | limit (kind : LimitKind) (count : Expr)

/-- A call that takes an `INSERT` further. -/
inductive Insert.BuildCall where
  | set (assignments : List (Entry Assignment))
  | defaultValues
  | columns (listed : List Column)
  | values (row : List (Entry Expr))
  | doNothing (keys : List Column)
  | doUpdate (keys : List Column) (assignments : List (Entry Assignment))
  | «where» (condition : Entry Expr)
  | returning (entries : List (Entry SelectColumn))

/-- A call that takes an `UPDATE` further. -/
inductive Update.BuildCall where
  | set (assignments : List (Entry Assignment))
  | «where» (condition : Entry Expr)
  | unconditionally
  | returning (entries : List (Entry SelectColumn))

/-- A call that takes a `DELETE` further. -/
inductive Delete.BuildCall where
  | «using» (table : TableRef)
  | «where» (condition : Entry Expr)
  | unconditionally
  | returning (entries : List (Entry SelectColumn))

namespace Select.BuildCall

/-- What a select answers to a call. -/
def run (select : Select) : BuildCall → Except Error Select
  | distinct => select.distinct
  | .from table => select.from table
  | .where condition => select.where condition
  | groupBy entries => select.groupBy entries
  | having condition => select.having condition
  | union unique arm => select.union unique arm
  | orderBy orders => select.orderBy orders
  | limit kind count => select.limit kind count

/-- The clause that a call makes from its arguments. -/
def made? (select : Select) : BuildCall → Option (Except Error Clause)
  | distinct => none
  | .from table => some (.ok (.source .from table))
  | .where condition => some (Clause.mkWhere condition)
  | groupBy entries => some (Clause.mkGroupBy entries)
  | having condition => some (Clause.mkHaving condition)
  | union unique arm => some do
      arm.value.checkConsistency
      Clause.mkUnion select.fields unique arm
  | orderBy orders => some (Clause.mkOrderBy orders)
  | limit kind count => some (Clause.mkLimit kind count)

/-- The clause that a call would add. -/
def adds? : BuildCall → Option Clause
  | distinct => none
  | .from table => some (.source .from table)
  | .where condition => some (.where (some condition))
  | groupBy entries => some (.groupBy entries)
  | having condition => some (.having condition)
  | union unique arm => some (.union unique arm)
  | orderBy orders => some (.orderBy orders)
  | limit kind count => some (.limit kind count)

variable {select : Select} {call : BuildCall} {made : Except Error Clause} {clause : Clause}

/-- A call that adds a clause makes it and appends it. -/
theorem run_of_made (makes : call.made? select = some made) :
    call.run select = made >>= select.append := by
  cases call with
  | distinct => cases makes
  | union unique arm =>
      obtain rfl := Option.some.inj makes
      exact (bind_assoc _ _ _).symm
  | «from» | «where» | groupBy | having | orderBy | limit =>
      obtain rfl := Option.some.inj makes
      rfl

/-- The clause that is made is the one that the call would add, and a select may have it. -/
theorem adds?_of_made (makes : call.made? select = some (.ok clause)) :
    call.adds? = some clause ∧ (Statement.select select).allows clause = true := by
  cases call with
  | distinct => cases makes
  | «from» table =>
      cases makes
      exact ⟨rfl, rfl⟩
  | «where» condition =>
      obtain ⟨-, rfl⟩ := Clause.mkWhere_eq_ok.1 (Option.some.inj makes)
      exact ⟨rfl, rfl⟩
  | groupBy entries =>
      obtain ⟨-, -, -, rfl⟩ := Clause.mkGroupBy_eq_ok.1 (Option.some.inj makes)
      exact ⟨rfl, rfl⟩
  | having condition =>
      obtain ⟨-, rfl⟩ := Clause.mkHaving_eq_ok.1 (Option.some.inj makes)
      exact ⟨rfl, rfl⟩
  | union unique arm =>
      obtain ⟨-, rest⟩ := check_eq_ok.1 (Option.some.inj makes)
      obtain ⟨-, rfl⟩ := Clause.mkUnion_eq_ok.1 rest
      exact ⟨rfl, rfl⟩
  | orderBy orders =>
      obtain ⟨-, -, rfl⟩ := Clause.mkOrderBy_eq_ok.1 (Option.some.inj makes)
      exact ⟨rfl, rfl⟩
  | limit kind count =>
      obtain ⟨isLiteral, -, -, rfl⟩ := Clause.mkLimit_eq_ok (Option.some.inj makes)
      exact ⟨rfl, isLiteral⟩

end Select.BuildCall

namespace Insert.BuildCall

/-- What an `INSERT` answers to a call. -/
def run (insert : Insert) : BuildCall → Except Error Insert
  | set assignments => insert.set assignments
  | defaultValues => insert.defaultValues
  | columns listed => insert.columns listed
  | values row => insert.values row
  | doNothing keys => insert.onConflictDoNothing keys
  | doUpdate keys assignments => insert.onConflictDoUpdate keys assignments
  | .where condition => insert.where condition
  | returning entries => insert.returning entries

/-- The clause that a call makes from its arguments. -/
def made? : BuildCall → Option (Except Error Clause)
  | set assignments => some (Clause.mkInsertSet assignments)
  | defaultValues => some (.ok (.values .defaultValues))
  | columns listed => some (Clause.mkInsertColumns listed)
  | values _ => none
  | doNothing keys => some (Clause.mkDoNothing keys)
  | doUpdate keys assignments => some (Clause.mkDoUpdate keys assignments)
  | .where _ => none
  | returning entries => some (Clause.mkReturning entries)

/-- The clause that a call would add. -/
def adds? : BuildCall → Option Clause
  | set assignments => some (.values (.set assignments))
  | defaultValues => some (.values .defaultValues)
  | columns listed => some (.values (.rows listed []))
  | values _ => none
  | doNothing keys => some (.onConflict keys .doNothing)
  | doUpdate keys assignments => some (.onConflict keys (.doUpdate assignments none))
  | .where _ => none
  | returning entries => some (.returning entries)

variable {insert : Insert} {call : BuildCall} {made : Except Error Clause} {clause : Clause}

theorem run_of_made (makes : call.made? = some made) :
    call.run insert = made >>= insert.append := by
  cases call with
  | values | «where» => cases makes
  | set | defaultValues | columns | doNothing | doUpdate | returning =>
      obtain rfl := Option.some.inj makes
      rfl

theorem adds?_of_made (makes : call.made? = some (.ok clause)) :
    call.adds? = some clause ∧ (Statement.insert insert).allows clause = true := by
  cases call with
  | values | «where» => cases makes
  | set assignments =>
      obtain ⟨-, rfl⟩ := Clause.mkInsertSet_eq_ok.1 (Option.some.inj makes)
      exact ⟨rfl, rfl⟩
  | defaultValues =>
      cases makes
      exact ⟨rfl, rfl⟩
  | columns listed =>
      obtain ⟨-, -, rfl⟩ := Clause.mkInsertColumns_eq_ok.1 (Option.some.inj makes)
      exact ⟨rfl, rfl⟩
  | doNothing keys =>
      obtain ⟨-, rfl⟩ := Clause.mkDoNothing_eq_ok.1 (Option.some.inj makes)
      exact ⟨rfl, rfl⟩
  | doUpdate keys assignments =>
      obtain ⟨-, -, -, rfl⟩ := Clause.mkDoUpdate_eq_ok.1 (Option.some.inj makes)
      exact ⟨rfl, rfl⟩
  | returning entries =>
      obtain ⟨-, -, -, rfl⟩ := Clause.mkReturning_eq_ok.1 (Option.some.inj makes)
      exact ⟨rfl, rfl⟩

end Insert.BuildCall

namespace Update.BuildCall

/-- What an `UPDATE` answers to a call. -/
def run (update : Update) : BuildCall → Except Error Update
  | set assignments => update.set assignments
  | .where condition => update.where condition
  | unconditionally => update.unconditionally
  | returning entries => update.returning entries

/-- The clause that a call makes from its arguments. -/
def made : BuildCall → Except Error Clause
  | set assignments => Clause.mkSet assignments
  | .where condition => Clause.mkWhere condition
  | unconditionally => .ok (.where none)
  | returning entries => Clause.mkReturning entries

/-- The clause that a call would add. -/
def adds : BuildCall → Clause
  | set assignments => .set assignments
  | .where condition => .where (some condition)
  | unconditionally => .where none
  | returning entries => .returning entries

variable {update : Update} {call : BuildCall} {clause : Clause}

theorem run_eq : call.run update = call.made >>= update.append := by
  cases call <;> rfl

theorem adds_of_made (makes : call.made = .ok clause) :
    call.adds = clause ∧ (Statement.update update).allows clause = true := by
  cases call with
  | set assignments =>
      obtain ⟨-, rfl⟩ := Clause.mkSet_eq_ok.1 makes
      exact ⟨rfl, rfl⟩
  | «where» condition =>
      obtain ⟨-, rfl⟩ := Clause.mkWhere_eq_ok.1 makes
      exact ⟨rfl, rfl⟩
  | unconditionally =>
      cases makes
      exact ⟨rfl, rfl⟩
  | returning entries =>
      obtain ⟨-, -, -, rfl⟩ := Clause.mkReturning_eq_ok.1 makes
      exact ⟨rfl, rfl⟩

end Update.BuildCall

namespace Delete.BuildCall

/-- What a `DELETE` answers to a call. -/
def run (delete : Delete) : BuildCall → Except Error Delete
  | .using table => delete.using table
  | .where condition => delete.where condition
  | unconditionally => delete.unconditionally
  | returning entries => delete.returning entries

/-- The clause that a call makes from its arguments. -/
def made : BuildCall → Except Error Clause
  | .using table => .ok (.source .using table)
  | .where condition => Clause.mkWhere condition
  | unconditionally => .ok (.where none)
  | returning entries => Clause.mkReturning entries

/-- The clause that a call would add. -/
def adds : BuildCall → Clause
  | .using table => .source .using table
  | .where condition => .where (some condition)
  | unconditionally => .where none
  | returning entries => .returning entries

variable {delete : Delete} {call : BuildCall} {clause : Clause}

theorem run_eq : call.run delete = call.made >>= delete.append := by
  cases call <;> rfl

theorem adds_of_made (makes : call.made = .ok clause) :
    call.adds = clause ∧ (Statement.delete delete).allows clause = true := by
  cases call with
  | «using» | unconditionally =>
      cases makes
      exact ⟨rfl, rfl⟩
  | «where» condition =>
      obtain ⟨-, rfl⟩ := Clause.mkWhere_eq_ok.1 makes
      exact ⟨rfl, rfl⟩
  | returning entries =>
      obtain ⟨-, -, -, rfl⟩ := Clause.mkReturning_eq_ok.1 makes
      exact ⟨rfl, rfl⟩

end Delete.BuildCall

/-! ## Answers of statements -/

namespace Statement

/-- A call that takes a statement further. -/
inductive BuildCall where
  | select (call : Select.BuildCall)
  | insert (call : Insert.BuildCall)
  | update (call : Update.BuildCall)
  | delete (call : Delete.BuildCall)

/-- What a statement answers to a call, if it has this call. -/
def answer? : Statement → BuildCall → Option (Except Error Statement)
  | select old, .select call => some (select <$> call.run old)
  | insert old, .insert call => some (insert <$> call.run old)
  | update old, .update call => some (update <$> call.run old)
  | delete old, .delete call => some (delete <$> call.run old)
  | _, _ => none

/-- The clause that a call makes from its arguments, if it adds one. -/
def made? : Statement → BuildCall → Option (Except Error Clause)
  | select old, .select call => call.made? old
  | insert _, .insert call => call.made?
  | update _, .update call => some call.made
  | delete _, .delete call => some call.made
  | _, _ => none

namespace BuildCall

/-- The clause that a call would add. -/
def adds? : BuildCall → Option Clause
  | select call => call.adds?
  | insert call => call.adds?
  | update call => some call.adds
  | delete call => some call.adds

/-- What becomes of the last clause by a call that changes it, if it is such a clause: columns
that leave out repeated rows, rows with one more, or an update with its condition. -/
def revise? : BuildCall → Clause → Option Clause
  | select .distinct, .columns _ entries => some (.columns true entries)
  | insert (.values row), .values (.rows listed rows) =>
      some (.values (.rows listed (rows ++ [row.map Entry.value])))
  | insert (.where condition), .onConflict keys (.doUpdate assignments none) =>
      some (.onConflict keys (.doUpdate assignments (some condition)))
  | _, _ => none

end BuildCall

/-- The statement with other clauses. -/
def withClauses : Statement → List Clause → Statement
  | select _, clauses => select ⟨clauses⟩
  | insert _, clauses => insert ⟨clauses⟩
  | update _, clauses => update ⟨clauses⟩
  | delete _, clauses => delete ⟨clauses⟩

section Answers

variable {statement result : Statement} {call : BuildCall} {made : Except Error Clause}
  {last clause : Clause} {outcome : Except Error Statement}

@[simp] theorem clauses_withClauses (statement : Statement) (clauses : List Clause) :
    (statement.withClauses clauses).clauses = clauses := by
  cases statement <;> rfl

@[simp] theorem kind_withClauses (statement : Statement) (clauses : List Clause) :
    (statement.withClauses clauses).kind = statement.kind := by
  cases statement <;> rfl

/-- Which calls a statement has depends on its kind. -/
theorem isSome_answer?_withClauses (statement : Statement) (clauses : List Clause) :
    ((statement.withClauses clauses).answer? call).isSome = (statement.answer? call).isSome := by
  cases statement <;> cases call <;> rfl

/-- The statement with one more clause. -/
def append (statement : Statement) (clause : Clause) : Except Error Statement :=
  statement.withClauses <$> appendClause statement.clauses clause

/-- A clause is appended behind one of a lower place. -/
theorem append_eq (found : statement.clauses.getLast? = some last) :
    statement.append clause
      = if last.rank < clause.rank then .ok (statement.withClauses (statement.clauses ++ [clause]))
        else fail clause.origin (.clauseOrder clause.origin last.origin) := by
  simp only [append, appendClause, found]
  split <;> rfl

theorem append_select (old : Select) (clause : Clause) :
    (select old).append clause = select <$> old.append clause := by
  simp only [append, Select.append, clauses]
  cases appendClause old.clauses clause <;> rfl

theorem append_insert (old : Insert) (clause : Clause) :
    (insert old).append clause = insert <$> old.append clause := by
  simp only [append, Insert.append, clauses]
  cases appendClause old.clauses clause <;> rfl

theorem append_update (old : Update) (clause : Clause) :
    (update old).append clause = update <$> old.append clause := by
  simp only [append, Update.append, clauses]
  cases appendClause old.clauses clause <;> rfl

theorem append_delete (old : Delete) (clause : Clause) :
    (delete old).append clause = delete <$> old.append clause := by
  simp only [append, Delete.append, clauses]
  cases appendClause old.clauses clause <;> rfl

/-- A call that adds a clause makes it and appends it. -/
theorem answer?_of_made (makes : statement.made? call = some made) :
    statement.answer? call = some (made >>= statement.append) := by
  cases statement with
  | select old =>
      cases call with
      | select call =>
          rw [answer?, Select.BuildCall.run_of_made makes, map_bind]
          simp only [← append_select]
      | insert | update | delete => cases makes
  | insert old =>
      cases call with
      | insert call =>
          rw [answer?, Insert.BuildCall.run_of_made makes, map_bind]
          simp only [← append_insert]
      | select | update | delete => cases makes
  | update old =>
      cases call with
      | update call =>
          obtain rfl := Option.some.inj makes
          rw [answer?, Update.BuildCall.run_eq, map_bind]
          simp only [← append_update]
      | select | insert | delete => cases makes
  | delete old =>
      cases call with
      | delete call =>
          obtain rfl := Option.some.inj makes
          rw [answer?, Delete.BuildCall.run_eq, map_bind]
          simp only [← append_delete]
      | select | insert | update => cases makes

/-- The clause that is made is the one that the call would add, and the statement may have it. -/
theorem adds?_of_made (makes : statement.made? call = some (.ok clause)) :
    call.adds? = some clause ∧ statement.allows clause = true := by
  cases statement with
  | select old =>
      cases call with
      | select call => exact Select.BuildCall.adds?_of_made makes
      | insert | update | delete => cases makes
  | insert old =>
      cases call with
      | insert call => exact Insert.BuildCall.adds?_of_made makes
      | select | update | delete => cases makes
  | update old =>
      cases call with
      | update call =>
          obtain ⟨same, allowed⟩ := Update.BuildCall.adds_of_made (Option.some.inj makes)
          exact ⟨congrArg some same, allowed⟩
      | select | insert | delete => cases makes
  | delete old =>
      cases call with
      | delete call =>
          obtain ⟨same, allowed⟩ := Delete.BuildCall.adds_of_made (Option.some.inj makes)
          exact ⟨congrArg some same, allowed⟩
      | select | insert | update => cases makes

/-- A call that would add a clause makes one from its arguments, or fails to. -/
theorem exists_made (answer : statement.answer? call = some outcome)
    (adds : call.adds? = some clause) : ∃ made, statement.made? call = some made := by
  cases statement with
  | select old =>
      cases call with
      | select call =>
          cases call with
          | distinct => cases adds
          | _ => exact ⟨_, rfl⟩
      | insert | update | delete => cases answer
  | insert old =>
      cases call with
      | insert call =>
          cases call with
          | values | «where» => cases adds
          | _ => exact ⟨_, rfl⟩
      | select | update | delete => cases answer
  | update old =>
      cases call with
      | update call => exact ⟨_, rfl⟩
      | select | insert | delete => cases answer
  | delete old =>
      cases call with
      | delete call => exact ⟨_, rfl⟩
      | select | insert | update => cases answer

/-- A changed clause stands where the old one stood, in the same statements. -/
theorem BuildCall.revise?_keeps (revises : call.revise? last = some clause) :
    clause.rank = last.rank ∧ ∀ statement : Statement,
      statement.allows clause = statement.allows last := by
  unfold revise? at revises
  split at revises
  case h_4 => cases revises
  all_goals
    obtain rfl := Option.some.inj revises
    exact ⟨rfl, fun statement => by cases statement <;> rfl⟩

end Answers

end Statement

end CheckedSql
