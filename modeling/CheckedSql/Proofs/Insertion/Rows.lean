import CheckedSql.Proofs.Aggregation.Placement
import CheckedSql.Proofs.Built.CallOrder
import CheckedSql.Proofs.Insertion.RequiredColumns

/-!
# Rows that are added one by one

An `INSERT` of several rows is given its columns first, and then a row with each further
call.  A call may be refused, and the next one is tried on what was there before.
`Insert.attempts` goes through any calls in that way and keeps those that succeeded.

Whatever the calls are, the stored rows are those of the calls that succeeded, in their order
(`Insert.Progress.Sound`).  Each of them fits the columns, because a row is checked before it
is stored and nothing changes it afterwards.  The invariant has one case for each of the two
things that a successful call does: it adds a clause, or it changes the last one
(`Insert.run_eq_ok`).  The columns are compared with the table only by the check of the whole
statement (`Insert.attempts_fit`).
-/

namespace CheckedSql

/-! ## Columns and rows -/

/-- Columns that rows can be given for: some, of one table, each once, and all of them open to
assignments. -/
structure RowColumns (listed : List Column) : Prop where
  nonempty : listed ≠ []
  oneTable : ∀ first ∈ listed, ∀ second ∈ listed, first.qualifier = second.qualifier
  distinct : (listed.map Column.key).Nodup
  assignable : ∀ column ∈ listed, column.spec.readOnly = false

/-- A row with a value for each of the columns, which the column can hold. -/
structure RowFits (listed : List Column) (row : List Expr) : Prop where
  width : row.length = listed.length
  comparable : ∀ pair ∈ listed.zip row, pair.1.type.comparable pair.2.type = true
  nullable : ∀ pair ∈ listed.zip row, pair.2.type.isOptional = true → pair.1.spec.isNullable = true
  plain : ∀ value ∈ row, ¬ value.CallsAggregate

theorem Clause.rowColumns_of_requireAssignedColumns {origin : Origin} {listed : List Column}
    (passed : requireAssignedColumns origin listed = .ok ())
    (assignable : ∀ column ∈ listed, column.requireAssignable origin = .ok ()) :
    RowColumns listed := by
  have distinct := nodup_of_requireAssignedColumns passed
  cases listed with
  | nil => cases passed
  | cons first rest =>
      obtain ⟨-, oneTable⟩ := check_eq_ok.1 passed
      have same : ∀ column ∈ first :: rest, column.qualifier = first.qualifier := by
        refine List.forall_mem_cons.2 ⟨rfl, fun column mem => ?_⟩
        exact beq_iff_eq.1 (List.all_eq_true.1 (require_eq_ok.1 oneTable) column mem)
      refine ⟨List.cons_ne_nil _ _, fun one oneMem other otherMem => ?_, distinct, ?_⟩
      · rw [same one oneMem, same other otherMem]
      · intro column mem
        simpa using require_eq_ok.1 (assignable column mem)

/-- The check of a row asks whether it fits. -/
theorem Insert.requireRow_eq_ok {listed : List Column} {row : List Expr} :
    requireRow listed row = .ok () ↔ RowFits listed row := by
  have holds (column : Column) (value : Expr) : column.requireHolds value = .ok ()
      ↔ column.type.comparable value.type = true
        ∧ (value.type.isOptional = true → column.spec.isNullable = true)
        ∧ value.containsAggregate = false := by
    rw [Column.requireHolds_eq_ok, Column.holds, Bool.and_eq_true, and_assoc]
    show _ ∧ (column.spec.isNullable || !value.type.isOptional) = true ∧ _ ↔ _
    cases column.spec.isNullable <;> cases value.type.isOptional <;> simp
  constructor
  · intro passed
    have plain (value : Expr) (mem : value ∈ row) : ¬ value.CallsAggregate :=
      Expr.containsAggregate_eq_false_iff.1 (containsAggregate_of_requireRow passed mem)
    rw [requireRow, check_eq_ok, require_eq_ok, beq_iff_eq, forM_eq_ok] at passed
    exact ⟨passed.1, fun pair mem => ((holds _ _).1 (passed.2 pair mem)).1,
      fun pair mem => ((holds _ _).1 (passed.2 pair mem)).2.1, plain⟩
  · rintro ⟨width, comparable, nullable, plain⟩
    rw [requireRow, check_eq_ok, require_eq_ok, beq_iff_eq, forM_eq_ok]
    refine ⟨width, fun pair mem => (holds _ _).2 ⟨comparable pair mem, nullable pair mem, ?_⟩⟩
    exact Expr.containsAggregate_eq_false_iff.2 (plain pair.2 (List.of_mem_zip mem).2)

namespace Insert

/-! ## Calls that are tried -/

/-- An `INSERT` and the calls that have led to it. -/
structure Progress where
  insert : Insert
  /-- The calls that succeeded, in their order. -/
  accepted : List BuildCall

/-- A call that is refused leaves everything as it was. -/
def Progress.attempt (progress : Progress) (call : BuildCall) : Progress :=
  match call.run progress.insert with
  | .ok result => ⟨result, progress.accepted ++ [call]⟩
  | .error _ => progress

/-- What calls make of a new `INSERT`, if one after the other is tried. -/
def attempts (definitions : Option With) (table : Table) (calls : List BuildCall) : Progress :=
  calls.foldl Progress.attempt ⟨start definitions table, []⟩

/-- The row that a call gives. -/
def BuildCall.row? : BuildCall → Option (List Expr)
  | values row => some (row.map Entry.value)
  | _ => none

/-- The rows of calls, in their order. -/
def givenRows (calls : List BuildCall) : List (List Expr) := calls.filterMap BuildCall.row?

/-- An `INSERT` takes a row if it has just been given its columns or another row, and this one is
static and fits. -/
structure Takes (insert : Insert) (listed : List Column) (rows : List (List Expr))
    (row : List (Entry Expr)) : Prop where
  last : insert.clauses.getLast? = some (.values (.rows listed rows))
  static : ∀ entry ∈ row, entry.isStatic = true
  fits : RowFits listed (row.map Entry.value)

variable {old result : Insert} {call : BuildCall} {table : Table} {progress : Progress}
  {listed : List Column} {rows : List (List Expr)}

theorem values_eq_ok {row : List (Entry Expr)} :
    old.values row = .ok result
      ↔ ∃ listed rows, old.Takes listed rows row
        ∧ result = ⟨replaceLast old.clauses
          (.values (.rows listed (rows ++ [row.map Entry.value])))⟩ := by
  rw [values, check_eq_ok, require_eq_ok, List.all_eq_true]
  constructor
  · rintro ⟨static, given⟩
    split at given
    · next listed rows last =>
        obtain ⟨fits, same⟩ := check_eq_ok.1 given
        exact ⟨listed, rows, ⟨last, static, requireRow_eq_ok.1 fits⟩, (pure_eq_ok.1 same).symm⟩
    · cases given
  · rintro ⟨listed, rows, ⟨last, static, fits⟩, rfl⟩
    refine ⟨static, ?_⟩
    simp only [last]
    exact check_eq_ok.2 ⟨requireRow_eq_ok.2 fits, rfl⟩

/-- A successful call adds a clause behind all others, or changes the last one. -/
theorem run_eq_ok (ordered : (Statement.insert old).Ordered) (ran : call.run old = .ok result) :
    (∃ clause, call.adds? = some clause
        ∧ (∀ earlier ∈ old.clauses, earlier.rank < clause.rank)
        ∧ result.clauses = old.clauses ++ [clause])
      ∨ ∃ before last clause, (Statement.BuildCall.insert call).revise? last = some clause
        ∧ old.clauses = before ++ [last] ∧ result.clauses = before ++ [clause] := by
  have answer : (Statement.insert old).answer? (.insert call) = some (.ok (.insert result)) := by
    rw [Statement.answer?, ran]
    rfl
  obtain ⟨last, found⟩ := ordered.exists_last
  have found' : old.clauses.getLast? = some last := found
  rcases Statement.answer?_eq_ok found answer with
    ⟨clause, adds, -, behind, same⟩ | ⟨clause, revises, same⟩
  · refine .inl ⟨clause, adds, fun earlier mem => ?_, ?_⟩
    · refine Statement.rank_lt_of_last ordered.increasing (fun other isLast => ?_) mem
      cases found.symm.trans isLast
      exact behind
    · rw [Statement.insert.inj same]
      rfl
  · obtain ⟨before, clauses⟩ := List.getLast?_eq_some_iff.1 found'
    refine .inr ⟨before, last, clause, revises, clauses, ?_⟩
    rw [Statement.insert.inj same]
    show replaceLast old.clauses clause = _
    rw [clauses, replaceLast_append]

/-- A condition is given to a conflict action. -/
theorem exists_action_of_revise? {condition : Entry Expr} {last clause : Clause}
    (revises : (Statement.BuildCall.insert (.where condition)).revise? last = some clause) :
    ∃ keys action changed, last = .onConflict keys action ∧ clause = .onConflict keys changed := by
  cases last with
  | onConflict keys action =>
      cases action with
      | doNothing => cases revises
      | doUpdate assignments condition? =>
          cases condition? with
          | none => exact ⟨keys, _, _, rfl, (Option.some.inj revises).symm⟩
          | some => cases revises
  | _ => cases revises

/-! ## What calls preserve -/

/-- The rows that are stored are those of the calls that succeeded. -/
structure Progress.Sound (table : Table) (progress : Progress) : Prop where
  ordered : (Statement.insert progress.insert).Ordered
  target : .target .insertInto table ∈ progress.insert.clauses
  /-- Columns are stored with all rows that were given. -/
  stored : ∀ listed, .columns listed ∈ progress.accepted →
    .values (.rows listed (givenRows progress.accepted)) ∈ progress.insert.clauses
  /-- Nothing else is stored as rows. -/
  given : ∀ listed rows, .values (.rows listed rows) ∈ progress.insert.clauses →
    .columns listed ∈ progress.accepted
  /-- No row comes before the columns. -/
  declared : givenRows progress.accepted ≠ [] → ∃ listed, .columns listed ∈ progress.accepted
  columns : ∀ listed, .columns listed ∈ progress.accepted → RowColumns listed
  fits : ∀ listed, .columns listed ∈ progress.accepted →
    ∀ row ∈ givenRows progress.accepted, RowFits listed row

theorem givenRows_concat (calls : List BuildCall) (call : BuildCall) :
    givenRows (calls ++ [call]) = givenRows calls ++ call.row?.toList := by
  rw [givenRows, List.filterMap_append]
  cases call <;> rfl

namespace Progress.Sound

theorem of_start (definitions : Option With) (table : Table) :
    Sound table ⟨start definitions table, []⟩ where
  ordered := by
    have rank : (Clause.target .insertInto table).rank = 1 := rfl
    exact Statement.Ordered.of_start rank rfl rfl
  target := List.mem_append_right _ (.head _)
  stored := by rintro listed ⟨⟩
  given := by
    intro listed rows mem
    rcases List.mem_append.1 mem with isWith | isHead
    · obtain ⟨ctes, same⟩ := Statement.clauses_with isWith
      cases same
    · cases List.mem_singleton.1 isHead
  declared := fun some => absurd rfl some
  columns := by rintro listed ⟨⟩
  fits := by rintro listed ⟨⟩

/-- Rows that are stored are all that were given. -/
theorem rows_eq (sound : progress.Sound table)
    (mem : .values (.rows listed rows) ∈ progress.insert.clauses) :
    rows = givenRows progress.accepted := by
  have stored := sound.stored listed (sound.given listed rows mem)
  exact (InsertValues.rows.inj (Clause.values.inj (sound.ordered.eq_of_rank_eq mem stored rfl))).2

/-- A call that adds a clause finds no other clause in its place.  So it gives the first columns, or
it has nothing to do with rows. -/
theorem of_added (sound : progress.Sound table) {clause : Clause}
    (ran : call.run progress.insert = .ok result) (ordered : (Statement.insert result).Ordered)
    (adds : call.adds? = some clause)
    (behind : ∀ earlier ∈ progress.insert.clauses, earlier.rank < clause.rank)
    (clauses : result.clauses = progress.insert.clauses ++ [clause]) :
    Sound table ⟨result, progress.accepted ++ [call]⟩ := by
  have noRow : givenRows (progress.accepted ++ [call]) = givenRows progress.accepted := by
    rw [givenRows_concat]
    cases call with
    | values row => cases adds
    | _ => exact List.append_nil _
  have firstColumns (listed : List Column) (isColumns : call = .columns listed) :
      givenRows progress.accepted = [] := by
    subst isColumns
    cases adds
    by_contra some
    obtain ⟨other, mem⟩ := sound.declared some
    exact absurd (behind _ (sound.stored other mem)) (Nat.lt_irrefl _)
  have accepted (listed : List Column)
      (mem : BuildCall.columns listed ∈ progress.accepted ++ [call]) :
      BuildCall.columns listed ∈ progress.accepted ∨ call = .columns listed :=
    (List.mem_append.1 mem).imp_right fun isCall => (List.mem_singleton.1 isCall).symm
  constructor
  · exact ordered
  · rw [clauses]
    exact List.mem_append_left _ sound.target
  · intro listed mem
    rw [noRow, clauses]
    rcases accepted listed mem with earlier | isColumns
    · exact List.mem_append_left _ (sound.stored listed earlier)
    · rw [firstColumns listed isColumns]
      subst isColumns
      cases adds
      exact List.mem_append_right _ (.head _)
  · intro listed rows mem
    rw [clauses] at mem
    rcases List.mem_append.1 mem with inOld | isNew
    · exact List.mem_append_left _ (sound.given listed rows inOld)
    · rw [← List.mem_singleton.1 isNew] at adds
      refine List.mem_append_right _ (List.mem_singleton.2 ?_)
      cases call <;> cases adds
      rfl
  · rw [noRow]
    intro some
    obtain ⟨listed, mem⟩ := sound.declared some
    exact ⟨listed, List.mem_append_left _ mem⟩
  · intro listed mem
    rcases accepted listed mem with earlier | isColumns
    · exact sound.columns listed earlier
    · subst isColumns
      obtain ⟨made, makes, -⟩ := bind_eq_ok.1 ran
      obtain ⟨passed, assignable, -⟩ := Clause.mkInsertColumns_eq_ok.1 makes
      exact Clause.rowColumns_of_requireAssignedColumns passed assignable
  · intro listed mem
    rw [noRow]
    rcases accepted listed mem with earlier | isColumns
    · exact sound.fits listed earlier
    · rw [firstColumns listed isColumns]
      exact List.forall_mem_nil _

/-- A call that gives a row puts it behind the stored ones. -/
theorem of_row (sound : progress.Sound table) {row : List (Entry Expr)} {before : List Clause}
    (ordered : (Statement.insert result).Ordered) (fits : RowFits listed (row.map Entry.value))
    (old : progress.insert.clauses = before ++ [Clause.values (.rows listed rows)])
    (clauses : result.clauses
      = before ++ [Clause.values (.rows listed (rows ++ [row.map Entry.value]))]) :
    Sound table ⟨result, progress.accepted ++ [.values row]⟩ := by
  have isLast : Clause.values (.rows listed rows) ∈ progress.insert.clauses := by
    rw [old]
    exact List.mem_append_right _ (.head _)
  have declared := sound.given listed rows isLast
  have oneMore : givenRows (progress.accepted ++ [BuildCall.values row])
      = rows ++ [row.map Entry.value] := by
    rw [givenRows_concat, sound.rows_eq isLast]
    rfl
  have earlier {other : List Column}
      (mem : BuildCall.columns other ∈ progress.accepted ++ [.values row]) :
      BuildCall.columns other ∈ progress.accepted := by
    rcases List.mem_append.1 mem with inOld | isCall
    · exact inOld
    · cases List.mem_singleton.1 isCall
  have sameColumns {other : List Column} (mem : BuildCall.columns other ∈ progress.accepted) :
      other = listed := by
    have same := sound.ordered.eq_of_rank_eq (sound.stored other mem) isLast rfl
    exact (InsertValues.rows.inj (Clause.values.inj same)).1
  constructor
  · exact ordered
  · have target := sound.target
    rw [old] at target
    rw [clauses]
    rcases List.mem_append.1 target with inBefore | isRows
    · exact List.mem_append_left _ inBefore
    · cases List.mem_singleton.1 isRows
  · intro other mem
    rw [oneMore, clauses, sameColumns (earlier mem)]
    exact List.mem_append_right _ (.head _)
  · intro other otherRows mem
    rw [clauses] at mem
    rcases List.mem_append.1 mem with inBefore | isNew
    · refine List.mem_append_left _ (sound.given other otherRows ?_)
      rw [old]
      exact List.mem_append_left _ inBefore
    · cases List.mem_singleton.1 isNew
      exact List.mem_append_left _ declared
  · exact fun _ => ⟨listed, List.mem_append_left _ declared⟩
  · exact fun other mem => sound.columns other (earlier mem)
  · intro other mem
    rw [oneMore, sameColumns (earlier mem), sound.rows_eq isLast]
    exact List.forall_mem_append.2 ⟨sound.fits listed declared, List.forall_mem_singleton.2 fits⟩

/-- A call that gives a conflict update its condition leaves the rows alone. -/
theorem of_condition (sound : progress.Sound table) {condition : Entry Expr} {keys : List Column}
    {before : List Clause} {action changed : ConflictAction}
    (ordered : (Statement.insert result).Ordered)
    (old : progress.insert.clauses = before ++ [Clause.onConflict keys action])
    (clauses : result.clauses = before ++ [Clause.onConflict keys changed]) :
    Sound table ⟨result, progress.accepted ++ [.where condition]⟩ := by
  have kept {clause : Clause} (other : ∀ action, clause ≠ .onConflict keys action) :
      clause ∈ result.clauses ↔ clause ∈ progress.insert.clauses := by
    rw [clauses, old, List.mem_append, List.mem_append, List.mem_singleton, List.mem_singleton]
    simp only [other, or_false]
  have noRow : givenRows (progress.accepted ++ [BuildCall.where condition])
      = givenRows progress.accepted := by
    rw [givenRows_concat]
    exact List.append_nil _
  have sameColumns (listed : List Column) :
      BuildCall.columns listed ∈ progress.accepted ++ [.where condition]
        ↔ BuildCall.columns listed ∈ progress.accepted := by
    simp
  constructor
  · exact ordered
  · exact (kept (by simp)).2 sound.target
  · intro listed mem
    rw [noRow]
    exact (kept (by simp)).2 (sound.stored listed ((sameColumns listed).1 mem))
  · intro listed rows mem
    exact (sameColumns listed).2 (sound.given listed rows ((kept (by simp)).1 mem))
  · simp only [noRow, sameColumns]
    exact sound.declared
  · simp only [sameColumns]
    exact sound.columns
  · simp only [noRow, sameColumns]
    exact sound.fits

/-- A call that is tried preserves the invariant. -/
theorem attempt (sound : progress.Sound table) (call : BuildCall) :
    (progress.attempt call).Sound table := by
  rw [Progress.attempt]
  split
  · next result ran =>
      have answer : (Statement.insert progress.insert).answer? (.insert call)
          = some (.ok (.insert result)) := by
        rw [Statement.answer?, ran]
        rfl
      have ordered := sound.ordered.of_answer answer
      cases call with
      | values row =>
          obtain ⟨listed, rows, takes, rfl⟩ := values_eq_ok.1 ran
          obtain ⟨before, old⟩ := List.getLast?_eq_some_iff.1 takes.last
          exact sound.of_row ordered takes.fits old (by rw [old, replaceLast_append])
      | «where» condition =>
          rcases run_eq_ok sound.ordered ran with
            ⟨clause, adds, -⟩ | ⟨before, last, clause, revises, old, clauses⟩
          · cases adds
          · obtain ⟨keys, action, changed, rfl, rfl⟩ := exists_action_of_revise? revises
            exact sound.of_condition ordered old clauses
      | _ =>
          rcases run_eq_ok sound.ordered ran with
            ⟨clause, adds, behind, clauses⟩ | ⟨before, last, clause, revises, -⟩
          · exact sound.of_added ran ordered adds behind clauses
          · cases revises
  · exact sound

/-- Any calls that are tried one after the other preserve the invariant. -/
theorem foldl_attempt (sound : progress.Sound table) (calls : List BuildCall) :
    (calls.foldl Progress.attempt progress).Sound table := by
  induction calls generalizing progress with
  | nil => exact sound
  | cons call calls ih => exact ih (sound.attempt call)

end Progress.Sound

theorem attempts_sound (definitions : Option With) (table : Table) (calls : List BuildCall) :
    (attempts definitions table calls).Sound table :=
  (Progress.Sound.of_start definitions table).foldl_attempt calls

theorem attempts_concat (definitions : Option With) (table : Table) (calls : List BuildCall)
    (call : BuildCall) :
    attempts definitions table (calls ++ [call])
      = (attempts definitions table calls).attempt call := by
  rw [attempts, List.foldl_concat]
  rfl

/-! ## Stored and written rows -/

/-- A row that is taken is stored behind the others, and one that is not changes nothing. -/
theorem Progress.Sound.attempt_values (sound : progress.Sound table)
    (declared : .columns listed ∈ progress.accepted) (row : List (Entry Expr)) :
    (progress.insert.Takes listed (givenRows progress.accepted) row →
        .values (.rows listed (givenRows progress.accepted ++ [row.map Entry.value]))
          ∈ (progress.attempt (.values row)).insert.clauses)
      ∧ (¬ progress.insert.Takes listed (givenRows progress.accepted) row →
        progress.attempt (.values row) = progress) := by
  constructor
  · intro takes
    have ran : BuildCall.run progress.insert (.values row)
        = .ok ⟨replaceLast progress.insert.clauses
          (.values (.rows listed (givenRows progress.accepted ++ [row.map Entry.value])))⟩ :=
      values_eq_ok.2 ⟨listed, _, takes, rfl⟩
    rw [Progress.attempt, ran]
    exact List.mem_append_right _ (.head _)
  · intro refused
    rw [Progress.attempt]
    split
    · next result ran =>
        obtain ⟨other, rows, takes, -⟩ := values_eq_ok.1 ran
        have isLast := List.mem_of_getLast? takes.last
        have same := sound.ordered.eq_of_rank_eq isLast (sound.stored listed declared) rfl
        obtain ⟨rfl, rfl⟩ := InsertValues.rows.inj (Clause.values.inj same)
        exact absurd takes refused
    · rfl

/-- However an `INSERT` is built, with calls that may be refused: once columns have been given, they
are columns of one table that may be assigned, each once, and the rows that are stored for them are
those of the successful calls in their order, each with a value for each column that the column can
hold.  A row is taken as long as no other clause follows and it fits, and if it is refused, nothing
changes.  If the statement is consistent, there is a row, the columns are those of its table, and
its text has a tuple for each row. -/
theorem attempts_fit (definitions : Option With) (table : Table) (calls : List BuildCall)
    (declared : .columns listed ∈ (attempts definitions table calls).accepted) :
    let progress := attempts definitions table calls
    let rows := givenRows progress.accepted
    RowColumns listed
      ∧ (∀ content, .values content ∈ progress.insert.clauses ↔ content = .rows listed rows)
      ∧ (∀ row ∈ rows, RowFits listed row)
      ∧ (∀ row,
        (progress.insert.Takes listed rows row →
          .values (.rows listed (rows ++ [row.map Entry.value]))
            ∈ (attempts definitions table (calls ++ [.values row])).insert.clauses)
        ∧ (¬ progress.insert.Takes listed rows row →
          attempts definitions table (calls ++ [.values row]) = progress))
      ∧ ((Statement.insert progress.insert).checkConsistency = .ok () →
        rows ≠ [] ∧ (∀ column ∈ listed, column.qualifier = table.identity)
          ∧ progress.insert.Writes ⟨listed.map Column.name, rows.map fun row => row.map some⟩) := by
  intro progress rows
  have sound : progress.Sound table := attempts_sound definitions table calls
  have stored := sound.stored listed declared
  have only (content : InsertValues) (mem : .values content ∈ progress.insert.clauses) :
      content = .rows listed rows :=
    Clause.values.inj (sound.ordered.eq_of_rank_eq mem stored rfl)
  refine ⟨sound.columns listed declared, fun content => ⟨only content, ?_⟩,
    sound.fits listed declared, fun row => ?_, fun consistent => ?_⟩
  · rintro rfl
    exact stored
  · rw [attempts_concat]
    exact sound.attempt_values declared row
  · obtain ⟨content, mem, complete, -, own⟩ := exists_values sound.ordered consistent sound.target
    obtain rfl := only content mem
    refine ⟨fun none => ?_, own, writes_of_mem stored rfl⟩
    rw [InsertValues.isComplete, none] at complete
    cases complete

/-- Calls that give `foo` two numbers, with an empty row between them. -/
def twoIds : List BuildCall :=
  [.columns [.ofId "foo"], .values [.static (.value (.int 1))], .values [],
    .values [.static (.value (.int 2))]]

/-- The empty row is refused, and the numbers are written. -/
theorem twoIds_written :
    (attempts none (.ofId "foo") twoIds).insert.Writes
      ⟨["id"], [[some (.value (.int 1))], [some (.value (.int 2))]]⟩ := by
  have declared : .columns [.ofId "foo"] ∈ (attempts none (.ofId "foo") twoIds).accepted := .head _
  obtain ⟨-, -, -, -, consistently⟩ := attempts_fit none (.ofId "foo") twoIds declared
  exact (consistently rfl).2.2

end Insert

end CheckedSql
