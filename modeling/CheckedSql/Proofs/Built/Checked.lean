import CheckedSql.Proofs.Built.Step

/-!
# Origins of clauses

A call checks a clause before it puts it into a statement.  `Clause.Checked` says what
the call has found out about a clause of each kind.  Result columns, assignments and sort
orders have been made by calls of their own before that (`Clause.EntriesAreMade`), and columns
that are written were given to the call (`Clause.IsAdded`).

A statement keeps its clauses, up to the last one, which three calls revise: they check what they
change, and leave the rest (`Clause.Revises`).  So each clause has one of three origins
(`Clause.Provenance`).

The calls are read once, one after the other for each kind of statement
(`Statement.MadeFrom.traced`).  That every call is a step (`Statement.MadeFrom.step`), where the
clauses come from (`Statement.MadeFrom.provenance`), and that what the calls have found out about
the clauses of a built statement still holds of them (`Statement.checked_of_built`,
`Statement.entriesAreMade_of_built`) follows from there.
-/

namespace CheckedSql

/-- What the call that adds a clause to a statement has found out about it. -/
def Clause.Checked : Clause → Prop
  | .with ctes => With.mkWith ctes = .ok ⟨ctes⟩
  | columns _ entries => mkColumns entries = .ok (.columns false entries)
  | target _ _ => True
  | set assignments => mkSet assignments = .ok (.set assignments)
  | values .defaultValues => True
  | values (.set assignments) => mkInsertSet assignments = .ok (.values (.set assignments))
  | values (.rows listed given) =>
      mkInsertColumns listed = .ok (.values (.rows listed []))
        ∧ ∀ row ∈ given, Insert.requireRow listed row = .ok ()
  | source _ _ => True
  | .where condition? =>
      ∀ condition ∈ condition?, mkWhere condition = .ok (.where (some condition))
  | groupBy entries => mkGroupBy entries = .ok (.groupBy entries)
  | having condition => mkHaving condition = .ok (.having condition)
  | union _ arm => arm.value.checkConsistency = .ok ()
  | orderBy orders => mkOrderBy orders = .ok (.orderBy orders)
  | limit kind count => mkLimit kind count = .ok (.limit kind count)
  | onConflict keys .doNothing => mkDoNothing keys = .ok (.onConflict keys .doNothing)
  | onConflict keys (.doUpdate assignments condition?) =>
      mkDoUpdate keys assignments = .ok (.onConflict keys (.doUpdate assignments none))
        ∧ ∀ condition ∈ condition?, requireWhere condition.value = .ok ()
  | returning entries => mkReturning entries = .ok (.returning entries)

/-- The entries of the clause are such as calls make them. -/
def Clause.EntriesAreMade : Clause → Prop
  | columns _ entries | returning entries => ∀ column ∈ entries, column.value.IsMade
  | set assignments | values (.set assignments) | onConflict _ (.doUpdate assignments _) =>
      ∀ assignment ∈ assignments, assignment.value.IsMade
  | orderBy orders => ∀ order ∈ orders, order.value.IsMade
  | _ => True

/-- The columns that a clause writes, or compares rows by before it writes them. -/
def Clause.writtenColumns : Clause → List Column
  | set assignments => assignedColumns assignments
  | values content => content.columns
  | onConflict keys .doNothing => keys
  | onConflict keys (.doUpdate assignments _) => keys ++ assignedColumns assignments
  | _ => []

namespace Clause

/-- A clause that a call adds. -/
structure IsAdded (arguments : List Part) (clause : Clause) : Prop where
  checked : clause.Checked
  entries : clause.EntriesAreMade
  columns : ∀ column ∈ clause.writtenColumns, .column column ∈ arguments

/-- A call puts the first clause in the place of the second one. -/
inductive Revises : Clause → Clause → Prop where
  | distinct {marked : Bool} {entries : List (Entry SelectColumn)} :
      Revises (.columns true entries) (.columns marked entries)
  | row {listed : List Column} {rows : List (List Expr)} {row : List Expr}
      (fits : Insert.requireRow listed row = .ok ()) :
      Revises (.values (.rows listed (rows ++ [row]))) (.values (.rows listed rows))
  | condition {keys : List Column} {assignments : List (Entry Assignment)} {condition : Entry Expr}
      (fits : requireWhere condition.value = .ok ()) :
      Revises (.onConflict keys (.doUpdate assignments (some condition)))
        (.onConflict keys (.doUpdate assignments none))

/-- The clause is added by the call, or is one of a statement that is given to the call, or revises
one. -/
inductive Provenance (arguments : List Part) (clause : Clause) : Prop where
  | added (added : clause.IsAdded arguments)
  | kept {old : Statement} (given : .statement old ∈ arguments) (mem : clause ∈ old.clauses)
  | revised {old : Statement} {last : Clause} (given : .statement old ∈ arguments)
      (mem : last ∈ old.clauses) (revises : clause.Revises last)

theorem Revises.checked {clause last : Clause} (revises : clause.Revises last)
    (checked : last.Checked) : clause.Checked := by
  cases revises with
  | distinct => exact checked
  | row fits =>
      exact ⟨checked.1, List.forall_mem_append.2 ⟨checked.2, List.forall_mem_singleton.2 fits⟩⟩
  | condition fits =>
      refine ⟨checked.1, ?_⟩
      rintro condition ⟨⟩
      exact fits

theorem Revises.entriesAreMade {clause last : Clause} (revises : clause.Revises last)
    (made : last.EntriesAreMade) : clause.EntriesAreMade := by
  cases revises <;> exact made

theorem Revises.writtenColumns_eq {clause last : Clause} (revises : clause.Revises last) :
    clause.writtenColumns = last.writtenColumns := by
  cases revises <;> rfl

/-- A clause is revised in its place. -/
theorem Revises.rank_eq {clause last : Clause} (revises : clause.Revises last) :
    clause.rank = last.rank := by
  cases revises <;> rfl

theorem IsAdded.cons {arguments : List Part} {part : Part} {clause : Clause}
    (added : clause.IsAdded arguments) : clause.IsAdded (part :: arguments) :=
  { added with columns := fun column mem => .tail _ (added.columns column mem) }

/-- A condition on rows that has passed its check. -/
theorem IsAdded.of_mkWhere {arguments : List Part} {condition : Entry Expr} {clause : Clause}
    (made : mkWhere condition = .ok clause) : clause.IsAdded arguments := by
  obtain ⟨-, rfl⟩ := mkWhere_eq_ok.1 made
  refine ⟨?_, trivial, List.forall_mem_nil _⟩
  rintro condition ⟨⟩
  exact made

/-- Where every row is meant, there is no condition to check. -/
theorem IsAdded.where_none {arguments : List Part} : (Clause.where none).IsAdded arguments :=
  ⟨by rintro condition ⟨⟩, trivial, List.forall_mem_nil _⟩

/-- Returned columns that have passed their check. -/
theorem IsAdded.of_mkReturning {arguments : List Part} {entries : List (Entry SelectColumn)}
    {clause : Clause} (named : ∀ column ∈ entries, column.value.IsMade)
    (made : mkReturning entries = .ok clause) : clause.IsAdded arguments := by
  obtain ⟨-, -, -, rfl⟩ := mkReturning_eq_ok.1 made
  exact ⟨made, named, List.forall_mem_nil _⟩

/-! ## Calls -/

section Calls

variable {arguments : List Part} {old result : Statement} {added : Clause}

/-- The clauses of a new statement are the definitions of `WITH` and a head. -/
theorem provenance_of_start {definitions : Option With} (defined : With.AreMade definitions)
    (clauses : result.clauses = With.clauses definitions ++ [added])
    (head : added.IsAdded arguments) : ∀ clause ∈ result.clauses, clause.Provenance arguments := by
  rw [clauses]
  refine List.forall_mem_append.2 ⟨?_, List.forall_mem_singleton.2 (.added head)⟩
  cases definitions with
  | none => exact List.forall_mem_nil _
  | some given =>
      have isAdded : IsAdded arguments (.with given.ctes) :=
        ⟨defined given rfl, trivial, List.forall_mem_nil _⟩
      exact List.forall_mem_singleton.2 (.added isAdded)

theorem provenance_of_append (given : .statement old ∈ arguments)
    (appended : appendClause old.clauses added = .ok result.clauses)
    (new : added.IsAdded arguments) : ∀ clause ∈ result.clauses, clause.Provenance arguments := by
  rw [appendClause_eq_ok appended]
  exact List.forall_mem_append.2 ⟨fun _ => .kept given, List.forall_mem_singleton.2 (.added new)⟩

theorem provenance_of_replaceLast {last : Clause} (given : .statement old ∈ arguments)
    (found : old.clauses.getLast? = some last)
    (clauses : result.clauses = replaceLast old.clauses added) (revises : added.Revises last) :
    ∀ clause ∈ result.clauses, clause.Provenance arguments := by
  rw [clauses]
  refine List.forall_mem_append.2 ⟨fun clause mem => ?_, List.forall_mem_singleton.2 ?_⟩
  · exact .kept given (List.dropLast_subset _ mem)
  · exact .revised given (List.mem_of_getLast? found) revises

end Calls

end Clause

theorem column_mem_assignmentArguments {assignments : List (Entry Assignment)} {column : Column}
    (mem : column ∈ assignedColumns assignments) :
    .column column ∈ Assignment.arguments assignments := by
  obtain ⟨assignment, assignmentMem, rfl⟩ := List.mem_map.1 mem
  exact List.mem_append_left _ (List.mem_map.2 ⟨assignment, assignmentMem, rfl⟩)

namespace Statement

/-- What a call does to the clauses of a statement, and where each of them comes from then. -/
structure Traced (arguments : List Part) (result : Statement) : Prop where
  step : Step arguments result
  provenance : ∀ clause ∈ result.clauses, clause.Provenance arguments

namespace Traced

variable {arguments others : List Part} {old result : Statement} {clause : Clause}

/-- A call starts a statement behind definitions. -/
theorem start {definitions : Option With} (defined : With.AreMade definitions)
    (clauses : result.clauses = With.clauses definitions ++ [clause]) (rank : clause.rank = 1)
    (allowed : result.allows clause = true)
    (given : ∀ part ∈ With.parts definitions ++ clause.parts, part ∈ arguments)
    (added : clause.IsAdded arguments) : Traced arguments result where
  step := .start defined rank allowed clauses given
  provenance := Clause.provenance_of_start defined clauses added

/-- A call starts a change of a table. -/
theorem of_target {definitions : Option With} {target : TargetKind} (table : Table)
    (defined : With.AreMade definitions)
    (clauses : result.clauses = With.clauses definitions ++ [.target target table])
    (allowed : result.allows (.target target table) = true)
    (rank : (Clause.target target table).rank = 1) :
    Traced (.tableRef (.table table) :: With.parts definitions) result := by
  refine .start defined clauses rank allowed ?_ ⟨trivial, trivial, List.forall_mem_nil _⟩
  intro part mem
  rw [Clause.parts, List.append_nil] at mem
  exact .tail _ mem

/-- A call appends a clause to the statement that it is given. -/
theorem append (appended : appendClause old.clauses clause = .ok result.clauses)
    (kind : result.kind = old.kind) (allowed : result.allows clause = true)
    (given : clause.parts ⊆ others) (added : clause.IsAdded others) :
    Traced (.statement old :: others) result where
  step := .of_appendClause (.head _) appended kind allowed fun _ mem => .tail _ (given mem)
  provenance := Clause.provenance_of_append (.head _) appended added.cons

/-- A call revises the last clause of the statement that it is given. -/
theorem revise {last : Clause} (old : Statement) (found : old.clauses.getLast? = some last)
    (clauses : result.clauses = replaceLast old.clauses clause) (kind : result.kind = old.kind)
    (allowed : result.allows clause = true) (revises : clause.Revises last)
    (given : ∀ part ∈ clause.parts, part ∈ last.parts ∨ part ∈ others) :
    Traced (.statement old :: others) result where
  step := .of_replaceLast old found clauses (.head _) kind allowed revises.rank_eq
    fun part mem => (given part mem).imp_right (.tail _)
  provenance := Clause.provenance_of_replaceLast (.head _) found clauses revises

end Traced

namespace MadeFrom

variable {arguments : List Part}

/-! ### Calls on selects -/

/-- Every call that returns a select. -/
theorem traced_select {result : Select} (made : MadeFrom arguments (.select result)) :
    Traced arguments (.select result) := by
  cases made with
  | select defined named started =>
      obtain ⟨clause, checked, rest⟩ := bind_eq_ok.1 started
      obtain ⟨clauses, appended, same⟩ := bind_eq_ok.1 rest
      obtain rfl := pure_eq_ok.1 same
      obtain ⟨-, rfl⟩ := Clause.mkColumns_eq_ok.1 checked
      exact .start defined (appendClause_eq_ok appended) rfl rfl (fun _ => id)
        ⟨checked, named, List.forall_mem_nil _⟩
  | @selectDistinct select result made =>
      unfold Select.distinct at made
      split at made
      · cases made
      · next distinct columns last =>
          cases made
          exact .revise (.select select) last rfl rfl rfl .distinct fun _ => .inl
      · cases made
  | selectFrom made =>
      exact .append (Select.append_eq_ok.1 made) rfl rfl (List.Subset.refl _)
        ⟨trivial, trivial, List.forall_mem_nil _⟩
  | selectWhere made =>
      obtain ⟨clause, checked, appended⟩ := bind_eq_ok.1 made
      obtain ⟨-, rfl⟩ := Clause.mkWhere_eq_ok.1 checked
      exact .append (Select.append_eq_ok.1 appended) rfl rfl (List.Subset.refl _)
        (.of_mkWhere checked)
  | selectGroupBy made =>
      obtain ⟨clause, checked, appended⟩ := bind_eq_ok.1 made
      obtain ⟨-, -, -, rfl⟩ := Clause.mkGroupBy_eq_ok.1 checked
      exact .append (Select.append_eq_ok.1 appended) rfl rfl (List.Subset.refl _)
        ⟨checked, trivial, List.forall_mem_nil _⟩
  | selectHaving made =>
      obtain ⟨clause, checked, appended⟩ := bind_eq_ok.1 made
      obtain ⟨-, rfl⟩ := Clause.mkHaving_eq_ok.1 checked
      exact .append (Select.append_eq_ok.1 appended) rfl rfl (List.Subset.refl _)
        ⟨checked, trivial, List.forall_mem_nil _⟩
  | selectUnion made =>
      obtain ⟨consistent, rest⟩ := check_eq_ok.1 made
      obtain ⟨clause, checked, appended⟩ := bind_eq_ok.1 rest
      obtain ⟨-, rfl⟩ := Clause.mkUnion_eq_ok.1 checked
      exact .append (Select.append_eq_ok.1 appended) rfl rfl (List.Subset.refl _)
        ⟨consistent, trivial, List.forall_mem_nil _⟩
  | selectOrderBy ordered made =>
      obtain ⟨clause, checked, appended⟩ := bind_eq_ok.1 made
      obtain ⟨-, -, rfl⟩ := Clause.mkOrderBy_eq_ok.1 checked
      exact .append (Select.append_eq_ok.1 appended) rfl rfl (List.Subset.refl _)
        ⟨checked, ordered, List.forall_mem_nil _⟩
  | selectLimit made =>
      obtain ⟨clause, checked, appended⟩ := bind_eq_ok.1 made
      obtain ⟨isLiteral, -, -, rfl⟩ := Clause.mkLimit_eq_ok checked
      exact .append (Select.append_eq_ok.1 appended) rfl isLiteral (List.Subset.refl _)
        ⟨checked, trivial, List.forall_mem_nil _⟩

/-! ### Calls on inserts -/

/-- Every call that returns an `INSERT`. -/
theorem traced_insert {result : Insert} (made : MadeFrom arguments (.insert result)) :
    Traced arguments (.insert result) := by
  cases made with
  | insert table defined => exact .of_target table defined rfl rfl rfl
  | insertSet assigned made =>
      obtain ⟨clause, checked, appended⟩ := bind_eq_ok.1 made
      obtain ⟨-, rfl⟩ := Clause.mkInsertSet_eq_ok.1 checked
      exact .append (Insert.append_eq_ok.1 appended) rfl rfl (List.subset_append_right _ _)
        ⟨checked, assigned, fun _ => column_mem_assignmentArguments⟩
  | insertDefaultValues made =>
      exact .append (Insert.append_eq_ok.1 made) rfl rfl (List.Subset.refl _)
        ⟨trivial, trivial, List.forall_mem_nil _⟩
  | insertColumns made =>
      obtain ⟨clause, checked, appended⟩ := bind_eq_ok.1 made
      obtain ⟨-, -, rfl⟩ := Clause.mkInsertColumns_eq_ok.1 checked
      exact .append (Insert.append_eq_ok.1 appended) rfl rfl (List.nil_subset _)
        ⟨⟨checked, List.forall_mem_nil _⟩, trivial, fun _ => List.mem_map_of_mem⟩
  | @insertValues insert result row made =>
      obtain ⟨-, added⟩ := check_eq_ok.1 made
      dsimp only at added
      split at added
      · next columns rows last =>
          obtain ⟨fits, same⟩ := check_eq_ok.1 added
          obtain rfl := pure_eq_ok.1 same
          refine .revise (.insert insert) last rfl rfl rfl (.row fits) ?_
          intro part mem
          simp only [Clause.parts, InsertValues.parts, List.flatMap_append, List.flatMap_cons,
            List.flatMap_nil, List.append_nil, List.map_map] at mem
          exact List.mem_append.1 mem
      · cases added
  | insertDoNothing made =>
      obtain ⟨clause, checked, appended⟩ := bind_eq_ok.1 made
      obtain ⟨-, rfl⟩ := Clause.mkDoNothing_eq_ok.1 checked
      exact .append (Insert.append_eq_ok.1 appended) rfl rfl (List.nil_subset _)
        ⟨checked, trivial, fun _ => List.mem_map_of_mem⟩
  | insertDoUpdate assigned made =>
      obtain ⟨clause, checked, appended⟩ := bind_eq_ok.1 made
      obtain ⟨-, -, -, rfl⟩ := Clause.mkDoUpdate_eq_ok.1 checked
      refine .append (Insert.append_eq_ok.1 appended) rfl rfl ?_
        ⟨⟨checked, by rintro condition ⟨⟩⟩, assigned, fun column mem => ?_⟩
      · intro part mem
        simp only [Clause.parts, ConflictAction.parts, Option.toList_none, List.map_nil,
          List.append_nil] at mem
        exact List.mem_append_right _ (List.mem_append_right _ mem)
      · rcases List.mem_append.1 mem with isKey | isAssigned
        · exact List.mem_append_left _ (List.mem_map_of_mem isKey)
        · exact List.mem_append_right _ (column_mem_assignmentArguments isAssigned)
  | @insertWhere insert result condition made =>
      unfold Insert.where at made
      split at made
      · next columns assignments last =>
          obtain ⟨fits, same⟩ := check_eq_ok.1 made
          obtain rfl := pure_eq_ok.1 same
          refine .revise (.insert insert) last rfl rfl rfl (.condition fits) ?_
          intro part mem
          exact (List.mem_append.1 mem).imp_left (List.mem_append_left _)
      · cases made
  | insertReturning named made =>
      obtain ⟨clause, checked, appended⟩ := bind_eq_ok.1 made
      obtain ⟨-, -, -, rfl⟩ := Clause.mkReturning_eq_ok.1 checked
      exact .append (Insert.append_eq_ok.1 appended) rfl rfl (List.Subset.refl _)
        (.of_mkReturning named checked)

/-! ### Calls on updates and deletes -/

/-- Every call that returns an `UPDATE`. -/
theorem traced_update {result : Update} (made : MadeFrom arguments (.update result)) :
    Traced arguments (.update result) := by
  cases made with
  | update table defined => exact .of_target table defined rfl rfl rfl
  | updateSet assigned made =>
      obtain ⟨clause, checked, appended⟩ := bind_eq_ok.1 made
      obtain ⟨-, rfl⟩ := Clause.mkSet_eq_ok.1 checked
      exact .append (Update.append_eq_ok.1 appended) rfl rfl (List.subset_append_right _ _)
        ⟨checked, assigned, fun _ => column_mem_assignmentArguments⟩
  | updateWhere made =>
      obtain ⟨clause, checked, appended⟩ := bind_eq_ok.1 made
      obtain ⟨-, rfl⟩ := Clause.mkWhere_eq_ok.1 checked
      exact .append (Update.append_eq_ok.1 appended) rfl rfl (List.Subset.refl _)
        (.of_mkWhere checked)
  | updateUnconditionally made =>
      exact .append (Update.append_eq_ok.1 made) rfl rfl (List.Subset.refl _) .where_none
  | updateReturning named made =>
      obtain ⟨clause, checked, appended⟩ := bind_eq_ok.1 made
      obtain ⟨-, -, -, rfl⟩ := Clause.mkReturning_eq_ok.1 checked
      exact .append (Update.append_eq_ok.1 appended) rfl rfl (List.Subset.refl _)
        (.of_mkReturning named checked)

/-- Every call that returns a `DELETE`. -/
theorem traced_delete {result : Delete} (made : MadeFrom arguments (.delete result)) :
    Traced arguments (.delete result) := by
  cases made with
  | delete table defined => exact .of_target table defined rfl rfl rfl
  | deleteUsing made =>
      exact .append (Delete.append_eq_ok.1 made) rfl rfl (List.Subset.refl _)
        ⟨trivial, trivial, List.forall_mem_nil _⟩
  | deleteWhere made =>
      obtain ⟨clause, checked, appended⟩ := bind_eq_ok.1 made
      obtain ⟨-, rfl⟩ := Clause.mkWhere_eq_ok.1 checked
      exact .append (Delete.append_eq_ok.1 appended) rfl rfl (List.Subset.refl _)
        (.of_mkWhere checked)
  | deleteUnconditionally made =>
      exact .append (Delete.append_eq_ok.1 made) rfl rfl (List.Subset.refl _) .where_none
  | deleteReturning named made =>
      obtain ⟨clause, checked, appended⟩ := bind_eq_ok.1 made
      obtain ⟨-, -, -, rfl⟩ := Clause.mkReturning_eq_ok.1 checked
      exact .append (Delete.append_eq_ok.1 appended) rfl rfl (List.Subset.refl _)
        (.of_mkReturning named checked)

variable {result : Statement}

theorem traced (made : MadeFrom arguments result) : Traced arguments result := by
  cases result with
  | select select => exact made.traced_select
  | insert insert => exact made.traced_insert
  | update update => exact made.traced_update
  | delete delete => exact made.traced_delete

/-- Every call on statements is a step. -/
theorem step (made : MadeFrom arguments result) : Step arguments result := made.traced.step

/-- Where the clauses of a statement come from. -/
theorem provenance (made : MadeFrom arguments result) :
    ∀ clause ∈ result.clauses, clause.Provenance arguments := made.traced.provenance

end MadeFrom

/-! ## Built statements -/

/-- What holds of every clause that a call adds, and is kept where one is revised, holds of all
clauses of a built statement. -/
theorem forall_clauses_of_built {P : Clause → Prop}
    (added : ∀ {arguments clause}, Clause.IsAdded arguments clause → P clause)
    (revised : ∀ {clause last}, clause.Revises last → P last → P clause) {statement : Statement}
    (built : (Part.statement statement).Built) : ∀ clause ∈ statement.clauses, P clause := by
  have keeps {arguments : List Part} {result : Statement} (made : MadeFrom arguments result)
      (before : ∀ old, .statement old ∈ arguments → ∀ clause ∈ old.clauses, P clause) :
      ∀ clause ∈ result.clauses, P clause := by
    intro clause mem
    cases made.provenance clause mem with
    | added isAdded => exact added isAdded
    | kept given inOld => exact before _ given clause inOld
    | revised given inOld revises => exact revised revises (before _ given _ inOld)
  exact built_induction keeps built

/-- All clauses of a statement are checked. -/
def ClausesAreChecked (statement : Statement) : Prop :=
  ∀ clause ∈ statement.clauses, clause.Checked

/-- The clauses of a built statement are checked. -/
theorem checked_of_built {statement : Statement} (built : (Part.statement statement).Built) :
    statement.ClausesAreChecked :=
  forall_clauses_of_built Clause.IsAdded.checked Clause.Revises.checked built

/-- The entries of all clauses of a statement are such as calls make them. -/
def EntriesAreMade (statement : Statement) : Prop :=
  ∀ clause ∈ statement.clauses, clause.EntriesAreMade

/-- The entries of a built statement are such as calls make them. -/
theorem entriesAreMade_of_built {statement : Statement}
    (built : (Part.statement statement).Built) : statement.EntriesAreMade :=
  forall_clauses_of_built Clause.IsAdded.entries Clause.Revises.entriesAreMade built

end Statement

end CheckedSql
