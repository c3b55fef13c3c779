import CheckedSql.Proofs.Part

/-!
# References

Where a column is read decides which tables it may come from.  A *frame* is a
statement around a part, with the clause of it in which the part stands.
`Part.Stands outer frames inner` says that `inner` stands somewhere in `outer`, and
lists the frames between the two, the innermost one first.  A part refers to a
column if the expression that reads the column stands in it.

Frames are those of selects in expressions, of arms of unions and of selects used
as tables alike.  A common table expression sees no table of the statement that
defines it, so it is not reached from there: each of its selects is a root of its
own (`Statement.IsRoot`).
-/

namespace CheckedSql

/-! ## Provided tables -/

/-- The identities of the tables that a table reference provides. -/
def TableRef.identities : TableRef → List String
  | table declared => [declared.identity]
  | cte reference => [reference.identity]
  | subSelect derived => [derived.name]
  | join left _ ⟨_, right⟩ _ => left.identities ++ right.identities

/-- The identities of the tables that a clause provides. -/
def Clause.identities : Clause → List String
  | source _ table => table.identities
  | target _ table => [table.identity]
  | _ => []

/-- The identities of the tables that the clauses of a statement provide. -/
def Statement.identities (statement : Statement) : List String :=
  statement.clauses.flatMap Clause.identities

/-- The identities of the tables that a part provides to its statement. -/
def Part.identities : Part → List String
  | tableRef table => table.identities
  | _ => []

/-! ## Frames -/

/-- A statement around a part, and the clause of it that the part stands in. -/
structure Frame where
  statement : Statement
  clause : Clause

/-- A part stands in another one.  The frames between the two are listed from the inside out. -/
inductive Part.Stands : Part → List Frame → Part → Prop where
  | refl (part : Part) : Stands part [] part
  | expr {expr : Expr} {part inner : Part} {frames : List Frame} :
      part ∈ expr.parts → Stands part frames inner → Stands (.expr expr) frames inner
  | tableRef {table : TableRef} {part inner : Part} {frames : List Frame} :
      part ∈ table.parts → Stands part frames inner → Stands (.tableRef table) frames inner
  | statement {statement : Statement} {clause : Clause} {part inner : Part}
      {frames : List Frame} :
      clause ∈ statement.clauses → part ∈ clause.parts → Stands part frames inner →
      Stands (.statement statement) (frames ++ [⟨statement, clause⟩]) inner

/-- A column is read somewhere in a part, with these frames around it. -/
def Part.Refers (part : Part) (frames : List Frame) (column : Column) : Prop :=
  part.Stands frames (.column column)

/-- The parts in which tables are looked up from the outside in: a statement, and the selects of
the common table expressions in it. -/
inductive Statement.IsRoot (statement : Statement) : Part → Prop where
  | self : IsRoot statement (.statement statement)
  | select {definition : Cte} {select : Select} :
      (Part.statement statement).Contains (.cte definition) → select ∈ definition.selects →
      IsRoot statement (.select select)

/-- Some statement around a part provides the table. -/
def Resolves (frames : List Frame) (table : String) : Prop :=
  ∃ frame ∈ frames, table ∈ frame.statement.identities

@[simp] theorem resolves_nil (table : String) : Resolves [] table ↔ False := by
  simp [Resolves]

@[simp] theorem resolves_append (inner outer : List Frame) (table : String) :
    Resolves (inner ++ outer) table ↔ Resolves inner table ∨ Resolves outer table := by
  simp only [Resolves, List.mem_append, or_and_right, exists_or]

@[simp] theorem resolves_singleton (frame : Frame) (table : String) :
    Resolves [frame] table ↔ table ∈ frame.statement.identities := by
  simp [Resolves]

/-- Among the frames that provide a table, there is an innermost one. -/
theorem Resolves.innermost {frames : List Frame} {table : String}
    (resolves : Resolves frames table) :
    ∃ near frame far, frames = near ++ frame :: far ∧ table ∈ frame.statement.identities
      ∧ ¬ Resolves near table := by
  induction frames with
  | nil => simp at resolves
  | cons frame frames ih =>
      by_cases provided : table ∈ frame.statement.identities
      · exact ⟨[], frame, frames, rfl, provided, by simp⟩
      · have later : Resolves frames table := by
          rw [← List.singleton_append, resolves_append, resolves_singleton] at resolves
          exact resolves.resolve_left provided
        obtain ⟨near, found, far, rfl, foundProvides, nearDoesNot⟩ := ih later
        refine ⟨frame :: near, found, far, rfl, foundProvides, ?_⟩
        rw [← List.singleton_append, resolves_append, resolves_singleton, not_or]
        exact ⟨provided, nearDoesNot⟩

namespace Part

/-- What stands in a part that stands in another one stands in that one too. -/
theorem Stands.trans {outer middle inner : Part} {near far : List Frame}
    (first : outer.Stands far middle) (second : middle.Stands near inner) :
    outer.Stands (near ++ far) inner := by
  induction first with
  | refl => rwa [List.append_nil]
  | expr mem _ ih => exact .expr mem (ih second)
  | tableRef mem _ ih => exact .tableRef mem (ih second)
  | statement clauseMem mem _ ih =>
      rw [← List.append_assoc]
      exact .statement clauseMem mem (ih second)

/-- What stands in a part is contained in it. -/
theorem Stands.contains {outer inner : Part} {frames : List Frame}
    (stands : outer.Stands frames inner) : outer.Contains inner := by
  induction stands with
  | refl => exact .refl
  | expr mem _ ih => exact .head mem ih
  | tableRef mem _ ih => exact .head mem ih
  | statement clauseMem mem _ ih => exact .head (List.mem_flatMap.2 ⟨_, clauseMem, mem⟩) ih

/-- A frame between two parts is that of a statement in the outer one, and the inner one stands in
the clause of the frame. -/
theorem Stands.split {outer inner : Part} {near far : List Frame} {frame : Frame}
    (stands : outer.Stands (near ++ frame :: far) inner) :
    ∃ part, outer.Stands far (.statement frame.statement)
      ∧ frame.clause ∈ frame.statement.clauses ∧ part ∈ frame.clause.parts
      ∧ part.Stands near inner := by
  generalize same : near ++ frame :: far = frames at stands
  induction stands generalizing near far with
  | refl => simp at same
  | expr mem _ ih =>
      obtain ⟨part, standsFar, clauseMem, partMem, standsNear⟩ := ih same
      exact ⟨part, .expr mem standsFar, clauseMem, partMem, standsNear⟩
  | tableRef mem _ ih =>
      obtain ⟨part, standsFar, clauseMem, partMem, standsNear⟩ := ih same
      exact ⟨part, .tableRef mem standsFar, clauseMem, partMem, standsNear⟩
  | @statement statement clause part inner frames clauseMem mem stands ih =>
      rcases List.eq_nil_or_concat far with rfl | ⟨init, last, rfl⟩
      · obtain ⟨rfl, isFrame⟩ := List.append_inj' same rfl
        obtain rfl := List.singleton_inj.1 isFrame
        exact ⟨part, .refl _, clauseMem, mem, stands⟩
      · rw [List.concat_eq_append, ← List.cons_append, ← List.append_assoc] at same
        obtain ⟨rfl, isLast⟩ := List.append_inj' same rfl
        obtain rfl := List.singleton_inj.1 isLast
        obtain ⟨inside, standsFar, insideClause, insideMem, standsNear⟩ := ih rfl
        rw [List.concat_eq_append]
        exact ⟨inside, .statement clauseMem mem standsFar, insideClause, insideMem, standsNear⟩

end Part

end CheckedSql
