import CheckedSql.Proofs.ResultRow.SelectList

/-!
# Growing selects

The row of a select depends on its columns and on the outer joins of its `FROM`, and both may
still change while the select grows.  A union compares rows when it is added.  From then on only
`ORDER BY` and the row counts can follow, by the order of clauses, and neither of them has a say
in the row.  So the two sides of a union keep the row that was compared
(`Select.Growth.keeps_union`).

`Select.Growth` says what a call does to the select that it takes further: it adds a clause,
or makes the select distinct.  A built select has grown in this way from the select of some
columns (`Statement.MadeFrom.starts_or_grows`).
-/

namespace CheckedSql

/-! ## Steps -/

namespace Select

/-- The select has one more clause, or it has become distinct.  With a new union, the rows of the
two sides have been compared. -/
inductive Growth (old result : Select) : Prop where
  | append {clause : Clause} (rank : ∀ last ∈ old.clauses.getLast?, last.rank < clause.rank)
      (clauses : result.clauses = old.clauses ++ [clause])
      (compared : ∀ distinct arm, clause = .union distinct arm →
        arm.value.checkConsistency = .ok () ∧ arm.value.fields = old.fields)
  | distinct {earlier : List Clause} {distinct : Bool} {columns : List (Entry SelectColumn)}
      (before : old.clauses = earlier ++ [.columns distinct columns])
      (clauses : result.clauses = earlier ++ [.columns true columns])

theorem Growth.of_append {old result : Select} {clause : Clause}
    (appended : old.append clause = .ok result) (notUnion : ∀ distinct arm,
      clause ≠ .union distinct arm) : old.Growth result := by
  obtain ⟨rank, clauses⟩ := appendClause_eq_ok_iff.1 (append_eq_ok.1 appended)
  exact .append rank clauses fun distinct arm isUnion => absurd isUnion (notUnion distinct arm)

end Select

/-- A call that returns a select starts it with its columns, or takes a select further. -/
theorem Statement.MadeFrom.starts_or_grows {arguments : List Part} {result : Select}
    (made : MadeFrom arguments (.select result)) :
    (∃ definitions columns, Select.start definitions columns = .ok result
        ∧ arguments = With.parts definitions ++ SelectColumn.arguments columns)
      ∨ ∃ old others, arguments = .select old :: others ∧ old.Growth result := by
  cases made with
  | select defined named started => exact .inl ⟨_, _, started, rfl⟩
  | @selectDistinct old _ made =>
      refine .inr ⟨old, [], rfl, ?_⟩
      unfold Select.distinct at made
      split at made
      · cases made
      · next marked columns last =>
          cases made
          obtain ⟨earlier, before⟩ := List.getLast?_eq_some_iff.1 last
          refine .distinct before ?_
          rw [before, replaceLast_append]
      · cases made
  | selectFrom made => exact .inr ⟨_, _, rfl, .of_append made nofun⟩
  | selectWhere made =>
      obtain ⟨clause, checked, appended⟩ := bind_eq_ok.1 made
      obtain ⟨-, rfl⟩ := Clause.mkWhere_eq_ok.1 checked
      exact .inr ⟨_, _, rfl, .of_append appended nofun⟩
  | selectGroupBy made =>
      obtain ⟨clause, checked, appended⟩ := bind_eq_ok.1 made
      obtain ⟨-, -, -, rfl⟩ := Clause.mkGroupBy_eq_ok.1 checked
      exact .inr ⟨_, _, rfl, .of_append appended nofun⟩
  | selectHaving made =>
      obtain ⟨clause, checked, appended⟩ := bind_eq_ok.1 made
      obtain ⟨-, rfl⟩ := Clause.mkHaving_eq_ok.1 checked
      exact .inr ⟨_, _, rfl, .of_append appended nofun⟩
  | selectUnion made =>
      obtain ⟨consistent, rest⟩ := check_eq_ok.1 made
      obtain ⟨clause, checked, appended⟩ := bind_eq_ok.1 rest
      obtain ⟨sameFields, rfl⟩ := Clause.mkUnion_eq_ok.1 checked
      obtain ⟨rank, clauses⟩ := appendClause_eq_ok_iff.1 (Select.append_eq_ok.1 appended)
      refine .inr ⟨_, _, rfl, .append rank clauses ?_⟩
      rintro distinct arm ⟨⟩
      exact ⟨consistent, sameFields.symm⟩
  | selectOrderBy ordered made =>
      obtain ⟨clause, checked, appended⟩ := bind_eq_ok.1 made
      obtain ⟨-, -, rfl⟩ := Clause.mkOrderBy_eq_ok.1 checked
      exact .inr ⟨_, _, rfl, .of_append appended nofun⟩
  | selectLimit made =>
      obtain ⟨clause, checked, appended⟩ := bind_eq_ok.1 made
      obtain ⟨-, -, -, rfl⟩ := Clause.mkLimit_eq_ok checked
      exact .inr ⟨_, _, rfl, .of_append appended nofun⟩

/-- No select is given to the call that starts one. -/
theorem Select.not_mem_start (definitions : Option With) (columns : List (Entry SelectColumn))
    (select : Select) :
    Part.select select ∉ With.parts definitions ++ SelectColumn.arguments columns := by
  intro mem
  rcases List.mem_append.1 mem with inWith | inColumns
  · obtain ⟨clause, isWith, inClause⟩ := List.mem_flatMap.1 inWith
    obtain ⟨ctes, rfl⟩ := Statement.clauses_with isWith
    obtain ⟨definition, -, same⟩ := List.mem_map.1 inClause
    cases same
  · obtain ⟨column, -, same⟩ := List.mem_map.1 inColumns
    cases same

/-! ## Rows of clauses -/

/-- What is neither a list of columns nor a source does not change the row of the clauses in front
of it. -/
theorem fieldsOf_append {pick : Clause → Option (List (Entry SelectColumn))} {clause : Clause}
    (notPicked : pick clause = none) (noTables : clause.names.optionalTables = ∅)
    (clauses : List Clause) : fieldsOf pick (clauses ++ [clause]) = fieldsOf pick clauses := by
  have tables : (Clause.listNames (clauses ++ [clause])).optionalTables
      = (Clause.listNames clauses).optionalTables := by
    induction clauses with
    | nil =>
        show clause.names.optionalTables ∪ ∅ = ∅
        rw [noTables]
        rfl
    | cons first rest ih =>
        show first.names.optionalTables ∪ (Clause.listNames (rest ++ [clause])).optionalTables
          = first.names.optionalTables ∪ (Clause.listNames rest).optionalTables
        rw [ih]
  rw [fieldsOf, fieldsOf, tables, List.findSome?_append, List.findSome?_singleton, notPicked,
    Option.or_none]

/-- From the place of a union on, no clause changes the row of a select. -/
theorem Select.fields_append {old result : Select} {clause : Clause} (late : 7 ≤ clause.rank)
    (clauses : result.clauses = old.clauses ++ [clause]) : result.fields = old.fields := by
  have notPicked : clause.selected? = none := by
    cases clause with
    | columns => simp [Clause.rank] at late
    | _ => rfl
  have noTables : clause.names.optionalTables = ∅ := by
    cases clause with
    | source => simp [Clause.rank] at late
    | _ => rfl
  rw [fields, clauses, fieldsOf_append notPicked noTables, fields]

/-! ## Unions -/

namespace Select

variable {old result select : Select} {distinct : Bool} {arm : Entry Select}

/-- A select that has a union does not become distinct any more. -/
theorem not_union_mem_of_distinct (ordered : (Statement.select old).Ordered)
    {earlier : List Clause} {marked : Bool} {columns : List (Entry SelectColumn)}
    (before : old.clauses = earlier ++ [.columns marked columns]) :
    .union distinct arm ∉ earlier := by
  intro mem
  have increasing := ordered.increasing
  rw [Statement.clauses, before] at increasing
  have below := (List.pairwise_append.1 increasing).2.2 _ mem _ (.head _)
  simp [Clause.rank] at below

/-- Every union of the select joins a consistent select that has the same row. -/
def UnionsFit (select : Select) : Prop :=
  ∀ distinct arm, .union distinct arm ∈ select.clauses →
    arm.value.checkConsistency = .ok () ∧ arm.value.fields = select.fields

/-- A call leaves a select that has a union as it is, up to a clause behind it that does not change
the row. -/
theorem Growth.keeps_union (growth : old.Growth result) (ordered : (Statement.select old).Ordered)
    (mem : .union distinct arm ∈ old.clauses) :
    old.clauses <+: result.clauses ∧ result.fields = old.fields := by
  cases growth with
  | @append clause rank clauses compared =>
      refine ⟨⟨[clause], clauses.symm⟩, fields_append ?_ clauses⟩
      exact Nat.le_of_lt (Statement.rank_lt_of_last ordered.increasing rank mem)
  | distinct before clauses =>
      rw [before] at mem
      rcases List.mem_append.1 mem with inEarlier | isColumns
      · exact absurd inEarlier (not_union_mem_of_distinct ordered before)
      · cases List.mem_singleton.1 isColumns

/-- A call keeps the unions of a select fitting. -/
theorem Growth.unionsFit (growth : old.Growth result) (ordered : (Statement.select old).Ordered)
    (fit : old.UnionsFit) : result.UnionsFit := by
  intro distinct arm mem
  have kept (inOld : .union distinct arm ∈ old.clauses) :
      arm.value.checkConsistency = .ok () ∧ arm.value.fields = result.fields := by
    rw [(growth.keeps_union ordered inOld).2]
    exact fit distinct arm inOld
  cases growth with
  | append rank clauses compared =>
      rw [clauses] at mem
      rcases List.mem_append.1 mem with inOld | isNew
      · exact kept inOld
      · obtain rfl := List.mem_singleton.1 isNew
        have late : 7 ≤ (Clause.union distinct arm).rank := Nat.le_refl 7
        rw [fields_append late clauses]
        exact compared distinct arm rfl
  | distinct before clauses =>
      rw [clauses] at mem
      rcases List.mem_append.1 mem with inEarlier | isColumns
      · exact absurd inEarlier (not_union_mem_of_distinct ordered before)
      · cases List.mem_singleton.1 isColumns

/-- A select starts without a union. -/
theorem not_union_mem_of_start {definitions : Option With} {columns : List (Entry SelectColumn)}
    (started : start definitions columns = .ok result) : .union distinct arm ∉ result.clauses := by
  obtain ⟨clause, checked, rest⟩ := bind_eq_ok.1 started
  obtain ⟨clauses, appended, same⟩ := bind_eq_ok.1 rest
  obtain rfl := pure_eq_ok.1 same
  obtain ⟨-, rfl⟩ := Clause.mkColumns_eq_ok.1 checked
  intro mem
  rw [appendClause_eq_ok appended] at mem
  rcases List.mem_append.1 mem with isWith | isColumns
  · obtain ⟨ctes, isUnion⟩ := Statement.clauses_with isWith
    cases isUnion
  · cases List.mem_singleton.1 isColumns

theorem unionsFit_of_built (built : (Part.select select).Built) : select.UnionsFit := by
  generalize same : Part.select select = part at built
  induction built generalizing select with
  | made made arguments ih =>
      subst same
      rcases Statement.MadeFrom.starts_or_grows made with
        ⟨definitions, columns, started, -⟩ | ⟨old, others, rfl, growth⟩
      · exact fun distinct arm mem => absurd mem (not_union_mem_of_start started)
      · have ordered := Statement.ordered_of_built (arguments _ (.head _))
        exact growth.unionsFit ordered (ih _ (.head _) rfl)

/-! ## Runs -/

/-- A call takes the select further, with built arguments. -/
def Extends (old result : Select) : Prop :=
  ∃ others, (∀ part ∈ others, part.Built)
    ∧ Statement.MadeFrom (.select old :: others) (.select result)

theorem Extends.growth (call : old.Extends result) : old.Growth result := by
  obtain ⟨others, -, made⟩ := call
  rcases made.starts_or_grows with ⟨definitions, columns, -, given⟩ | ⟨first, rest, given, growth⟩
  · exact absurd (given ▸ List.mem_cons_self) (not_mem_start definitions columns old)
  · cases given
    exact growth

theorem Extends.built (call : old.Extends result) (built : (Part.select old).Built) :
    (Part.select result).Built := by
  obtain ⟨others, othersBuilt, made⟩ := call
  exact .made made (List.forall_mem_cons.2 ⟨built, othersBuilt⟩)

/-- Calls after a union keep the clauses up to it, and the row that it was compared with. -/
theorem keeps_union_of_run {later : Select} (built : (Part.select select).Built)
    (calls : Relation.ReflTransGen Extends select later)
    (mem : .union distinct arm ∈ select.clauses) :
    (Part.select later).Built ∧ select.clauses <+: later.clauses
      ∧ later.fields = select.fields := by
  induction calls with
  | refl => exact ⟨built, List.prefix_rfl, rfl⟩
  | tail _ call ih =>
      obtain ⟨before, keptBefore, sameBefore⟩ := ih
      obtain ⟨kept, same⟩ :=
        call.growth.keeps_union (Statement.ordered_of_built before) (keptBefore.subset mem)
      exact ⟨call.built before, keptBefore.trans kept, same.trans sameBefore⟩

/-- With any setting of its dynamic parts, a built select is written with a list of columns that has
the names of its result row, and no name comes twice.  Its union joins a consistent select of the
same row, and later calls change neither side: they keep the clauses, the union among them, and
the row. -/
theorem row_is_kept {select : Select} (built : (Part.select select).Built) :
    (∀ setting : Select,
      (Statement.select setting).switched true true = (Statement.select select).switched true true →
      ∃ distinct list, setting.Lists distinct list ∧ list.length = setting.fields.length
        ∧ (list.map ListedColumn.outputName? = setting.fields.map fun field => some field.name)
        ∧ (setting.fields.map ResultField.name).Nodup ∧ setting.fields = select.fields)
      ∧ ∀ distinct arm, .union distinct arm ∈ select.clauses →
        arm.value.checkConsistency = .ok () ∧ arm.value.fields = select.fields
          ∧ ∀ later, Relation.ReflTransGen Extends select later →
            select.clauses <+: later.clauses ∧ later.fields = select.fields := by
  refine ⟨fun setting same => ?_, fun distinct arm mem => ?_⟩
  · have sameFields : setting.fields = select.fields := by
      have fields := congrArg Statement.fields same
      rwa [Statement.fields_switched, Statement.fields_switched] at fields
    obtain ⟨distinct, list, lists, length, names⟩ := exists_lists built same
    refine ⟨distinct, list, lists, length, names, ?_, sameFields⟩
    rw [sameFields]
    exact nodup_names_of_built built
  · obtain ⟨consistent, fit⟩ := unionsFit_of_built built distinct arm mem
    refine ⟨consistent, fit, fun later calls => ?_⟩
    exact (keeps_union_of_run built calls mem).2

/-- The number of a table, and 1 where that is wanted. -/
def idAndOne (name : String) : Select where
  clauses :=
    [.columns false [.static ⟨.column (.ofId name), "id", false⟩,
        .dynamic false ⟨.value (.int 1), "one", true⟩],
      .source .from (.table (.ofId name))]

/-- The numbers of `foo` and of `bar`. -/
def allIds : Select where
  clauses := (idAndOne "foo").clauses ++ [.union false (.static (idAndOne "bar"))]

/-- The numbers of `foo` and of `bar` in order. -/
def sortedIds : Select where
  clauses := allIds.clauses ++ [.orderBy byId]

theorem idAndOne_built (name : String) : (Part.select (idAndOne name)).Built := by
  let columns : List (Entry SelectColumn) :=
    [.static ⟨.column (.ofId name), "id", false⟩, .dynamic false ⟨.value (.int 1), "one", true⟩]
  have named : ∀ column ∈ columns, column.value.IsMade := by
    rw [List.forall_mem_cons, List.forall_mem_singleton]
    exact ⟨.inr rfl, .inl rfl⟩
  have columnsBuilt : ∀ column ∈ columns, (Part.expr column.value.expr).Built := by
    rw [List.forall_mem_cons, List.forall_mem_singleton]
    exact ⟨Column.ofId_built name, .made (.value _) nofun⟩
  exact built_of_start_from named columnsBuilt (Table.ofId_built name) rfl

theorem allIds_built : (Part.select allIds).Built := by
  have united : (idAndOne "foo").union false (.static (idAndOne "bar")) = .ok allIds := rfl
  exact .of_pair (.selectUnion united) (idAndOne_built "foo") (idAndOne_built "bar")

/-- Sorting keeps the row of the union, in which the inactive column has its place. -/
theorem allIds_row_is_kept :
    (Part.select allIds).Built
      ∧ (∃ distinct list, allIds.Lists distinct list
        ∧ list.map ListedColumn.outputName? = [some "id", some "one"])
      ∧ (Statement.select allIds).text.toOption
        = some "SELECT foo.id, NULL AS one FROM foo UNION ALL SELECT bar.id, NULL AS one FROM bar"
      ∧ (idAndOne "bar").fields = allIds.fields
      ∧ allIds.Extends sortedIds ∧ sortedIds.fields = allIds.fields := by
  obtain ⟨lists, unions⟩ := row_is_kept allIds_built
  obtain ⟨distinct, list, isList, -, names, -, -⟩ := lists allIds rfl
  have mem : .union false (.static (idAndOne "bar")) ∈ allIds.clauses := .tail _ (.tail _ (.head _))
  obtain ⟨-, fit, kept⟩ := unions _ _ mem
  have sorts : allIds.Extends sortedIds := by
    have made : ∀ order ∈ byId, order.value.IsMade := by
      rw [byId, List.forall_mem_singleton]
      rfl
    have sorted : allIds.orderBy byId = .ok sortedIds := rfl
    refine ⟨_, ?_, .selectOrderBy made sorted⟩
    rw [byId, List.map_singleton, List.forall_mem_singleton]
    exact Column.ofId_built "foo"
  exact ⟨allIds_built, ⟨distinct, list, isList, names⟩, by decide, fit, sorts,
    (kept sortedIds (.single sorts)).2⟩

end Select

end CheckedSql
