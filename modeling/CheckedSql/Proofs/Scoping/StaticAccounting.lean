import CheckedSql.Proofs.Built.Checked
import CheckedSql.Proofs.Definitions.Order
import CheckedSql.Proofs.Scoping.CteReference
import CheckedSql.Proofs.Scoping.StaticPart

/-!
# Static accounting

What an item of a statement always provides and always needs should be what its static part
provides and needs, so that no dynamic element counts as one that is there.  For `WITH` this
rests on the order of its definitions: a static definition reads static ones only, so the
dynamic ones that are left out are not missed by it (`With.accounts`).

With one exception the accounting is exact (`Item.static_accounting_iff`).  The condition of
a static join counts with its dynamic operands, as far as common table expressions are
concerned.
-/

namespace CheckedSql

/-! ## Clauses -/

/-- A definition counts as a whole. -/
theorem Cte.accounts (definition : Cte) : definition.needs.Accounts definition.needs := by
  have arms (arms : List CteArm) : (CteArm.listNeeds arms).Accounts (CteArm.listNeeds arms) := by
    induction arms with
    | nil => exact .empty
    | cons arm arms ih =>
        obtain ⟨distinct, ⟨presence, select⟩, readsSelf⟩ := arm
        exact (Needs.Accounts.unresolved select.names).union ih
  obtain ⟨name, base, united, fields⟩ := definition
  have selects := (Needs.Accounts.unresolved base.names).union (arms united)
  exact ⟨selects.tables, fun other => by simp [needs, selects.ctes]⟩

theorem Cte.accounts_entries (ctes : List (Entry Cte)) :
    (entriesNeeds ctes).Accounts (entriesNeeds (ctes.filter Entry.isStatic)) := by
  have accounts : (entriesNeeds ctes).Accounts (entriesNeeds (staticEntries id ctes)) :=
    .of_entries (n := Cte.needs) rfl (fun ⟨_, _⟩ _ => rfl) Cte.accounts ctes
  rwa [staticEntries, show (Entry.map id : Entry Cte → Entry Cte) = id from rfl, List.map_id]
    at accounts

namespace With

variable {ctes : List (Entry Cte)}

/-- What a static definition reads of the same clause is static. -/
theorem isStatic_of_reads (made : mkWith ctes = .ok ⟨ctes⟩) {reader read : Entry Cte}
    (readerMem : reader ∈ ctes) (readMem : read ∈ ctes)
    (reads : reader.value.needs.ctes.contains read.value.name = true)
    (isStatic : reader.isStatic = true) : read.isStatic = true := by
  obtain ⟨ordered, -⟩ := mkWith_eq_ok.1 made
  obtain ⟨place, atPlace⟩ := List.mem_iff_getElem?.1 readerMem
  obtain ⟨other, atOther⟩ := List.mem_iff_getElem?.1 readMem
  obtain ⟨found, isFound, foundStatic⟩ :=
    ordered.static ⟨reader, atPlace, read, atOther, reads⟩ ⟨reader, atPlace, isStatic⟩
  obtain rfl : read = found := Option.some_inj.1 (atOther.symm.trans isFound)
  exact foundStatic

/-- The static definitions need what `WITH` always needs. -/
theorem accounts (made : mkWith ctes = .ok ⟨ctes⟩)
    (built : ∀ cte ∈ ctes, (Part.cte cte.value).Built) :
    (Clause.with ctes).names.needs.Accounts
      (Clause.with (ctes.filter Entry.isStatic)).names.needs where
  tables table := by
    have closed (kept : List (Entry Cte)) (sub : ∀ cte ∈ kept, cte ∈ ctes) :
        (Cte.entriesNeeds kept).tables.contains table = false := by
      rw [← Bool.not_eq_true, Cte.contains_entriesNeeds]
      rintro ⟨part, mem, needed⟩
      obtain ⟨cte, cteMem, rfl⟩ := List.mem_map.1 mem
      rw [Part.needs, Cte.contains_needs_of_built (built cte (sub cte cteMem))] at needed
      cases needed
    exact (closed ctes fun _ => id).trans
      (closed (ctes.filter Entry.isStatic) fun _ mem => (List.mem_filter.1 mem).1).symm
  ctes name := by
    have always : (Clause.with ctes).names.needs.staticCtes.contains name = true
        ↔ (∃ cte ∈ ctes.filter Entry.isStatic, cte.value.needs.ctes.contains name = true)
          ∧ ¬ ∃ cte ∈ ctes, cte.value.name = name := by
      simp only [Clause.names, withNames, OrderedSet.contains_difference,
        OrderedSet.contains_ofList, Bool.and_eq_true, (Cte.accounts_entries ctes).ctes,
        Cte.contains_entriesNeeds_ctes, Bool.not_eq_true', List.any_map, List.any_eq_false,
        Function.comp_apply, beq_iff_eq, not_exists, not_and]
    rw [Bool.eq_iff_iff, always, Clause.contains_with_needs]
    refine and_congr_right ?_
    rintro ⟨reader, readerMem, reads⟩
    refine not_congr ⟨?_, ?_⟩
    · rintro ⟨read, readMem, rfl⟩
      obtain ⟨readerMem, isStatic⟩ := List.mem_filter.1 readerMem
      have readStatic := isStatic_of_reads made readerMem readMem reads isStatic
      exact ⟨read, List.mem_filter.2 ⟨readMem, readStatic⟩, rfl⟩
    · rintro ⟨read, readMem, same⟩
      exact ⟨read, (List.mem_filter.1 readMem).1, same⟩

end With

namespace Clause

variable {clause : Clause}

/-- The conditions of the static joins in a clause. -/
def staticConditions : Clause → List Expr
  | source _ ref => ref.staticConditions
  | _ => []

/-- The names of a clause without its dynamic parts. -/
def staticNames (clause : Clause) : Names := listNames clause.staticPart

/-- A clause always provides the tables that it provides without its dynamic parts. -/
theorem contains_staticTables_eq (clause : Clause) (table : String) :
    clause.names.staticTables.contains table = clause.staticNames.tables.contains table := by
  cases clause with
  | source kind ref =>
      simp only [staticNames, staticPart, listNames, Names.contains_tables_union,
        Names.tables_empty, OrderedSet.contains_empty, Bool.or_false]
      exact TableRef.contains_staticTables_eq ref table
  | target kind declared => simp [names, staticNames, staticPart, listNames, Names.ofTable]
  | «where» condition? =>
      rcases condition? with _ | ⟨_ | active, expr⟩ <;> rfl
  | having condition => rcases condition with ⟨_ | active, expr⟩ <;> rfl
  | union distinct arm => rcases arm with ⟨_ | active, arm⟩ <;> rfl
  | _ => rfl

/-- The same of common table expressions. -/
theorem contains_staticCtes_eq (clause : Clause) (name : String) :
    clause.names.staticCtes.contains name = clause.staticNames.ctes.contains name := by
  cases clause with
  | «with» ctes =>
      simp [staticNames, staticPart, listNames, names, withNames, staticValues]
  | source kind ref => simp [staticNames, staticPart, listNames, names]
  | «where» condition? =>
      rcases condition? with _ | ⟨_ | active, expr⟩ <;> rfl
  | having condition => rcases condition with ⟨_ | active, expr⟩ <;> rfl
  | union distinct arm => rcases arm with ⟨_ | active, arm⟩ <;> rfl
  | _ => rfl

/-- A clause of a built statement always reads what it reads without its dynamic parts, other than
in the conditions of joins. -/
theorem accounts {statement : Statement} (built : (Part.statement statement).Built)
    (mem : clause ∈ statement.clauses) (notSource : ∀ kind ref, clause ≠ .source kind ref) :
    clause.names.needs.Accounts clause.staticNames.needs := by
  cases clause with
  | «with» ctes =>
      have made : With.mkWith ctes = .ok ⟨ctes⟩ := Statement.checked_of_built built _ mem
      refine (With.accounts made fun cte cteMem => built.of_mem_children ?_).union_empty
      exact List.mem_flatMap.2 ⟨_, mem, List.mem_map_of_mem cteMem⟩
  | columns distinct entries | returning entries =>
      exact (SelectColumn.accounts_entries entries).union_empty
  | target => exact Needs.Accounts.empty.union_empty
  | set assignments => exact (Assignment.accounts_entries assignments).union_empty
  | values content => exact content.accounts.union_empty
  | source kind ref => exact absurd rfl (notSource kind ref)
  | «where» condition? =>
      rcases condition? with _ | ⟨_ | active, expr⟩
      · exact Needs.Accounts.empty.union_empty
      · exact expr.accounts.union_empty
      · exact .asDynamic expr.needs
  | groupBy entries => exact (Expr.accounts_entries entries).union_empty
  | having condition =>
      rcases condition with ⟨_ | active, expr⟩
      · exact expr.accounts.union_empty
      · exact .asDynamic expr.needs
  | union distinct arm =>
      rcases arm with ⟨_ | active, arm⟩
      · exact (Needs.Accounts.unresolved arm.names).union_empty
      · exact .asDynamic arm.names.unresolved
  | orderBy orders => exact (SortOrder.accounts_entries orders).union_empty
  | limit kind count => exact Needs.Accounts.empty.union_empty
  | onConflict keys action => exact action.accounts.union_empty

/-- A clause of a built statement always needs the tables that it needs without its dynamic
parts. -/
theorem contains_needs_staticTables {statement : Statement}
    (built : (Part.statement statement).Built) (mem : clause ∈ statement.clauses) (table : String) :
    clause.names.needs.staticTables.contains table
      = clause.staticNames.needs.tables.contains table := by
  cases clause with
  | source kind ref =>
      have refBuilt : (Part.tableRef ref).Built :=
        built.of_mem_children (List.mem_flatMap.2 ⟨_, mem, .head _⟩)
      have rest : (source kind ref).staticNames.needs.tables.contains table
          = ref.staticPart.names.needs.tables.contains table := by
        simp [staticNames, staticPart, listNames, names]
      rw [rest]
      exact TableRef.contains_needs_staticTables refBuilt table
  | _ => exact (accounts built mem nofun).tables table

/-- A clause of a built statement always reads what it reads without its dynamic parts, and all that
the conditions of its static joins read. -/
theorem contains_needs_staticCtes {statement : Statement}
    (built : (Part.statement statement).Built) (mem : clause ∈ statement.clauses) (name : String) :
    clause.names.needs.staticCtes.contains name = true
      ↔ clause.staticNames.needs.ctes.contains name = true
        ∨ ∃ condition ∈ clause.staticConditions, condition.needs.ctes.contains name = true := by
  cases clause with
  | source kind ref =>
      have rest : (source kind ref).staticNames.needs.ctes.contains name
          = ref.staticPart.names.needs.ctes.contains name := by
        simp [staticNames, staticPart, listNames, names]
      rw [rest]
      exact ref.contains_needs_staticCtes name
  | _ =>
      rw [(accounts built mem nofun).ctes name]
      simp [staticConditions]

end Clause

/-! ## Exact accounting -/

/-- What names are accounted for. -/
inductive Item where
  | expr (expr : Expr)
  | tableRef (ref : TableRef)
  | clause (clause : Clause)

namespace Item

/-- An item that calls made, a clause in a statement. -/
def Built : Item → Prop
  | expr e => (Part.expr e).Built
  | tableRef ref => (Part.tableRef ref).Built
  | clause c => ∃ statement, (Part.statement statement).Built ∧ c ∈ statement.clauses

/-- What an item provides and reads.  An expression provides nothing. -/
def names : Item → Names
  | expr e => .reading e.needs
  | tableRef ref => ref.names
  | clause c => c.names

/-- What an item provides and reads without its dynamic parts. -/
def staticNames : Item → Names
  | expr e => .reading e.staticPart.needs
  | tableRef ref => ref.staticPart.names
  | clause c => c.staticNames

/-- The conditions of the static joins in an item, as they were given. -/
def staticConditions : Item → List Expr
  | expr _ => []
  | tableRef ref => ref.staticConditions
  | clause c => c.staticConditions

variable {item : Item}

theorem contains_provided_eq (item : Item) (name : String) :
    item.names.staticTables.contains name = item.staticNames.tables.contains name
      ∧ item.names.staticCtes.contains name = item.staticNames.ctes.contains name := by
  cases item with
  | expr e => exact ⟨rfl, rfl⟩
  | tableRef ref =>
      refine ⟨ref.contains_staticTables_eq name, ?_⟩
      simp [names, staticNames]
  | clause c => exact ⟨c.contains_staticTables_eq name, c.contains_staticCtes_eq name⟩

theorem contains_staticTables_needs (built : item.Built) (table : String) :
    item.names.needs.staticTables.contains table
      = item.staticNames.needs.tables.contains table := by
  cases item with
  | expr e => exact e.accounts.tables table
  | tableRef ref => exact TableRef.contains_needs_staticTables built table
  | clause c =>
      obtain ⟨statement, built, mem⟩ := built
      exact Clause.contains_needs_staticTables built mem table

theorem contains_staticCtes_needs (built : item.Built) (name : String) :
    item.names.needs.staticCtes.contains name = true
      ↔ item.staticNames.needs.ctes.contains name = true
        ∨ ∃ condition ∈ item.staticConditions, condition.needs.ctes.contains name = true := by
  cases item with
  | expr e => simp [names, staticNames, staticConditions, e.accounts.ctes]
  | tableRef ref => exact ref.contains_needs_staticCtes name
  | clause c =>
      obtain ⟨statement, built, mem⟩ := built
      exact Clause.contains_needs_staticCtes built mem name

/-- What a built item always provides, and the tables that it always needs, are what it provides and
needs without its dynamic parts.  The same holds of the common table expressions that it always
needs exactly if all that the conditions of its static joins read is needed without them too. -/
theorem static_accounting_iff (built : item.Built) :
    (∀ table, item.names.staticTables.contains table = item.staticNames.tables.contains table)
      ∧ (∀ name, item.names.staticCtes.contains name = item.staticNames.ctes.contains name)
      ∧ (∀ table, item.names.needs.staticTables.contains table
        = item.staticNames.needs.tables.contains table)
      ∧ ((∀ name, item.names.needs.staticCtes.contains name
          = item.staticNames.needs.ctes.contains name)
        ↔ ∀ condition ∈ item.staticConditions, ∀ name,
          condition.needs.ctes.contains name = true →
            item.staticNames.needs.ctes.contains name = true) := by
  refine ⟨fun table => (item.contains_provided_eq table).1,
    fun name => (item.contains_provided_eq name).2, contains_staticTables_needs built,
    fun same condition mem name read => ?_, fun kept name => ?_⟩
  · rw [← same name, contains_staticCtes_needs built]
    exact .inr ⟨condition, mem, read⟩
  · rw [Bool.eq_iff_iff, contains_staticCtes_needs built]
    refine ⟨fun needed => needed.elim id ?_, .inl⟩
    rintro ⟨condition, mem, read⟩
    exact kept condition mem name read

end Item

namespace TableRef

/-- The select of a number from the common table expression `c`. -/
def oneOfNumbers : Select where
  clauses :=
    [.columns false [.static ⟨.value (.int 1), "one", true⟩], .source .from (.cte (.ofName "c"))]

/-- That `foo` and `bar` have the same number, and that `c` has a row if that is asked for. -/
def sameIdIfNumbers : Expr :=
  .chain .and [.static (.sameId "foo" "bar"), .dynamic false (.existsIn oneOfNumbers)]

/-- The join of `foo` and `bar` under that condition. -/
def barIfNumbers : TableRef :=
  .join (.table (.ofId "foo")) .inner (.static (.table (.ofId "bar"))) (some sameIdIfNumbers)

theorem oneOfNumbers_built : (Part.select oneOfNumbers).Built := by
  let columns : List (Entry SelectColumn) := [.static ⟨.value (.int 1), "one", true⟩]
  have named : ∀ column ∈ columns, column.value.IsMade := by
    rw [List.forall_mem_singleton]
    exact .inl rfl
  have selected : (do (← Select.start none columns).from (.cte (.ofName "c")))
      = .ok oneOfNumbers := rfl
  refine Select.built_of_start_from named ?_ (.made (.cteName "c") nofun) selected
  rw [List.forall_mem_singleton]
  exact .made (.value _) nofun

theorem barIfNumbers_built : (Part.tableRef barIfNumbers).Built := by
  have chained : Expr.mkChain .and (.sameId "foo" "bar") (.dynamic false (.existsIn oneOfNumbers))
      = .ok sameIdIfNumbers := rfl
  have existsBuilt : (Part.expr (.existsIn oneOfNumbers)).Built := by
    refine .made (.existsIn oneOfNumbers) ?_
    rw [List.forall_mem_singleton]
    exact oneOfNumbers_built
  have conditionBuilt : (Part.expr sameIdIfNumbers).Built :=
    .of_pair (.chain chained) (Expr.sameId_built "foo" "bar") existsBuilt
  have joined : mkJoin (.table (.ofId "foo")) .inner (.static (.table (.ofId "bar")))
      (some sameIdIfNumbers) = .ok barIfNumbers := rfl
  exact built_of_mkJoin joined (Table.ofId_built "foo") (Table.ofId_built "bar")
    (List.forall_mem_singleton.2 conditionBuilt)

/-- The condition reads `c` in a dynamic operand only. -/
theorem barIfNumbers_not_exact :
    (Item.tableRef barIfNumbers).Built
      ∧ (∀ table, barIfNumbers.names.staticTables.contains table
        = barIfNumbers.staticPart.names.tables.contains table)
      ∧ ¬ ∀ name, barIfNumbers.names.needs.staticCtes.contains name
        = barIfNumbers.staticPart.names.needs.ctes.contains name := by
  have built : (Item.tableRef barIfNumbers).Built := barIfNumbers_built
  obtain ⟨provided, -, -, exact_iff⟩ := Item.static_accounting_iff built
  refine ⟨built, provided, fun same => ?_⟩
  have kept := exact_iff.1 same sameIdIfNumbers (.head _) "c" rfl
  cases kept

/-- A dynamic operand in the condition of a static join counts as a static requirement. -/
theorem barIfNumbers_always_reads :
    (Part.tableRef barIfNumbers).Built
      ∧ barIfNumbers.names.needs.staticCtes.contains "c" = true
      ∧ barIfNumbers.staticPart.names.needs.ctes.contains "c" = false :=
  ⟨barIfNumbers_built, rfl, rfl⟩

end TableRef

end CheckedSql
