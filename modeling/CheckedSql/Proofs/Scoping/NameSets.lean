import CheckedSql.Proofs.OrderedSet
import CheckedSql.Proofs.Scoping.Inclusion

/-!
# Names of parts are listed once

What a part of a statement reads and provides is computed from its parts by unions of name
sets.  A union is distinct as soon as its left operand is, so each part lists its names
once (`Part.reads_distinct`, `Clause.names_distinct`): the induction is over the parts of a
part, and a list of parts needs the hypothesis only for its first item
(`Needs.Distinct.of_list`).

Unions of distinct sets can be regrouped.  So the names of a list of clauses, which
`Clause.listNames` collects from the last clause on, are also what is left when one goes
through the clauses in their order and adds the names of each to what is known
(`Clause.foldl_names`).
-/

namespace CheckedSql

/-! ## Distinct names -/

/-- Each set of read names lists a name once. -/
structure Needs.Distinct (needs : Needs) : Prop where
  tables : needs.tables.Distinct
  staticTables : needs.staticTables.Distinct
  ctes : needs.ctes.Distinct
  staticCtes : needs.staticCtes.Distinct

/-- Each set of provided or read names lists a name once. -/
structure Names.Distinct (names : Names) : Prop where
  tables : names.tables.Distinct
  staticTables : names.staticTables.Distinct
  optionalTables : names.optionalTables.Distinct
  ctes : names.ctes.Distinct
  staticCtes : names.staticCtes.Distinct
  needs : names.needs.Distinct

namespace Needs

variable {needs left right first second third : Needs}

namespace Distinct

theorem empty : (∅ : Needs).Distinct := ⟨.empty, .empty, .empty, .empty⟩

theorem ofTable (identity : String) : (Needs.ofTable identity).Distinct :=
  ⟨.singleton identity, .singleton identity, .empty, .empty⟩

theorem ofCte (name : String) : (Needs.ofCte name).Distinct :=
  ⟨.empty, .empty, .singleton name, .singleton name⟩

theorem union (distinct : left.Distinct) (right : Needs) : (left ∪ right).Distinct where
  tables := distinct.tables.union right.tables
  staticTables := distinct.staticTables.union right.staticTables
  ctes := distinct.ctes.union right.ctes
  staticCtes := distinct.staticCtes.union right.staticCtes

theorem within (distinct : needs.Distinct) (presence : Presence) :
    (Needs.within presence needs).Distinct := by
  cases presence with
  | static => exact distinct
  | dynamic => exact ⟨distinct.tables, .empty, distinct.ctes, .empty⟩

/-- What is left from outside of distinct needs is distinct. -/
theorem unresolved {names : Names} (distinct : names.needs.Distinct) : names.unresolved.Distinct :=
  have tables := distinct.tables.difference names.tables
  have ctes := distinct.ctes.difference names.ctes
  ⟨tables, tables, ctes, ctes⟩

/-- The needs of a list are distinct if those of its items are. -/
theorem of_list {α : Type} {f : α → Needs} {g : List α → Needs} (nil : g [] = ∅)
    (cons : ∀ item items, g (item :: items) = f item ∪ g items) {items : List α}
    (distinct : ∀ item ∈ items, (f item).Distinct) : (g items).Distinct := by
  cases items with
  | nil =>
      rw [nil]
      exact .empty
  | cons item items =>
      rw [cons]
      exact (distinct item List.mem_cons_self).union (g items)

end Distinct

theorem empty_union (distinct : right.Distinct) : ∅ ∪ right = right :=
  (Needs.mk.injEq ..).mpr
    ⟨OrderedSet.empty_union distinct.tables, OrderedSet.empty_union distinct.staticTables,
      OrderedSet.empty_union distinct.ctes, OrderedSet.empty_union distinct.staticCtes⟩

theorem union_assoc (secondDistinct : second.Distinct) (thirdDistinct : third.Distinct) :
    (first ∪ second) ∪ third = first ∪ (second ∪ third) :=
  (Needs.mk.injEq ..).mpr
    ⟨OrderedSet.union_assoc secondDistinct.tables thirdDistinct.tables,
      OrderedSet.union_assoc secondDistinct.staticTables thirdDistinct.staticTables,
      OrderedSet.union_assoc secondDistinct.ctes thirdDistinct.ctes,
      OrderedSet.union_assoc secondDistinct.staticCtes thirdDistinct.staticCtes⟩

end Needs

namespace Names

variable {left right first second third : Names}

namespace Distinct

theorem empty : (∅ : Names).Distinct := ⟨.empty, .empty, .empty, .empty, .empty, .empty⟩

theorem reading {needs : Needs} (distinct : needs.Distinct) : (Names.reading needs).Distinct :=
  { empty with needs := distinct }

theorem ofTable (identity : String) : (Names.ofTable identity).Distinct :=
  ⟨.singleton identity, .singleton identity, .empty, .empty, .empty, .empty⟩

theorem union (distinct : left.Distinct) (right : Names) : (left ∪ right).Distinct where
  tables := distinct.tables.union right.tables
  staticTables := distinct.staticTables.union right.staticTables
  optionalTables := distinct.optionalTables.union right.optionalTables
  ctes := distinct.ctes.union right.ctes
  staticCtes := distinct.staticCtes.union right.staticCtes
  needs := distinct.needs.union right.needs

end Distinct

theorem empty_union (distinct : right.Distinct) : ∅ ∪ right = right :=
  (Names.mk.injEq ..).mpr
    ⟨OrderedSet.empty_union distinct.tables, OrderedSet.empty_union distinct.staticTables,
      OrderedSet.empty_union distinct.optionalTables, OrderedSet.empty_union distinct.ctes,
      OrderedSet.empty_union distinct.staticCtes, Needs.empty_union distinct.needs⟩

theorem union_assoc (secondDistinct : second.Distinct) (thirdDistinct : third.Distinct) :
    (first ∪ second) ∪ third = first ∪ (second ∪ third) :=
  (Names.mk.injEq ..).mpr
    ⟨OrderedSet.union_assoc secondDistinct.tables thirdDistinct.tables,
      OrderedSet.union_assoc secondDistinct.staticTables thirdDistinct.staticTables,
      OrderedSet.union_assoc secondDistinct.optionalTables thirdDistinct.optionalTables,
      OrderedSet.union_assoc secondDistinct.ctes thirdDistinct.ctes,
      OrderedSet.union_assoc secondDistinct.staticCtes thirdDistinct.staticCtes,
      Needs.union_assoc secondDistinct.needs thirdDistinct.needs⟩

end Names

/-! ## The names of a part, given its parts -/

theorem Expr.entryNeeds_distinct {entry : Entry Expr} (distinct : entry.value.needs.Distinct) :
    (entryNeeds entry).Distinct := by
  obtain ⟨presence, expr⟩ := entry
  exact distinct.within presence

/-- An expression reads distinct names if its parts do. -/
theorem Expr.needs_distinct_of_parts {expr : Expr}
    (distinct : ∀ part ∈ expr.parts, part.reads.Distinct) : expr.needs.Distinct := by
  have child : ∀ inner ∈ expr.children, inner.needs.Distinct := fun inner mem =>
    distinct (.expr inner) (List.mem_append_left _ (List.mem_map_of_mem mem))
  cases expr with
  | column read => exact .ofTable read.qualifier
  | value | parameter => exact .empty
  | unary operator inner | groupKey inner => exact child inner List.mem_cons_self
  | binary operator left right type | concat left right =>
      exact (child left List.mem_cons_self).union _
  | chain connective operands =>
      refine Needs.Distinct.of_list (f := entryNeeds) rfl (fun _ _ => rfl) fun operand mem => ?_
      exact entryNeeds_distinct (child operand.value (List.mem_map_of_mem mem))
  | within negated tested items => exact (child tested List.mem_cons_self).union _
  | between tested low high => exact ((child tested List.mem_cons_self).union _).union _
  | cases branches otherwise type =>
      refine Needs.Distinct.union ?_ _
      refine Needs.Distinct.of_list (f := fun branch => branch.1.needs ∪ branch.2.needs) rfl
        (fun _ _ => rfl) fun branch mem => Needs.Distinct.union (child branch.1 ?_) _
      exact List.mem_append_left _ (List.mem_flatMap_of_mem mem List.mem_cons_self)
  | aggregate call argument? =>
      cases argument? with
      | none => exact .empty
      | some argument => exact child argument List.mem_cons_self
  | existsIn select | subquery select =>
      have inner := distinct (.select select) List.mem_cons_self
      rwa [Part.reads_select] at inner

/-- A table reference reads distinct names if its parts do. -/
theorem TableRef.needs_distinct_of_parts {table : TableRef}
    (distinct : ∀ part ∈ table.parts, part.reads.Distinct) : table.names.needs.Distinct := by
  cases table with
  | table => exact .empty
  | cte reference => exact .ofCte reference.name
  | subSelect derived =>
      obtain ⟨select, name, fields⟩ := derived
      have inner := distinct (.select select) List.mem_cons_self
      rwa [Part.reads_select] at inner
  | join left kind right condition? =>
      have inner : left.names.needs.Distinct := distinct (.tableRef left) List.mem_cons_self
      obtain ⟨presence, right⟩ := right
      refine ⟨inner.tables.union _, inner.tables.union _, (inner.ctes.union _).union _, ?_⟩
      simp only [names, JoinKind.names]
      split
      · exact (inner.staticCtes.union _).union _
      · exact inner.staticCtes

/-- A common table expression reads distinct names if its parts do. -/
theorem Cte.needs_distinct_of_parts {definition : Cte}
    (distinct : ∀ part ∈ (Part.cte definition).children, part.reads.Distinct) :
    definition.needs.Distinct := by
  obtain ⟨name, base, arms, fields⟩ := definition
  have inner := distinct (.select base) List.mem_cons_self
  rw [Part.reads_select] at inner
  have all := inner.union (CteArm.listNeeds arms)
  exact ⟨all.tables, all.staticTables, all.ctes.difference _, all.staticCtes.difference _⟩

section Clauses

variable {assignments : List (Entry Assignment)}

theorem Expr.entryOptionNeeds_distinct {condition? : Option (Entry Expr)}
    (distinct : ∀ condition ∈ condition?, condition.value.needs.Distinct) :
    (entryOptionNeeds condition?).Distinct := by
  cases condition? with
  | none => exact .empty
  | some condition => exact entryNeeds_distinct (distinct condition rfl)

theorem Assignment.entriesNeeds_distinct
    (distinct : ∀ part ∈ entriesParts assignments, part.reads.Distinct) :
    (entriesNeeds assignments).Distinct := by
  refine Needs.Distinct.of_list
    (f := fun assignment => .within assignment.presence (Expr.optionNeeds assignment.value.value?))
    rfl (fun ⟨_, _, _⟩ _ => rfl) fun assignment mem => Needs.Distinct.within ?_ _
  cases given : assignment.value.value? with
  | none => exact .empty
  | some value =>
      refine distinct (.expr value) (List.mem_flatMap_of_mem mem ?_)
      rw [given]
      exact List.mem_cons_self

theorem SelectColumn.entriesNeeds_distinct {columns : List (Entry SelectColumn)}
    (distinct : ∀ column ∈ columns, column.value.expr.needs.Distinct) :
    (entriesNeeds columns).Distinct :=
  Needs.Distinct.of_list (f := fun column => .within column.presence column.value.expr.needs) rfl
    (fun ⟨_, _, _, _⟩ _ => rfl) fun column mem => (distinct column mem).within column.presence

/-- A clause reads distinct names if its parts do. -/
theorem Clause.needs_distinct_of_parts {clause : Clause}
    (distinct : ∀ part ∈ clause.parts, part.reads.Distinct) : clause.names.needs.Distinct := by
  cases clause with
  | «with» ctes =>
      have all : (Cte.entriesNeeds ctes).Distinct :=
        Needs.Distinct.of_list (f := fun cte => .within cte.presence cte.value.needs) rfl
          (by rintro ⟨_, _⟩ _; rfl) fun cte mem =>
            (distinct (.cte cte.value) (List.mem_map_of_mem mem)).within cte.presence
      exact ⟨all.tables, all.tables, all.ctes.difference _, all.staticCtes.difference _⟩
  | columns marked columns | returning columns =>
      exact SelectColumn.entriesNeeds_distinct fun column mem =>
        distinct (.expr column.value.expr) (List.mem_map_of_mem mem)
  | target | limit => exact .empty
  | set assignments => exact Assignment.entriesNeeds_distinct distinct
  | values content =>
      cases content with
      | defaultValues => exact .empty
      | set assignments => exact Assignment.entriesNeeds_distinct distinct
      | rows listed rows =>
          refine Needs.Distinct.of_list (f := Expr.listNeeds) (g := Expr.rowsNeeds) rfl
            (fun _ _ => rfl) fun row rowMem => ?_
          refine Needs.Distinct.of_list (f := Expr.needs) rfl (fun _ _ => rfl) fun expr mem => ?_
          exact distinct (.expr expr) (List.mem_flatMap_of_mem rowMem (List.mem_map_of_mem mem))
  | source kind table => exact distinct (.tableRef table) List.mem_cons_self
  | «where» condition? =>
      refine Expr.entryOptionNeeds_distinct fun condition found => ?_
      exact distinct (.expr condition.value) (List.mem_map_of_mem (Option.mem_toList.2 found))
  | groupBy entries =>
      refine Needs.Distinct.of_list (f := Expr.entryNeeds) rfl (fun _ _ => rfl) fun entry mem => ?_
      exact Expr.entryNeeds_distinct (distinct (.expr entry.value) (List.mem_map_of_mem mem))
  | having condition =>
      exact Expr.entryNeeds_distinct (distinct (.expr condition.value) List.mem_cons_self)
  | union unique arm =>
      obtain ⟨presence, arm⟩ := arm
      have inner := distinct (.select arm) List.mem_cons_self
      rw [Part.reads_select] at inner
      exact inner.within presence
  | orderBy orders =>
      refine Needs.Distinct.of_list (f := fun order => .within order.presence order.value.expr.needs)
        rfl (fun ⟨_, _, _, _⟩ _ => rfl) fun order mem => ?_
      exact (distinct (.expr order.value.expr) (List.mem_map_of_mem mem)).within order.presence
  | onConflict keys action =>
      cases action with
      | doNothing => exact .empty
      | doUpdate assignments condition? =>
          exact (Assignment.entriesNeeds_distinct fun part mem =>
            distinct part (List.mem_append_left _ mem)).union _

end Clauses

/-! ## Names of every part -/

/-- Every part reads distinct names. -/
theorem Part.reads_distinct (part : Part) : part.reads.Distinct := by
  induction part using Part.induction with
  | step part ih =>
      cases part with
      | expr e => exact Expr.needs_distinct_of_parts ih
      | statement s =>
          refine Needs.Distinct.unresolved ?_
          cases clauses : s.clauses with
          | nil => exact .empty
          | cons clause rest =>
              refine Needs.Distinct.union (Clause.needs_distinct_of_parts fun child mem => ?_) _
              refine ih child (List.mem_flatMap_of_mem ?_ mem)
              rw [clauses]
              exact List.mem_cons_self
      | tableRef table => exact TableRef.needs_distinct_of_parts ih
      | cte definition => exact Cte.needs_distinct_of_parts ih

theorem TableRef.names_distinct (table : TableRef) : table.names.Distinct := by
  have needs : table.names.needs.Distinct := Part.reads_distinct (.tableRef table)
  induction table using identities.induct with
  | case1 declared => exact .ofTable declared.identity
  | case2 reference => exact { Names.Distinct.ofTable reference.identity with needs }
  | case3 derived =>
      obtain ⟨select, name, fields⟩ := derived
      exact { Names.Distinct.ofTable name with needs }
  | case4 left kind presence right condition? leftDistinct rightDistinct =>
      have left := leftDistinct (Part.reads_distinct (.tableRef left))
      refine ⟨left.tables.union _, ?_, ?_, .empty, .empty, needs⟩
      · simp only [names, JoinKind.names]
        split
        · exact left.staticTables.union _
        · exact left.staticTables
      · cases kind with
        | inner | cross | leftOuter => exact left.optionalTables.union _
        | rightOuter | fullOuter => exact left.tables.union _

/-- A clause lists each name that it provides or reads once. -/
theorem Clause.names_distinct (clause : Clause) : clause.names.Distinct := by
  have needs : clause.names.needs.Distinct :=
    needs_distinct_of_parts fun part _ => part.reads_distinct
  cases clause with
  | «with» => exact ⟨.empty, .empty, .empty, .ofList _, .ofList _, needs⟩
  | target kind table => exact .ofTable table.identity
  | source kind table => exact table.names_distinct
  | limit => exact .empty
  | _ => exact .reading needs

/-! ## Clause after clause -/

namespace Clause

theorem listNames_distinct (clauses : List Clause) : (listNames clauses).Distinct := by
  cases clauses with
  | nil => exact .empty
  | cons clause clauses => exact clause.names_distinct.union (listNames clauses)

/-- Names that are known before the clauses come first. -/
theorem foldl_names_from (known : Names) (clauses : List Clause) :
    clauses.foldl (fun known clause => known ∪ clause.names) known
      = known ∪ listNames clauses := by
  induction clauses generalizing known with
  | nil => rfl
  | cons clause clauses ih =>
      rw [List.foldl_cons, ih, listNames]
      exact Names.union_assoc clause.names_distinct (listNames_distinct clauses)

/-- The names of clauses are what going through them one after the other collects. -/
theorem foldl_names (clauses : List Clause) :
    clauses.foldl (fun known clause => known ∪ clause.names) ∅ = listNames clauses := by
  rw [foldl_names_from]
  exact Names.empty_union (listNames_distinct clauses)

end Clause

end CheckedSql
