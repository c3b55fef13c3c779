import CheckedSql.Proofs.Built.Checked
import CheckedSql.Proofs.Built.Children
import CheckedSql.Proofs.Built.Order
import CheckedSql.Proofs.Definitions.Order

/-!
# References to common table expressions

A common table expression is known where its name is written behind its definition, in
the statement that defines it and in whatever stands in that statement.  Its arms, but not
its base, may read the common table expression itself.

`Part.ReadsCte part defined name` says that the name is read somewhere in the part, and
lists the names that are known there because of definitions within the part.  A name that
is not among them is needed from outside (`Part.ReadsCte.needed`): the checks keep a set of
names without places, and `With.mkWith` has seen to it that no definition comes too late.
-/

namespace CheckedSql

/-! ## Provided and needed names -/

namespace Names

@[simp] theorem ctes_empty : (∅ : Names).ctes = ∅ := rfl

@[simp] theorem staticCtes_empty : (∅ : Names).staticCtes = ∅ := rfl

@[simp] theorem ctes_reading (needs : Needs) : (reading needs).ctes = ∅ := rfl

@[simp] theorem staticCtes_reading (needs : Needs) : (reading needs).staticCtes = ∅ := rfl

@[simp] theorem ctes_ofTable (identity : String) : (ofTable identity).ctes = ∅ := rfl

@[simp] theorem staticCtes_ofTable (identity : String) : (ofTable identity).staticCtes = ∅ := rfl

@[simp] theorem contains_ctes_union (left right : Names) (name : String) :
    (left ∪ right).ctes.contains name = (left.ctes.contains name || right.ctes.contains name) :=
  OrderedSet.contains_union left.ctes right.ctes name

@[simp] theorem contains_staticCtes_union (left right : Names) (name : String) :
    (left ∪ right).staticCtes.contains name
      = (left.staticCtes.contains name || right.staticCtes.contains name) :=
  OrderedSet.contains_union left.staticCtes right.staticCtes name

theorem contains_unresolvedCtes (names : Names) (name : String) :
    names.unresolved.ctes.contains name = true
      ↔ names.needs.ctes.contains name = true ∧ names.ctes.contains name = false := by
  simp [unresolved, unresolvedCtes]

end Names

@[simp] theorem TableRef.names_ctes (table : TableRef) : table.names.ctes = ∅ := by
  rcases table with _ | _ | ⟨⟨_, _, _⟩⟩ | ⟨_, _, ⟨_, _⟩, _⟩ <;> rfl

@[simp] theorem TableRef.names_staticCtes (table : TableRef) : table.names.staticCtes = ∅ := by
  rcases table with _ | _ | ⟨⟨_, _, _⟩⟩ | ⟨_, _, ⟨_, _⟩, _⟩ <;> rfl

section Provided

variable {name : String}

/-- Only `WITH` provides common table expressions. -/
theorem Clause.contains_names_ctes (clause : Clause) :
    clause.names.ctes.contains name = true
      ↔ ∃ ctes, .with ctes = clause ∧ ∃ cte ∈ ctes, cte.value.name = name := by
  cases clause with
  | «with» ctes => simp [names, withNames]
  | union distinct arm => cases arm; simp [names]
  | _ => simp [names]

/-- The static ones are those of static definitions. -/
theorem Clause.contains_names_staticCtes (clause : Clause) :
    clause.names.staticCtes.contains name = true
      ↔ ∃ ctes, .with ctes = clause
        ∧ ∃ cte ∈ ctes, cte.isStatic = true ∧ cte.value.name = name := by
  cases clause with
  | «with» ctes => simp [names, withNames, staticValues]
  | union distinct arm => cases arm; simp [names]
  | _ => simp [names]

theorem Clause.contains_listNames_ctes (clauses : List Clause) :
    (listNames clauses).ctes.contains name = true
      ↔ ∃ ctes, .with ctes ∈ clauses ∧ ∃ cte ∈ ctes, cte.value.name = name := by
  induction clauses with
  | nil => simp [listNames]
  | cons clause clauses ih =>
      simp only [listNames, Names.contains_ctes_union, Bool.or_eq_true, ih, contains_names_ctes,
        List.mem_cons, or_and_right, exists_or]

theorem Clause.contains_listNames_staticCtes (clauses : List Clause) :
    (listNames clauses).staticCtes.contains name = true
      ↔ ∃ ctes, .with ctes ∈ clauses
        ∧ ∃ cte ∈ ctes, cte.isStatic = true ∧ cte.value.name = name := by
  induction clauses with
  | nil => simp [listNames]
  | cons clause clauses ih =>
      simp only [listNames, Names.contains_staticCtes_union, Bool.or_eq_true, ih,
        contains_names_staticCtes, List.mem_cons, or_and_right, exists_or]

end Provided

/-! ## Places of definitions -/

/-- The clauses behind the first one of a built statement define nothing. -/
theorem Clause.ne_with_of_rank_pos {clause : Clause} (rank : 1 ≤ clause.rank)
    (ctes : List (Entry Cte)) : clause ≠ .with ctes := by
  rintro rfl
  exact Nat.not_succ_le_zero 0 rank

/-- A statement has one `WITH` at most. -/
theorem Statement.Ordered.with_unique {statement : Statement} (ordered : statement.Ordered)
    {first second : List (Entry Cte)} (firstMem : Clause.with first ∈ statement.clauses)
    (secondMem : Clause.with second ∈ statement.clauses) : first = second :=
  Clause.with.inj (ordered.eq_of_rank_eq firstMem secondMem rfl)

/-- What comes from a clause of an ordered statement comes from its `WITH`, or it comes from
another clause and behind all that comes from `WITH`. -/
theorem Statement.Ordered.place {statement : Statement} (ordered : statement.Ordered)
    {f : Clause → List Part} {front back : List Part} {part : Part}
    (split : statement.clauses.flatMap f = front ++ part :: back) :
    (∃ ctes back', .with ctes ∈ statement.clauses ∧ f (.with ctes) = front ++ part :: back')
      ∨ ∃ clause ∈ statement.clauses, (∀ ctes, clause ≠ .with ctes) ∧ part ∈ f clause
        ∧ ∀ ctes, .with ctes ∈ statement.clauses →
          ∃ between, front = f (.with ctes) ++ between := by
  obtain ⟨definitions, head, others, clauses, start, headRank, otherRanks⟩ := ordered.split
  have notWith : ∀ clause ∈ head :: others, ∀ ctes, clause ≠ .with ctes := by
    intro clause mem
    refine Clause.ne_with_of_rank_pos ?_
    rcases List.mem_cons.1 mem with rfl | isOther
    · exact Nat.le_of_eq headRank.symm
    · exact Nat.le_of_succ_le (otherRanks clause isOther)
  rw [clauses, List.flatMap_append] at split
  rw [clauses]
  rcases start with rfl | ⟨ctes, rfl⟩
  · have partMem : part ∈ (head :: others).flatMap f := by
      rw [List.flatMap_nil, List.nil_append] at split
      rw [split]
      exact List.mem_append_right _ (.head _)
    obtain ⟨clause, clauseMem, inClause⟩ := List.mem_flatMap.1 partMem
    exact .inr ⟨clause, clauseMem, notWith clause clauseMem, inClause,
      fun ctes isWith => absurd rfl (notWith _ isWith ctes)⟩
  · have behind : ∀ between, front = f (.with ctes) ++ between →
        part ∈ (head :: others).flatMap f →
        ∃ clause ∈ [Clause.with ctes] ++ head :: others,
          (∀ ctes, clause ≠ .with ctes) ∧ part ∈ f clause
            ∧ ∀ ctes', Clause.with ctes' ∈ [Clause.with ctes] ++ head :: others →
              ∃ between, front = f (.with ctes') ++ between := by
      intro between isFront partMem
      obtain ⟨clause, clauseMem, inClause⟩ := List.mem_flatMap.1 partMem
      refine ⟨clause, .tail _ clauseMem, notWith clause clauseMem, inClause, ?_⟩
      intro ctes' isWith
      rcases List.mem_cons.1 isWith with same | isOther
      · obtain rfl := Clause.with.inj same
        exact ⟨between, isFront⟩
      · exact absurd rfl (notWith _ isOther ctes')
    rw [List.flatMap_singleton, List.append_eq_append_iff] at split
    rcases split with ⟨between, isFront, rest⟩ | ⟨inside, isWith, rest⟩
    · refine .inr (behind between isFront ?_)
      rw [rest]
      exact List.mem_append_right _ (.head _)
    · cases inside with
      | nil =>
          refine .inr (behind [] (by rw [isWith]; simp) ?_)
          rw [← List.nil_append ((head :: others).flatMap f), ← rest]
          exact .head _
      | cons first inside =>
          obtain ⟨rfl, -⟩ := List.cons.inj rest
          exact .inl ⟨ctes, inside, .head _, isWith⟩

/-- The name that a part defines. -/
def Part.definedName? : Part → Option String
  | cte definition => some definition.name
  | _ => none

/-- The names that parts define. -/
def definedNames (parts : List Part) : List String := parts.filterMap Part.definedName?

theorem mem_definedNames {parts : List Part} {definition : Cte}
    (mem : .cte definition ∈ parts) : definition.name ∈ definedNames parts :=
  List.mem_filterMap.2 ⟨_, mem, rfl⟩

/-! ## References -/

/-- The name of a common table expression is read somewhere in a part.  The listed names are known
there, because they are defined within the part. -/
inductive Part.ReadsCte : Part → List String → String → Prop where
  | reference (reference : CteRef) : ReadsCte (.tableRef (.cte reference)) [] reference.name
  | expr {expr : Expr} {part : Part} {defined : List String} {name : String} :
      part ∈ expr.parts → ReadsCte part defined name → ReadsCte (.expr expr) defined name
  | tableRef {table : TableRef} {part : Part} {defined : List String} {name : String} :
      part ∈ table.parts → ReadsCte part defined name → ReadsCte (.tableRef table) defined name
  | base {definition : Cte} {defined : List String} {name : String} :
      ReadsCte (.select definition.base) defined name → ReadsCte (.cte definition) defined name
  | arm {definition : Cte} {arm : CteArm} {defined : List String} {name : String} :
      arm ∈ definition.arms → ReadsCte (.select arm.select.value) defined name →
      ReadsCte (.cte definition) (defined ++ [definition.name]) name
  | statement {statement : Statement} {front back : List Part} {part : Part}
      {defined : List String} {name : String} :
      (Part.statement statement).children = front ++ part :: back →
      ReadsCte part defined name →
      ReadsCte (.statement statement) (defined ++ definedNames front) name

/-- A definition reads what its base reads, and what its arms read besides the definition. -/
theorem Cte.contains_needs_ctes {definition : Cte} {select : Select}
    (mem : select ∈ definition.selects) {name : String}
    (read : (Part.select select).reads.ctes.contains name = true)
    (other : definition.name ≠ name) : definition.needs.ctes.contains name = true := by
  obtain ⟨own, base, arms, fields⟩ := definition
  rw [Part.reads_select] at read
  simp only [needs, OrderedSet.contains_difference, Needs.contains_ctes_union, Bool.and_eq_true,
    Bool.or_eq_true, OrderedSet.contains_singleton, Bool.not_eq_true', beq_eq_false_iff_ne]
  refine ⟨?_, other⟩
  rcases List.mem_cons.1 mem with rfl | isArm
  · exact .inl read
  · obtain ⟨arm, armMem, rfl⟩ := List.mem_map.1 isArm
    exact .inr ((CteArm.unresolved_le_listNeeds armMem).ctes name read)

/-- A built statement reads what a part of it reads, unless that is defined in front of the
part. -/
theorem Statement.contains_reads_ctes {statement : Statement}
    (built : (Part.statement statement).Built) {front back : List Part} {part : Part}
    (split : (Part.statement statement).children = front ++ part :: back) {name : String}
    (read : part.reads.ctes.contains name = true) :
    name ∈ definedNames front
      ∨ (Part.statement statement).reads.ctes.contains name = true := by
  have ordered := ordered_of_built built
  rw [Part.reads, Names.contains_unresolvedCtes, ← Bool.not_eq_true,
    Clause.contains_listNames_ctes]
  rcases ordered.place split with
    ⟨ctes, back', isWith, inWith⟩ | ⟨clause, clauseMem, notWith, inClause, behind⟩
  · obtain ⟨earlier, rest, rfl, rfl, atPart⟩ := List.map_eq_append_iff.1 inWith
    obtain ⟨cte, later, rfl, rfl, -⟩ := List.map_eq_cons_iff.1 atPart
    by_cases known : ∃ other ∈ earlier ++ cte :: later, other.value.name = name
    · have made := checked_of_built built _ isWith
      obtain ⟨other, otherMem, rfl, -⟩ := With.exists_earlier made read known
      exact .inl (mem_definedNames (List.mem_map_of_mem otherMem))
    · refine .inr ⟨(Clause.needs_le_listNames isWith).ctes name ?_, ?_⟩
      · exact (Clause.contains_with_needs _ name).2
          ⟨⟨cte, List.mem_append_right _ (.head _), read⟩, known⟩
      · rintro ⟨ctes, isOther, provided⟩
        obtain rfl := ordered.with_unique isWith isOther
        exact known provided
  · have inNeeds := (Clause.asDynamic_le_needs (ordered.allowed clause clauseMem) notWith
      inClause).ctes name read
    by_cases provided :
        ∃ ctes, .with ctes ∈ statement.clauses ∧ ∃ cte ∈ ctes, cte.value.name = name
    · obtain ⟨ctes, isWith, cte, cteMem, rfl⟩ := provided
      obtain ⟨between, rfl⟩ := behind ctes isWith
      exact .inl (mem_definedNames (List.mem_append_left _ (List.mem_map_of_mem cteMem)))
    · exact .inr ⟨(Clause.needs_le_listNames clauseMem).ctes name inNeeds, provided⟩

/-- A built part needs the common table expressions that it reads, unless they are known where they
are read. -/
theorem Part.ReadsCte.needed {part : Part} {defined : List String} {name : String}
    (reads : part.ReadsCte defined name) (built : part.Built) :
    name ∈ defined ∨ part.reads.ctes.contains name = true := by
  induction reads with
  | reference reference => exact .inr (by simp [Part.reads, TableRef.names, Needs.ofCte])
  | expr mem _ ih =>
      refine (ih (built.of_mem_children mem)).imp id fun read => ?_
      exact (Expr.asDynamic_le_needs mem).ctes _ read
  | tableRef mem _ ih =>
      refine (ih (built.of_mem_children mem)).imp id fun read => ?_
      exact TableRef.contains_ctes_of_mem_parts mem read
  | @base definition defined name _ ih =>
      have mem : definition.base ∈ definition.selects := .head _
      refine (ih (built.of_mem_children (List.mem_map_of_mem mem))).imp id fun read => ?_
      refine Cte.contains_needs_ctes mem read ?_
      rintro rfl
      have notRead := built.defined.sound.base
      rw [Part.reads_select] at read
      exact Bool.false_ne_true (notRead.symm.trans read)
  | @arm definition arm defined name armMem _ ih =>
      have mem : arm.select.value ∈ definition.selects :=
        .tail _ (List.mem_map.2 ⟨arm, armMem, rfl⟩)
      rcases ih (built.of_mem_children (List.mem_map_of_mem mem)) with inside | read
      · exact .inl (List.mem_append_left _ inside)
      · by_cases own : definition.name = name
        · exact .inl (List.mem_append_right _ (List.mem_singleton.2 own.symm))
        · exact .inr (Cte.contains_needs_ctes mem read own)
  | @statement statement front back part defined name split _ ih =>
      have mem : part ∈ (Part.statement statement).children := by
        rw [split]
        exact List.mem_append_right _ (.head _)
      rcases ih (built.of_mem_children mem) with inside | read
      · exact .inl (List.mem_append_left _ inside)
      · exact (Statement.contains_reads_ctes built split read).imp (List.mem_append_right _) id

end CheckedSql
