import CheckedSql.Proofs.Scoping.NameSets
import CheckedSql.Proofs.Verdict

/-!
# Prepared statements find their names

A statement runs by itself if it provides every name that it reads.  There are two ways to
ask for that.  `Statement.checkPrepare` goes through the clauses and stops at the first one
that reads a name which nothing provides.  A statement inside another one is judged by what
is left when all clauses have been collected, `Names.unresolvedTables` and
`Names.unresolvedCtes`.

Both give the same verdict, and a failure of the first way lists names that are left over in
the second (`Statement.checkPrepare_agrees`).  What connects them is that a name which a
clause reads is left over exactly if it is not provided (`Clause.checkProvided_eq`).
-/

namespace CheckedSql

namespace OrderedSet

variable {α : Type} [BEq α] [EquivBEq α]

/-- What a part of a set has outside of another one is what it shares with the difference. -/
theorem difference_eq_intersection {part whole other : OrderedSet α}
    (included : ∀ item, part.contains item = true → whole.contains item = true) :
    part \ other = part ∩ (whole \ other) := by
  refine congrArg OrderedSet.mk (List.filter_congr fun item mem => ?_)
  have held : part.contains item = true := List.any_eq_true.2 ⟨item, mem, BEq.rfl⟩
  rw [contains_difference, included item held, Bool.true_and]

end OrderedSet

/-! ## Names that are left over -/

/-- The names of the clauses, collected one clause after the other. -/
def Statement.collected (statement : Statement) : Names :=
  statement.clauses.foldl (fun known clause => known ∪ clause.names) ∅

theorem Statement.names_scope (statement : Statement) :
    statement.scope.names = statement.collected :=
  (Clause.foldl_names statement.clauses).symm

/-- The tables that a clause reads and nothing provides. -/
def Clause.missingTables (known : Names) (clause : Clause) : NameSet :=
  clause.names.needs.tables ∩ known.unresolvedTables

/-- The common table expressions that a clause reads and nothing provides. -/
def Clause.missingCtes (known : Names) (clause : Clause) : NameSet :=
  clause.names.needs.ctes ∩ known.unresolvedCtes

/-- The clause reads a table or a common table expression that nothing provides. -/
def Clause.Misses (known : Names) (clause : Clause) : Prop :=
  ∃ name, (clause.missingTables known).contains name = true
    ∨ (clause.missingCtes known).contains name = true

/-- The clause is the earliest one of the statement that misses a name. -/
structure Statement.FirstToMiss (statement : Statement) (clause : Clause) : Prop where
  misses : clause.Misses statement.collected
  earliest : ∃ before after, statement.clauses = before ++ clause :: after
    ∧ ∀ earlier ∈ before, ¬ earlier.Misses statement.collected

theorem Statement.FirstToMiss.mem {statement : Statement} {clause : Clause}
    (first : statement.FirstToMiss clause) : clause ∈ statement.clauses := by
  obtain ⟨before, after, same, -⟩ := first.earliest
  rw [same]
  exact List.mem_append_right _ List.mem_cons_self

/-- A failure lists the missing names of a clause: at least one, each once, and all of them left
over in the statement. -/
structure Lists (names : List String) (missing unresolved : NameSet) : Prop where
  missing : names = missing.toList
  nonempty : names ≠ []
  nodup : names.Nodup
  unresolved : ∀ name ∈ names, unresolved.contains name = true

theorem Lists.iff {names : List String} {needed unresolved : NameSet}
    (distinct : needed.Distinct) :
    Lists names (needed ∩ unresolved) unresolved
      ↔ (needed ∩ unresolved).isEmpty = false ∧ names = (needed ∩ unresolved).toList := by
  have empty : (needed ∩ unresolved).isEmpty = false ↔ (needed ∩ unresolved).toList ≠ [] := by
    rw [OrderedSet.isEmpty, ne_eq, List.isEmpty_eq_false_iff]
  rw [empty]
  constructor
  · rintro ⟨rfl, nonempty, -, -⟩
    exact ⟨nonempty, rfl⟩
  · rintro ⟨nonempty, rfl⟩
    refine ⟨rfl, nonempty, (distinct.intersection unresolved).nodup, fun name mem => ?_⟩
    exact (List.mem_filter.1 mem).2

/-! ## Clauses -/

namespace Clause

variable {statement : Statement} {clause : Clause}

theorem not_misses_iff {known : Names} :
    ¬ clause.Misses known ↔ (clause.missingTables known).isEmpty = true
      ∧ (clause.missingCtes known).isEmpty = true := by
  simp only [Misses, OrderedSet.isEmpty_iff, not_exists, not_or, forall_and, Bool.not_eq_true]

/-- Going by what is not provided or by what is left over makes no difference. -/
theorem checkProvided_eq (mem : clause ∈ statement.clauses) :
    clause.checkProvided statement.scope.names = (do
      requireEmpty (clause.missingTables statement.collected) clause.origin .unknownTables
      requireEmpty (clause.missingCtes statement.collected) clause.origin .unknownCtes) := by
  have included : clause.names.needs ≤ statement.scope.names.needs := needs_le_listNames mem
  rw [missingTables, missingCtes, ← statement.names_scope, Names.unresolvedTables,
    Names.unresolvedCtes, ← OrderedSet.difference_eq_intersection included.tables,
    ← OrderedSet.difference_eq_intersection included.ctes]
  rfl

theorem checkProvided_eq_ok_iff (mem : clause ∈ statement.clauses) :
    clause.checkProvided statement.scope.names = .ok ()
      ↔ ¬ clause.Misses statement.collected := by
  rw [checkProvided_eq mem, check_eq_ok, requireEmpty_eq_ok, requireEmpty_eq_ok, not_misses_iff]

/-- What the check of a clause fails with: missing tables, or if there are none, missing common
table expressions. -/
theorem checkProvided_eq_error (mem : clause ∈ statement.clauses) {error : Error} :
    clause.checkProvided statement.scope.names = .error error
      ↔ ((clause.missingTables statement.collected).isEmpty = false
          ∧ error = .check clause.origin
            (.unknownTables (clause.missingTables statement.collected).toList))
        ∨ (clause.missingTables statement.collected).isEmpty = true
          ∧ (clause.missingCtes statement.collected).isEmpty = false
          ∧ error = .check clause.origin
            (.unknownCtes (clause.missingCtes statement.collected).toList) := by
  simp only [checkProvided_eq mem, check_eq_error, requireEmpty, require_eq_error, require_eq_ok]

end Clause

/-! ## Statements -/

namespace Statement

variable {statement : Statement} {origin : Origin}

section Kind

variable {f : Needs → NameSet} {clauses : List Clause}

/-- What all clauses read together is read by one of them. -/
theorem exists_reads_of_contains (empty : f ∅ = ∅)
    (union : ∀ left right, f (left ∪ right) = f left ∪ f right) {name : String}
    (held : (f (Clause.listNames clauses).needs).contains name = true) :
    ∃ clause ∈ clauses, (f clause.names.needs).contains name = true := by
  induction clauses with
  | nil =>
      rw [Clause.listNames, Names.needs_empty, empty] at held
      cases held
  | cons clause clauses ih =>
      rw [Clause.listNames, Names.needs_union, union, OrderedSet.contains_union,
        Bool.or_eq_true] at held
      rcases held with here | later
      · exact ⟨clause, List.mem_cons_self, here⟩
      · obtain ⟨other, mem, reads⟩ := ih later
        exact ⟨other, List.mem_cons_of_mem _ mem, reads⟩

/-- Of the names of one kind that are not provided, nothing is left over exactly if no clause reads
one that is. -/
theorem isEmpty_leftOver_iff (empty : f ∅ = ∅)
    (union : ∀ left right, f (left ∪ right) = f left ∪ f right) (provided : NameSet) :
    (f (Clause.listNames clauses).needs \ provided).isEmpty = true
      ↔ ∀ clause ∈ clauses,
        (f clause.names.needs ∩ (f (Clause.listNames clauses).needs \ provided)).isEmpty
          = true := by
  simp only [OrderedSet.isEmpty_iff]
  constructor
  · intro none clause _ name
    rw [OrderedSet.contains_intersection, none name, Bool.and_false]
  · intro none name
    by_contra left
    rw [Bool.not_eq_false] at left
    have both := left
    rw [OrderedSet.contains_difference, Bool.and_eq_true] at both
    obtain ⟨clause, mem, reads⟩ := exists_reads_of_contains empty union both.1
    have unread := none clause mem name
    rw [OrderedSet.contains_intersection, reads, left] at unread
    cases unread

end Kind

/-- The clauses miss nothing exactly if nothing is left over. -/
theorem forall_not_misses_iff :
    (∀ clause ∈ statement.clauses, ¬ clause.Misses statement.collected)
      ↔ statement.collected.unresolvedTables.isEmpty = true
        ∧ statement.collected.unresolvedCtes.isEmpty = true := by
  simp only [Clause.not_misses_iff, forall_and, ← statement.names_scope]
  exact and_congr (isEmpty_leftOver_iff rfl (fun _ _ => rfl) _).symm
    (isEmpty_leftOver_iff rfl (fun _ _ => rfl) _).symm

theorem checkPrepare_eq_ok_iff :
    statement.checkPrepare = .ok ()
      ↔ statement.checkConsistency = .ok ()
        ∧ statement.collected.unresolvedTables.isEmpty = true
        ∧ statement.collected.unresolvedCtes.isEmpty = true := by
  rw [checkPrepare_eq_ok, ← forall_not_misses_iff]
  refine and_congr_right fun _ => forall₂_congr fun clause mem => ?_
  exact Clause.checkProvided_eq_ok_iff mem

/-- An error that is none of a statement's own rules is the one of its first clause that misses a
name. -/
theorem checkPrepare_eq_error {error : Error} (notRule : error.isInconsistency = false) :
    statement.checkPrepare = .error error
      ↔ statement.checkConsistency = .ok () ∧ ∃ clause, statement.FirstToMiss clause
        ∧ clause.checkProvided statement.scope.names = .error error := by
  have noRule : statement.checkConsistency ≠ .error error := fun failed => by
    rw [statement.checksRules_checkConsistency error failed] at notRule
    cases notRule
  rw [checkPrepare, check_eq_error, forM_eq_error]
  simp only [noRule, false_or]
  refine and_congr_right fun _ => ?_
  constructor
  · rintro ⟨before, clause, after, same, provided, failed⟩
    have mem {other : Clause} (isOne : other ∈ before ∨ other = clause) :
        other ∈ statement.clauses := by
      rw [same]
      simpa using isOne.imp_right .inl
    refine ⟨clause, ⟨?_, before, after, same, fun earlier isEarlier => ?_⟩, failed⟩
    · by_contra passes
      rw [(Clause.checkProvided_eq_ok_iff (mem (.inr rfl))).2 passes] at failed
      cases failed
    · exact (Clause.checkProvided_eq_ok_iff (mem (.inl isEarlier))).1 (provided earlier isEarlier)
  · rintro ⟨clause, ⟨-, before, after, same, provided⟩, failed⟩
    refine ⟨before, clause, after, same, fun earlier isEarlier => ?_, failed⟩
    refine (Clause.checkProvided_eq_ok_iff ?_).2 (provided earlier isEarlier)
    rw [same]
    exact List.mem_append_left _ isEarlier

theorem checkPrepare_eq_unknownTables {tables : List String} :
    statement.checkPrepare = .error (.check origin (.unknownTables tables))
      ↔ statement.checkConsistency = .ok () ∧ ∃ clause, statement.FirstToMiss clause
        ∧ clause.origin = origin
        ∧ Lists tables (clause.missingTables statement.collected)
          statement.collected.unresolvedTables := by
  rw [checkPrepare_eq_error rfl]
  refine and_congr_right fun _ => exists_congr fun clause => and_congr_right fun first => ?_
  rw [Clause.checkProvided_eq_error first.mem, Clause.missingTables,
    Lists.iff clause.names_distinct.needs.tables]
  constructor
  · rintro (⟨some, same⟩ | ⟨-, -, ⟨⟩⟩)
    cases same
    exact ⟨rfl, some, rfl⟩
  · rintro ⟨rfl, some, rfl⟩
    exact .inl ⟨some, rfl⟩

theorem checkPrepare_eq_unknownCtes {ctes : List String} :
    statement.checkPrepare = .error (.check origin (.unknownCtes ctes))
      ↔ statement.checkConsistency = .ok () ∧ ∃ clause, statement.FirstToMiss clause
        ∧ clause.origin = origin
        ∧ (clause.missingTables statement.collected).isEmpty = true
        ∧ Lists ctes (clause.missingCtes statement.collected)
          statement.collected.unresolvedCtes := by
  rw [checkPrepare_eq_error rfl]
  refine and_congr_right fun _ => exists_congr fun clause => and_congr_right fun first => ?_
  rw [Clause.checkProvided_eq_error first.mem, Clause.missingCtes,
    Lists.iff clause.names_distinct.needs.ctes]
  constructor
  · rintro (⟨-, ⟨⟩⟩ | ⟨none, some, same⟩)
    cases same
    exact ⟨rfl, none, some, rfl⟩
  · rintro ⟨rfl, none, some, rfl⟩
    exact .inr ⟨none, some, rfl⟩

/-- The two ways to ask for missing names agree, and both go by the names that are collected clause
after clause.  A statement can be prepared exactly if it is consistent and nothing is left over of
the names that its clauses read.  Otherwise, if its own rules hold, the failure is attributed to the
earliest clause that misses a name.  It lists the tables that the clause misses, and if there are
none, the common table expressions. -/
theorem checkPrepare_agrees (statement : Statement) :
    statement.scope.names = statement.collected
    ∧ (statement.checkPrepare = .ok ()
      ↔ statement.checkConsistency = .ok ()
        ∧ statement.collected.unresolvedTables.isEmpty = true
        ∧ statement.collected.unresolvedCtes.isEmpty = true)
    ∧ (∀ origin tables,
      statement.checkPrepare = .error (.check origin (.unknownTables tables))
        ↔ statement.checkConsistency = .ok () ∧ ∃ clause, statement.FirstToMiss clause
          ∧ clause.origin = origin
          ∧ Lists tables (clause.missingTables statement.collected)
            statement.collected.unresolvedTables)
    ∧ ∀ origin ctes,
      statement.checkPrepare = .error (.check origin (.unknownCtes ctes))
        ↔ statement.checkConsistency = .ok () ∧ ∃ clause, statement.FirstToMiss clause
          ∧ clause.origin = origin
          ∧ (clause.missingTables statement.collected).isEmpty = true
          ∧ Lists ctes (clause.missingCtes statement.collected)
            statement.collected.unresolvedCtes :=
  ⟨statement.names_scope, checkPrepare_eq_ok_iff, fun _ _ => checkPrepare_eq_unknownTables,
    fun _ _ => checkPrepare_eq_unknownCtes⟩

example : (select (.ofColumn "foo")).checkPrepare
    = .error (.check .select (.unknownTables ["foo"])) := by decide

end Statement

end CheckedSql
