import CheckedSql.Proofs.Definitions.Invariant
import CheckedSql.Proofs.Scoping.Needs
import CheckedSql.Proofs.Writing.PartLayout

/-!
# Recursive definitions

An arm of a common table expression may read the common table expression itself.  The
call that unites the arm finds that out and keeps it as a mark, and writing looks at
the mark only.  So the keyword stands for what was read at the time of the call:
`WITH` is written as `WITH RECURSIVE` exactly if some written arm of some written
definition reads that definition (`Cte.Defined.promises`).
-/

namespace CheckedSql

/-! ## What a definition needs -/

namespace Cte

/-- A definition does not need its own name. -/
theorem not_contains_needs_name (definition : Cte) :
    definition.needs.ctes.contains definition.name = false := by
  obtain ⟨name, base, arms, fields⟩ := definition
  simp [needs]

/-- A sound definition needs no table. -/
theorem Sound.needs_tables {definition : Cte} (sound : definition.Sound) :
    definition.needs.tables.isEmpty = true := by
  rw [OrderedSet.isEmpty_iff]
  intro table
  rw [← Bool.not_eq_true, contains_needs]
  rintro ⟨part, mem, read⟩
  obtain ⟨select, selectMem, rfl⟩ := List.mem_map.1 mem
  rw [Part.needs_select, OrderedSet.isEmpty_iff.1 (sound.fits select selectMem).closed] at read
  exact Bool.false_ne_true read

/-- A sound definition is recursive if an active arm reads it. -/
theorem Sound.isRecursive_iff {definition : Cte} (sound : definition.Sound) :
    definition.isRecursive = true
      ↔ ∃ arm ∈ definition.arms, arm.select.isActive = true
        ∧ arm.select.value.unresolvedCtes.contains definition.name = true := by
  rw [isRecursive, List.any_eq_true]
  refine exists_congr fun arm => and_congr_right fun mem => ?_
  rw [Bool.and_eq_true, sound.marks arm mem, and_comm]

end Cte

/-! ## The keyword -/

/-- A `WITH` starts with the keyword for recursion exactly if an active definition is recursive. -/
theorem Clause.head?_with_tokens (dialect : Dialect) (ctes : List (Entry Cte)) :
    ((Clause.with ctes).tokens dialect).head? = some (.text "WITH RECURSIVE ")
      ↔ ∃ cte ∈ ctes, cte.isActive = true ∧ cte.value.isRecursive = true := by
  have active : (activeValues ctes).any Cte.isRecursive = true
      ↔ ∃ cte ∈ ctes, cte.isActive = true ∧ cte.value.isRecursive = true := by
    simp [activeValues]
  rw [← active, tokens, withTokens, Cte.activeTokens_eq, List.isEmpty_map]
  cases activeValues ctes with
  | nil => simp
  | cons first rest => cases (first :: rest).any Cte.isRecursive <;> simp

namespace Cte

/-- Common table expressions keep their promises through any number of calls.  Each select of a
definition passes its own check, reads no table from outside and has the result columns of the
definition.  The base does not read the definition, which therefore needs neither its own name nor
any table.  `WITH` has the keyword for recursion exactly if an active arm of an active definition
reads that definition. -/
theorem Defined.promises :
    (∀ definition : Cte, definition.Defined →
      (∀ select ∈ definition.selects, definition.Fits select)
        ∧ definition.base.unresolvedCtes.contains definition.name = false
        ∧ definition.needs.ctes.contains definition.name = false
        ∧ definition.needs.tables.isEmpty = true)
      ∧ ∀ (dialect : Dialect) (ctes : List (Entry Cte)), (∀ cte ∈ ctes, cte.value.Defined) →
        (((Clause.with ctes).tokens dialect).head? = some (.text "WITH RECURSIVE ")
          ↔ ∃ cte ∈ ctes, cte.isActive = true ∧ ∃ arm ∈ cte.value.arms,
            arm.select.isActive = true
              ∧ arm.select.value.unresolvedCtes.contains cte.value.name = true) := by
  constructor
  · intro definition defined
    have sound := defined.sound
    exact ⟨sound.fits, sound.base, definition.not_contains_needs_name, sound.needs_tables⟩
  · intro dialect ctes defined
    rw [Clause.head?_with_tokens]
    refine exists_congr fun cte => and_congr_right fun mem => and_congr_right fun _ => ?_
    exact (defined cte mem).sound.isRecursive_iff

/-- The definition of `c` by the numbers of `foo`, united with its own numbers if they are asked
for. -/
def growing (active : Bool) : Cte where
  name := "c"
  base := .ofId "foo" "foo"
  arms := [⟨true, .dynamic active (.ofCte "c"), true⟩]
  fields := (Select.ofId "foo" "foo").fields

theorem growing_defined (active : Bool) : (growing active).Defined := by
  let base : Cte := ⟨"c", .ofId "foo" "foo", [], (Select.ofId "foo" "foo").fields⟩
  have defined : Cte.define "c" (.ofId "foo" "foo") = .ok base := rfl
  have united : base.union true (.dynamic active (.ofCte "c")) = .ok (growing active) := rfl
  exact .union (.define defined) united

/-- The keyword comes and goes with the arm that reads the definition. -/
theorem growing_promises :
    (growing true).Defined ∧ (growing false).Defined
      ∧ (growing true).needs.tables.isEmpty = true
      ∧ ((Clause.with [.static (growing true)]).tokens .generic).head?
        = some (.text "WITH RECURSIVE ")
      ∧ ((Clause.with [.static (growing false)]).tokens .generic).head?
        ≠ some (.text "WITH RECURSIVE ") := by
  obtain ⟨sound, keyword⟩ := Defined.promises
  have defined : ∀ active, ∀ cte ∈ [Entry.static (growing active)], cte.value.Defined := by
    intro active
    rw [List.forall_mem_singleton]
    exact growing_defined active
  have read : (Select.ofCte "c").unresolvedCtes.contains "c" = true := rfl
  obtain ⟨-, -, -, closed⟩ := sound (growing true) (growing_defined true)
  refine ⟨growing_defined true, growing_defined false, closed, ?_, ?_⟩
  · rw [keyword .generic _ (defined true)]
    exact ⟨_, .head _, rfl, _, .head _, rfl, read⟩
  · rw [Ne, keyword .generic _ (defined false)]
    rintro ⟨cte, mem, -, arm, armMem, active, -⟩
    obtain rfl := List.mem_singleton.1 mem
    obtain rfl := List.mem_singleton.1 armMem
    exact Bool.false_ne_true active

end Cte

end CheckedSql
