import CheckedSql.Proofs.Building
import CheckedSql.Proofs.Part

/-!
# Definitions and their arms

A common table expression starts as a name for a base, and further calls unite it with
arms (`Cte.Defined`).  What the calls check of a select holds of all selects of the
definition, and every arm is marked by whether it reads the definition
(`Cte.Sound`).  A call keeps that (`Cte.Sound.union`), so any number of calls
does (`Cte.Defined.sound`).
-/

namespace CheckedSql

namespace Cte

/-- A definition that the calls return: a base under a name, and arms that were united with it one
after the other. -/
inductive Defined : Cte → Prop where
  | define {name : String} {base : Select} {cte : Cte} :
      Cte.define name base = .ok cte → Defined cte
  | union {cte result : Cte} {distinct : Bool} {arm : Entry Select} :
      Defined cte → cte.union distinct arm = .ok result → Defined result

/-- A select that can stand in a definition: it passes its own check, reads no table from outside
and has the result columns of the definition. -/
structure Fits (definition : Cte) (select : Select) : Prop where
  consistent : select.checkConsistency = .ok ()
  closed : select.unresolvedTables.isEmpty = true
  fields : select.fields = definition.fields

/-- What the calls see to: every select fits, the base does not read the definition, and an arm is
marked exactly if it does. -/
structure Sound (definition : Cte) : Prop where
  fits : ∀ select ∈ definition.selects, definition.Fits select
  base : definition.base.unresolvedCtes.contains definition.name = false
  marks : ∀ arm ∈ definition.arms,
    arm.readsSelf = arm.select.value.unresolvedCtes.contains definition.name

/-- A new definition is sound. -/
theorem Sound.define {name : String} {base : Select} {definition : Cte}
    (made : Cte.define name base = .ok definition) : definition.Sound := by
  obtain ⟨notRead, closed, consistent, rfl⟩ := define_eq_ok.1 made
  exact {
    fits := List.forall_mem_singleton.2 ⟨consistent, closed, rfl⟩
    base := notRead
    marks := nofun }

/-- A sound definition stays sound when an arm is united with it. -/
theorem Sound.union {old result : Cte} {distinct : Bool} {arm : Entry Select}
    (sound : old.Sound) (made : old.union distinct arm = .ok result) : result.Sound := by
  obtain ⟨fields, closed, consistent, rfl⟩ := union_eq_ok.1 made
  refine { fits := ?_, base := sound.base, marks := ?_ }
  · rw [selects, List.map_append, ← List.cons_append, List.forall_mem_append]
    refine ⟨fun select mem => ?_, ?_⟩
    · obtain ⟨selectConsistent, selectClosed, selectFields⟩ := sound.fits select mem
      exact ⟨selectConsistent, selectClosed, selectFields⟩
    · exact List.forall_mem_singleton.2 ⟨consistent, closed, fields.symm⟩
  · rw [List.forall_mem_append, List.forall_mem_singleton]
    exact ⟨sound.marks, rfl⟩

/-- Whatever the calls return is sound. -/
theorem Defined.sound {definition : Cte} (defined : definition.Defined) : definition.Sound := by
  induction defined with
  | define made => exact .define made
  | union _ made ih => exact ih.union made

end Cte

end CheckedSql
