import CheckedSql.Proofs.OrderedSet.Arrival
import CheckedSql.Proofs.OrderedSet.Members
import Mathlib.Data.String.Basic
import Mathlib.Logic.Function.Basic

/-!
# Programs over sets

A program changes any number of sets, step by step, and all of them are empty at first.  It
can be run with other things in the place of the sets (`SetOperations`): with the finite
sets of kinds that they stand for, or with the lists of all arrivals.

The three runs are tied together by maps that commute with every operation
(`SetOperations.Hom`), and so with each step and with any program
(`SetOperations.Hom.run_eq`).  One makes a set of its arrivals, and the other one takes the
members of a set.  So the sets at the end of a program are sets that were made of lists.
Those are distinct, and the tests that count can be relied on (`SetProgram.run_refines`).
-/

namespace CheckedSql

variable {ι α σ τ : Type}

/-! ## Steps -/

/-- One step of a program: the name of the set that it changes, and how. -/
inductive SetStep (ι α : Type) where
  | insert (target : ι) (item : α)
  /-- The source with one more element. -/
  | including (target source : ι) (item : α)
  | extend (target : ι) (items : List α)
  /-- A new set, made of a list. -/
  | collect (target : ι) (items : List α)
  | union (target left right : ι)
  | difference (target left right : ι)
  | intersection (target left right : ι)

/-- The operations that steps are made of, on things that stand for sets of elements. -/
structure SetOperations (α σ : Type) where
  empty : σ
  insert : σ → α → σ
  insertAll : σ → List α → σ
  union : σ → σ → σ
  difference : σ → σ → σ
  intersection : σ → σ → σ

namespace SetStep

/-- The set that a step changes. -/
def target : SetStep ι α → ι
  | insert target _ | including target _ _ | extend target _ | collect target _
  | union target _ _ | difference target _ _ | intersection target _ _ => target

/-- What the changed set is after the step. -/
def result (operations : SetOperations α σ) (sets : ι → σ) : SetStep ι α → σ
  | insert target item => operations.insert (sets target) item
  | including _ source item => operations.insert (sets source) item
  | extend target items => operations.insertAll (sets target) items
  | collect _ items => operations.insertAll operations.empty items
  | union _ left right => operations.union (sets left) (sets right)
  | difference _ left right => operations.difference (sets left) (sets right)
  | intersection _ left right => operations.intersection (sets left) (sets right)

/-- The sets after a step. -/
def run [DecidableEq ι] (operations : SetOperations α σ) (sets : ι → σ) (step : SetStep ι α) :
    ι → σ :=
  Function.update sets step.target (step.result operations sets)

end SetStep

/-- Steps, in the order in which they are taken. -/
abbrev SetProgram (ι α : Type) := List (SetStep ι α)

/-- The sets at the end of a program that starts with empty ones. -/
def SetProgram.run [DecidableEq ι] (operations : SetOperations α σ) (program : SetProgram ι α) :
    ι → σ :=
  program.foldl (SetStep.run operations) fun _ => operations.empty

/-! ## Runs side by side -/

/-- A map that commutes with every operation. -/
structure SetOperations.Hom (source : SetOperations α σ) (target : SetOperations α τ)
    (image : σ → τ) : Prop where
  empty : image source.empty = target.empty
  insert : ∀ set item, image (source.insert set item) = target.insert (image set) item
  insertAll : ∀ set items, image (source.insertAll set items) = target.insertAll (image set) items
  union : ∀ left right, image (source.union left right) = target.union (image left) (image right)
  difference : ∀ left right,
    image (source.difference left right) = target.difference (image left) (image right)
  intersection : ∀ left right,
    image (source.intersection left right) = target.intersection (image left) (image right)

namespace SetOperations.Hom

variable {source : SetOperations α σ} {target : SetOperations α τ} {image : σ → τ}

theorem result_eq (hom : Hom source target image) (sets : ι → σ) (step : SetStep ι α) :
    image (step.result source sets) = step.result target (image ∘ sets) := by
  cases step with
  | insert name item => exact hom.insert (sets name) item
  | including _ name item => exact hom.insert (sets name) item
  | extend name items => exact hom.insertAll (sets name) items
  | collect _ items =>
      have collected := hom.insertAll source.empty items
      rwa [hom.empty] at collected
  | union _ left right => exact hom.union (sets left) (sets right)
  | difference _ left right => exact hom.difference (sets left) (sets right)
  | intersection _ left right => exact hom.intersection (sets left) (sets right)

variable [DecidableEq ι]

theorem step_eq (hom : Hom source target image) (sets : ι → σ) (step : SetStep ι α) :
    image ∘ step.run source sets = step.run target (image ∘ sets) := by
  rw [SetStep.run, SetStep.run, Function.comp_update, hom.result_eq]

/-- The images of the sets of a run are the sets of the other run. -/
theorem run_eq (hom : Hom source target image) (program : SetProgram ι α) :
    image ∘ program.run source = program.run target := by
  have start : (image ∘ fun _ : ι => source.empty) = fun _ => target.empty :=
    funext fun _ => hom.empty
  unfold SetProgram.run
  rw [← start]
  generalize (fun _ : ι => source.empty) = sets
  induction program generalizing sets with
  | nil => rfl
  | cons step steps ih => rw [List.foldl_cons, List.foldl_cons, ih, hom.step_eq]

end SetOperations.Hom

/-! ## What programs are run with -/

section Operations

variable [BEq α]

/-- The operations on sets in insertion order. -/
def OrderedSet.operations : SetOperations α (OrderedSet α) where
  empty := ∅
  insert := insert
  insertAll := insertAll
  union := (· ∪ ·)
  difference := (· \ ·)
  intersection := (· ∩ ·)

/-- The operations on finite sets of kinds. -/
def Kind.operations [EquivBEq α] : SetOperations α (Finset (Kind α)) where
  empty := ∅
  insert set item := insert (kindOf item) set
  insertAll set items := set ∪ (items.map kindOf).toFinset
  union := (· ∪ ·)
  difference := (· \ ·)
  intersection := (· ∩ ·)

/-- The operations on lists of arrivals.  The right set of a union comes in after the left one, and
what a difference or an intersection keeps is kept with all its repetitions. -/
def arrivalOperations : SetOperations α (List α) where
  empty := []
  insert arrivals item := arrivals ++ [item]
  insertAll arrivals items := arrivals ++ items
  union left right := left ++ right
  difference left right := left.filter fun item => !right.any (· == item)
  intersection left right := left.filter fun item => right.any (· == item)

variable [EquivBEq α]

/-- The members of a set after an operation are those before it, changed in the same way. -/
theorem OrderedSet.members_hom :
    SetOperations.Hom (α := α) operations Kind.operations members where
  empty := rfl
  insert := members_insert
  insertAll := members_insertAll
  union := members_union
  difference := members_difference
  intersection := members_intersection

/-- A set after an operation is made of its arrivals after the operation. -/
theorem OrderedSet.ofList_hom :
    SetOperations.Hom (α := α) arrivalOperations operations ofList where
  empty := rfl
  insert := ofList_concat
  insertAll := insertAll_append empty
  union := ofList_append
  difference := ofList_difference
  intersection := ofList_intersection

end Operations

/-! ## Sets at the end of a program -/

namespace SetProgram

variable [BEq α] [EquivBEq α]

/-- Sets that no test can tell from finite sets, and that list what arrived first of each kind. -/
structure Refines (sets : ι → OrderedSet α) (members : ι → Finset (Kind α))
    (arrivals : ι → List α) : Prop where
  distinct : ∀ name, (sets name).Distinct
  contains_iff : ∀ name item, (sets name).contains item = true ↔ kindOf item ∈ members name
  size_eq : ∀ name, (sets name).size = (members name).card
  beq_iff : ∀ left right, (sets left == sets right) = true ↔ members left = members right
  beq_comm : ∀ left right, (sets left == sets right) = (sets right == sets left)
  beq_trans : ∀ first second third, (sets first == sets second) = true →
    (sets second == sets third) = true → (sets first == sets third) = true
  /-- What arrived in another order makes an equal set. -/
  beq_of_perm : ∀ left right, (arrivals left).Perm (arrivals right) →
    (sets left == sets right) = true
  isSubsetOf_iff : ∀ left right,
    (sets left).isSubsetOf (sets right) = true ↔ members left ⊆ members right
  isSupersetOf_iff : ∀ left right,
    (sets left).isSupersetOf (sets right) = true ↔ members right ⊆ members left
  isDisjoint_iff : ∀ left right,
    (sets left).isDisjoint (sets right) = true ↔ Disjoint (members left) (members right)
  areDisjoint_iff : ∀ left right,
    OrderedSet.areDisjoint (sets left) (sets right) = true
      ↔ Disjoint (members left) (members right)
  toList_eq_iff : ∀ name listed,
    (sets name).toList = listed ↔ FirstArrivals (arrivals name) listed
  /-- The elements of the left set stand in front of those that the right one adds. -/
  toList_union : ∀ left right, (sets left ∪ sets right).toList
    = (sets left).toList ++ (sets right).toList.filter fun item => !(sets left).contains item

/-- Sets that are made of lists are distinct, and the rest follows from that. -/
theorem refines_ofList (arrivals : ι → List α) :
    Refines (OrderedSet.ofList ∘ arrivals) (OrderedSet.members ∘ OrderedSet.ofList ∘ arrivals)
      arrivals := by
  have distinct (name : ι) : (OrderedSet.ofList (arrivals name)).Distinct :=
    .ofList (arrivals name)
  exact {
    distinct := distinct
    contains_iff := fun _ _ => OrderedSet.kindOf_mem_members.symm
    size_eq := fun name => (distinct name).size_eq_card
    beq_iff := fun left right => (distinct left).beq_iff (distinct right)
    beq_comm := fun left right => (distinct left).beq_comm (distinct right)
    beq_trans := fun first second third =>
      (distinct first).beq_trans (distinct second) (distinct third)
    beq_of_perm := fun _ _ => OrderedSet.ofList_beq_of_perm
    isSubsetOf_iff := fun _ _ => OrderedSet.isSubsetOf_iff_members
    isSupersetOf_iff := fun _ _ => OrderedSet.isSubsetOf_iff_members
    isDisjoint_iff := fun _ _ => OrderedSet.isDisjoint_iff_members
    areDisjoint_iff := fun _ _ => OrderedSet.isDisjoint_iff_members
    toList_eq_iff := fun _ _ => OrderedSet.toList_ofList_eq_iff
    toList_union := fun _ right => OrderedSet.toList_union (distinct right) }

/-- Whatever a program does, its sets are finite sets, listed in the order of arrival.  The test for
duplicates in a list finds the kinds that occur there more than once. -/
theorem run_refines [DecidableEq ι] (program : SetProgram ι α) :
    Refines (program.run OrderedSet.operations) (program.run Kind.operations)
        (program.run arrivalOperations)
      ∧ ∀ items : List α, hasDuplicates items = true
          ↔ ∃ kind, 1 < (items.map kindOf).count kind := by
  refine ⟨?_, fun _ => hasDuplicates_iff_count⟩
  rw [← OrderedSet.members_hom.run_eq program, ← OrderedSet.ofList_hom.run_eq program]
  exact refines_ofList _

/-- Table names that are collected, added and compared. -/
def accounting : SetProgram String String := [
  .collect "read" ["users", "orders", "users"],
  .insert "given" "orders",
  .extend "given" ["items", "users", "items"],
  .union "all" "read" "given",
  .union "turned" "given" "read",
  .difference "missing" "all" "read",
  .including "missing" "missing" "users",
  .intersection "both" "all" "missing"]

theorem accounting_refines :
    EquivBEq String
      ∧ (accounting.run OrderedSet.operations "all").toList = ["users", "orders", "items"]
      ∧ (accounting.run OrderedSet.operations "all"
        == accounting.run OrderedSet.operations "turned") = true
      ∧ (accounting.run OrderedSet.operations "missing").toList = ["items", "users"]
      ∧ (accounting.run OrderedSet.operations "both").toList = ["users", "items"]
      ∧ Refines (accounting.run OrderedSet.operations) (accounting.run Kind.operations)
        (accounting.run arrivalOperations)
      ∧ (hasDuplicates ["users", "orders", "users"] = true
        ↔ ∃ kind, 1 < (["users", "orders", "users"].map kindOf).count kind) :=
  ⟨inferInstance, by decide, by decide, by decide, by decide, (run_refines accounting).1,
    (run_refines accounting).2 _⟩

end SetProgram

end CheckedSql
