import CheckedSql.Proofs.OrderedSet
import Mathlib.Data.Finset.Card

/-!
# Sets as finite sets

Elements are compared with `==`, and elements that are equal in this way need not be the
same.  So a set stands for a finite set of *kinds* of elements (`OrderedSet.members`), where
equal elements are of one kind.

Every operation is the one on finite sets (`OrderedSet.members_union` and its neighbours),
whatever the lists are.  The tests that count need more: a distinct set lists one element of
each kind, so its size is the number of kinds (`OrderedSet.Distinct.size_eq_card`), and two
such sets of one size are equal as soon as one includes the other
(`OrderedSet.Distinct.beq_iff`).
-/

namespace CheckedSql

variable {α : Type} [BEq α] [EquivBEq α]

/-! ## Kinds of elements -/

/-- Equal elements are of one kind. -/
def sameKind (α : Type) [BEq α] [EquivBEq α] : Setoid α where
  r item other := (item == other) = true
  iseqv := ⟨fun _ => BEq.rfl, BEq.symm, BEq.trans⟩

/-- Elements up to their equality. -/
def Kind (α : Type) [BEq α] [EquivBEq α] : Type := Quotient (sameKind α)

/-- The kind of an element. -/
def kindOf (item : α) : Kind α := Quotient.mk (sameKind α) item

instance : DecidableEq (Kind α) :=
  have (item other : α) : Decidable ((sameKind α).r item other) :=
    inferInstanceAs (Decidable ((item == other) = true))
  inferInstanceAs (DecidableEq (Quotient (sameKind α)))

theorem kindOf_eq_iff {item other : α} : kindOf item = kindOf other ↔ (item == other) = true :=
  Quotient.eq

/-- Each kind is the kind of some element. -/
theorem Kind.forall_iff {holds : Kind α → Prop} :
    (∀ kind, holds kind) ↔ ∀ item, holds (kindOf item) :=
  Quotient.forall

theorem Kind.finset_eq_iff {first second : Finset (Kind α)} :
    first = second ↔ ∀ item, kindOf item ∈ first ↔ kindOf item ∈ second := by
  rw [Finset.ext_iff, Kind.forall_iff]

theorem nodup_map_kindOf_iff {items : List α} :
    (items.map kindOf).Nodup
      ↔ items.Pairwise fun earlier later => (earlier == later) = false := by
  rw [List.Nodup, List.pairwise_map]
  refine List.Pairwise.iff fun earlier later => ?_
  rw [ne_eq, kindOf_eq_iff, Bool.not_eq_true]

/-- The test for duplicates asks whether some kind occurs more than once. -/
theorem hasDuplicates_iff_count {items : List α} :
    hasDuplicates items = true ↔ ∃ kind, 1 < (items.map kindOf).count kind := by
  have none : hasDuplicates items = false ↔ (items.map kindOf).Nodup := by
    rw [hasDuplicates_eq_false_iff_pairwise, nodup_map_kindOf_iff]
    refine List.Pairwise.iff fun earlier later => ?_
    rw [BEq.comm]
  rw [← Bool.not_eq_false, none, List.nodup_iff_count_le_one]
  simp only [not_forall, not_le]

namespace OrderedSet

variable {set left right first second third : OrderedSet α}

/-! ## Operations -/

/-- The kinds of the elements of a set. -/
def members (set : OrderedSet α) : Finset (Kind α) := (set.toList.map kindOf).toFinset

@[simp] theorem kindOf_mem_members {item : α} :
    kindOf item ∈ set.members ↔ set.contains item = true := by
  simp [members, contains, kindOf_eq_iff]

@[simp] theorem members_insert (set : OrderedSet α) (item : α) :
    (set.insert item).members = Insert.insert (kindOf item) set.members := by
  refine Kind.finset_eq_iff.2 fun other => ?_
  simp [kindOf_eq_iff, or_comm, BEq.comm (a := other)]

@[simp] theorem members_insertAll (set : OrderedSet α) (items : List α) :
    (set.insertAll items).members = set.members ∪ (items.map kindOf).toFinset := by
  refine Kind.finset_eq_iff.2 fun other => ?_
  simp [contains_insertAll, kindOf_eq_iff]

theorem members_ofList (items : List α) : (ofList items).members = (items.map kindOf).toFinset := by
  rw [ofList, members_insertAll]
  exact Finset.empty_union _

@[simp] theorem members_union (left right : OrderedSet α) :
    (left ∪ right).members = left.members ∪ right.members :=
  members_insertAll left right.toList

@[simp] theorem members_difference (left right : OrderedSet α) :
    (left \ right).members = left.members \ right.members := by
  refine Kind.finset_eq_iff.2 fun item => ?_
  simp

@[simp] theorem members_intersection (left right : OrderedSet α) :
    (left ∩ right).members = left.members ∩ right.members := by
  refine Kind.finset_eq_iff.2 fun item => ?_
  simp

/-! ## Tests -/

theorem isSubsetOf_iff_members :
    left.isSubsetOf right = true ↔ left.members ⊆ right.members := by
  simp only [isSubsetOf_iff, Finset.subset_iff, Kind.forall_iff, kindOf_mem_members]

theorem isDisjoint_iff_members :
    left.isDisjoint right = true ↔ Disjoint left.members right.members := by
  simp only [isDisjoint_iff, Finset.disjoint_left, Kind.forall_iff, kindOf_mem_members,
    Bool.not_eq_true]

namespace Distinct

/-- A distinct set lists one element of each kind. -/
theorem size_eq_card (distinct : set.Distinct) : set.size = set.members.card := by
  rw [members, List.toFinset_card_of_nodup (nodup_map_kindOf_iff.2 distinct), List.length_map]
  rfl

/-- A set that includes another one of its size has nothing besides. -/
theorem beq_iff (leftDistinct : left.Distinct) (rightDistinct : right.Distinct) :
    (left == right) = true ↔ left.members = right.members := by
  have test : (left == right) = (left.size == right.size && left.isSubsetOf right) := rfl
  rw [test, Bool.and_eq_true, beq_iff_eq, isSubsetOf_iff_members, leftDistinct.size_eq_card,
    rightDistinct.size_eq_card]
  constructor
  · rintro ⟨sameSize, included⟩
    exact Finset.eq_of_subset_of_card_le included sameSize.ge
  · intro same
    exact ⟨congrArg Finset.card same, same.subset⟩

theorem beq_comm (leftDistinct : left.Distinct) (rightDistinct : right.Distinct) :
    (left == right) = (right == left) := by
  rw [Bool.eq_iff_iff, leftDistinct.beq_iff rightDistinct, rightDistinct.beq_iff leftDistinct,
    eq_comm]

theorem beq_trans (firstDistinct : first.Distinct) (secondDistinct : second.Distinct)
    (thirdDistinct : third.Distinct) (same : (first == second) = true)
    (other : (second == third) = true) : (first == third) = true := by
  rw [firstDistinct.beq_iff secondDistinct] at same
  rw [secondDistinct.beq_iff thirdDistinct] at other
  exact (firstDistinct.beq_iff thirdDistinct).2 (same.trans other)

end Distinct

/-- The order of a list does not matter for the set that is made of it. -/
theorem ofList_beq_of_perm {items others : List α} (reordered : items.Perm others) :
    (ofList items == ofList others) = true := by
  rw [(Distinct.ofList items).beq_iff (.ofList others), members_ofList, members_ofList]
  exact List.toFinset_eq_of_perm _ _ (reordered.map kindOf)

end OrderedSet

end CheckedSql
