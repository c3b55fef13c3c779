import CheckedSql.OrderedSet

/-!
# Sets hold an element once

Every operation on sets gives a distinct set if its left operand is one
(`OrderedSet.Distinct`): an insertion asks first whether the element is present, and
differences and intersections only leave elements out.

So the elements of a union are known as a list: those of the left set, and after them the
elements of the right one that are new (`OrderedSet.toList_union`).  With that, unions of
distinct sets are equal in whatever way they are grouped (`OrderedSet.union_assoc`), and
not only up to the order of their elements.
-/

namespace CheckedSql

namespace OrderedSet

variable {α : Type} [BEq α]

/-- No element is equal to a later one. -/
def Distinct (set : OrderedSet α) : Prop :=
  set.toList.Pairwise fun earlier later => (earlier == later) = false

variable {set left right first second third : OrderedSet α}

theorem contains_eq_false_iff {item : α} :
    set.contains item = false ↔ ∀ stored ∈ set.toList, (stored == item) = false := by
  simp [contains]

/-! ## Operations -/

namespace Distinct

theorem empty : (∅ : OrderedSet α).Distinct := List.Pairwise.nil

theorem singleton (item : α) : (OrderedSet.singleton item).Distinct := List.pairwise_singleton _ _

/-- An insertion looks for the element first. -/
theorem insert (distinct : set.Distinct) (item : α) : (set.insert item).Distinct := by
  unfold Distinct
  rw [toList_insert]
  split
  · exact distinct
  · next isNew =>
      rw [Bool.not_eq_true, contains_eq_false_iff] at isNew
      refine List.pairwise_append.2 ⟨distinct, List.pairwise_singleton _ _, ?_⟩
      intro stored mem other isItem
      rw [List.mem_singleton.1 isItem]
      exact isNew stored mem

theorem insertAll (distinct : set.Distinct) (items : List α) : (set.insertAll items).Distinct := by
  induction items generalizing set with
  | nil => exact distinct
  | cons item items ih => exact ih (distinct.insert item)

theorem ofList (items : List α) : (OrderedSet.ofList items).Distinct := empty.insertAll items

theorem union (distinct : left.Distinct) (right : OrderedSet α) : (left ∪ right).Distinct :=
  distinct.insertAll right.toList

theorem difference (distinct : left.Distinct) (right : OrderedSet α) :
    (left \ right).Distinct :=
  distinct.sublist List.filter_sublist

theorem intersection (distinct : left.Distinct) (right : OrderedSet α) :
    (left ∩ right).Distinct :=
  distinct.sublist List.filter_sublist

/-- The list of a distinct set is free of repetitions. -/
theorem nodup [ReflBEq α] (distinct : set.Distinct) : set.toList.Nodup := by
  refine List.Pairwise.imp ?_ distinct
  rintro earlier _ differ rfl
  rw [BEq.rfl] at differ
  cases differ

end Distinct

/-! ## Unions as lists -/

variable [EquivBEq α]

/-- Of elements that differ from each other, those that are new are added in their order. -/
theorem toList_insertAll {items : List α}
    (distinct : items.Pairwise fun earlier later => (earlier == later) = false) :
    (set.insertAll items).toList = set.toList ++ items.filter fun item => !set.contains item := by
  induction items generalizing set with
  | nil => exact (List.append_nil _).symm
  | cons item items ih =>
      obtain ⟨differs, rest⟩ := List.pairwise_cons.1 distinct
      -- the first element does not hide any of the others
      have same : (items.filter fun other => !(set.insert item).contains other)
          = items.filter fun other => !set.contains other :=
        List.filter_congr fun other mem => by rw [contains_insert, differs other mem, Bool.or_false]
      show ((set.insert item).insertAll items).toList = _
      rw [ih rest, same, toList_insert, List.filter_cons]
      cases set.contains item <;> simp

/-- A union lists the left set, and after it what the right one adds. -/
theorem toList_union (distinct : right.Distinct) :
    (left ∪ right).toList
      = left.toList ++ right.toList.filter fun item => !left.contains item :=
  toList_insertAll distinct

theorem empty_union (distinct : right.Distinct) : ∅ ∪ right = right := by
  have same : ((∅ : OrderedSet α) ∪ right).toList = right.toList := by
    rw [toList_union distinct]
    exact List.filter_eq_self.2 fun _ _ => rfl
  exact congrArg OrderedSet.mk same

/-- Unions of distinct sets may be grouped in any way. -/
theorem union_assoc (secondDistinct : second.Distinct) (thirdDistinct : third.Distinct) :
    (first ∪ second) ∪ third = first ∪ (second ∪ third) := by
  have same : ((first ∪ second) ∪ third).toList = (first ∪ (second ∪ third)).toList := by
    rw [toList_union thirdDistinct, toList_union secondDistinct,
      toList_union (secondDistinct.union third), toList_union thirdDistinct, List.filter_append,
      List.filter_filter, List.append_assoc]
    congr 2
    refine List.filter_congr fun item _ => ?_
    rw [contains_union, Bool.not_or]
  exact congrArg OrderedSet.mk same

end OrderedSet

end CheckedSql
