/-!
# Sets in insertion order

A set is kept as the list of its elements, oldest first, so that messages list
elements in the order in which they were met.  Membership is decided with `==`
of the elements, and an element equal to one already present is not stored
again.

A union lists the left set first and then the new elements of the right one.
Differences and intersections keep the order of the left set.  Two sets are
equal when they have the same elements, in whatever order.
-/

namespace CheckedSql

/-- A set that remembers the order in which its elements came in. -/
structure OrderedSet (α : Type) where
  /-- The elements, oldest first. -/
  toList : List α
  deriving Repr

namespace OrderedSet

variable {α : Type}

/-- The set without elements. -/
def empty : OrderedSet α := ⟨[]⟩

instance : EmptyCollection (OrderedSet α) := ⟨empty⟩

instance : Inhabited (OrderedSet α) := ⟨empty⟩

/-- The number of elements. -/
def size (set : OrderedSet α) : Nat := set.toList.length

/-- Whether there is no element. -/
def isEmpty (set : OrderedSet α) : Bool := set.toList.isEmpty

section Membership

variable [BEq α]

/-- Whether some element equals `item`. -/
def contains (set : OrderedSet α) (item : α) : Bool := set.toList.any (· == item)

/-- The set with `item`, added at the end unless it is present. -/
def insert (set : OrderedSet α) (item : α) : OrderedSet α :=
  if set.contains item then set else ⟨set.toList ++ [item]⟩

/-- The set with every element of a list, added one after the other. -/
def insertAll (set : OrderedSet α) (items : List α) : OrderedSet α := items.foldl insert set

/-- The set of the elements of a list. -/
def ofList (items : List α) : OrderedSet α := empty.insertAll items

/-- The set of one element. -/
def singleton (item : α) : OrderedSet α := ⟨[item]⟩

/-- The elements of either set, those of the left one first. -/
def union (left right : OrderedSet α) : OrderedSet α := left.insertAll right.toList

/-- The elements of the left set that are not in the right one. -/
def difference (left right : OrderedSet α) : OrderedSet α :=
  ⟨left.toList.filter fun item => !right.contains item⟩

/-- The elements of the left set that are also in the right one. -/
def intersection (left right : OrderedSet α) : OrderedSet α :=
  ⟨left.toList.filter fun item => right.contains item⟩

instance : Union (OrderedSet α) := ⟨union⟩

instance : SDiff (OrderedSet α) := ⟨difference⟩

instance : Inter (OrderedSet α) := ⟨intersection⟩

/-- Whether every element of the left set is in the right one. -/
def isSubsetOf (left right : OrderedSet α) : Bool := left.toList.all right.contains

/-- Whether every element of the right set is in the left one. -/
def isSupersetOf (left right : OrderedSet α) : Bool := right.isSubsetOf left

/-- Whether the sets share no element. -/
def isDisjoint (left right : OrderedSet α) : Bool := !left.toList.any right.contains

/-- The test for shared elements as a function of both sets alike. -/
def areDisjoint (left right : OrderedSet α) : Bool := left.isDisjoint right

/-- Equal sets have the same number of elements, and every element of the left one is in the right
one. -/
instance : BEq (OrderedSet α) := ⟨fun left right =>
  left.size == right.size && left.isSubsetOf right⟩

end Membership

/-! ## Membership in each operation's result -/

section Laws

variable [BEq α]

/-- The set without elements holds nothing. -/
@[simp] theorem contains_empty (item : α) : (∅ : OrderedSet α).contains item = false := rfl

/-- The set of one element holds what equals it. -/
@[simp] theorem contains_singleton (item other : α) :
    (singleton item).contains other = (item == other) := by
  rw [singleton, contains, List.any_cons, List.any_nil, Bool.or_false]

/-- A new element goes to the end; one that is present changes nothing. -/
theorem toList_insert (set : OrderedSet α) (item : α) :
    (set.insert item).toList = if set.contains item then set.toList else set.toList ++ [item] := by
  unfold insert
  split <;> rfl

@[simp] theorem contains_insert [EquivBEq α] (set : OrderedSet α) (item other : α) :
    (set.insert item).contains other = (set.contains other || item == other) := by
  unfold insert
  split
  · next present =>
      cases same : item == other with
      | false => simp
      | true =>
          obtain ⟨stored, mem, equal⟩ := List.any_eq_true.1 present
          have : set.contains other = true :=
            List.any_eq_true.2 ⟨stored, mem, BEq.trans equal same⟩
          simp [this]
  · simp [contains]

theorem contains_insertAll [EquivBEq α] (items : List α) (set : OrderedSet α) (other : α) :
    (set.insertAll items).contains other = (set.contains other || items.any (· == other)) := by
  induction items generalizing set with
  | nil => simp [insertAll]
  | cons item items ih =>
      have step : set.insertAll (item :: items) = (set.insert item).insertAll items := rfl
      rw [step, ih, contains_insert, List.any_cons, Bool.or_assoc]

@[simp] theorem contains_ofList [EquivBEq α] (items : List α) (other : α) :
    (ofList items).contains other = items.any (· == other) := by
  rw [ofList, contains_insertAll]
  rfl

@[simp] theorem contains_union [EquivBEq α] (left right : OrderedSet α) (item : α) :
    (left ∪ right).contains item = (left.contains item || right.contains item) :=
  contains_insertAll right.toList left item

/-- Equal elements are members of the same sets. -/
theorem contains_congr [EquivBEq α] (set : OrderedSet α) {item other : α} (h : item == other) :
    set.contains item = set.contains other := by
  unfold contains
  congr 1
  funext stored
  exact BEq.congr_right h

/-- A test that cannot tell equal elements apart passes through membership. -/
theorem any_filter_contains [EquivBEq α] (items : List α) (kept : α → Bool) (item : α)
    (congruent : ∀ stored, stored == item → kept stored = kept item) :
    (items.filter kept).any (· == item) = (items.any (· == item) && kept item) := by
  induction items with
  | nil => rfl
  | cons stored items ih =>
      cases same : stored == item with
      | true =>
          cases keep : kept item with
          | true => simp [congruent stored same, keep, same]
          | false => simp [congruent stored same, keep, ih]
      | false =>
          cases keep : kept stored <;> simp [keep, same, ih]

@[simp] theorem contains_difference [EquivBEq α] (left right : OrderedSet α) (item : α) :
    (left \ right).contains item = (left.contains item && !right.contains item) :=
  any_filter_contains left.toList (fun stored => !right.contains stored) item
    fun _ same => congrArg (!·) (right.contains_congr same)

@[simp] theorem contains_intersection [EquivBEq α] (left right : OrderedSet α) (item : α) :
    (left ∩ right).contains item = (left.contains item && right.contains item) :=
  any_filter_contains left.toList right.contains item fun _ same => right.contains_congr same

/-- The inclusion test decides inclusion. -/
theorem isSubsetOf_iff [EquivBEq α] {left right : OrderedSet α} :
    left.isSubsetOf right = true ↔ ∀ item, left.contains item → right.contains item := by
  unfold isSubsetOf
  rw [List.all_eq_true]
  constructor
  · intro h item member
    obtain ⟨stored, mem, same⟩ := List.any_eq_true.1 member
    rw [← right.contains_congr same]
    exact h stored mem
  · intro h stored mem
    exact h stored (List.any_eq_true.2 ⟨stored, mem, BEq.rfl⟩)

/-- The test for shared elements finds one exactly if there is one. -/
theorem isDisjoint_iff [EquivBEq α] {left right : OrderedSet α} :
    left.isDisjoint right = true ↔ ∀ item, left.contains item → right.contains item = false := by
  unfold isDisjoint
  rw [Bool.not_eq_true', List.any_eq_false]
  constructor
  · intro h item member
    obtain ⟨stored, mem, same⟩ := List.any_eq_true.1 member
    rw [← right.contains_congr same, ← Bool.not_eq_true]
    exact h stored mem
  · intro h stored mem
    rw [Bool.not_eq_true]
    exact h stored (List.any_eq_true.2 ⟨stored, mem, BEq.rfl⟩)

/-- A set is empty if it holds nothing. -/
theorem isEmpty_iff [EquivBEq α] {set : OrderedSet α} :
    set.isEmpty = true ↔ ∀ item, set.contains item = false := by
  obtain ⟨items⟩ := set
  cases items with
  | nil => simp [isEmpty, contains]
  | cons first items =>
      constructor
      · intro h
        cases h
      · intro h
        have held : (⟨first :: items⟩ : OrderedSet α).contains first = true := by simp [contains]
        rw [h first] at held
        cases held

/-- Nothing is left of a set if the other one includes it. -/
theorem isEmpty_difference_iff [EquivBEq α] {left right : OrderedSet α} :
    (left \ right).isEmpty = true ↔ ∀ item, left.contains item → right.contains item := by
  rw [isEmpty_iff]
  refine forall_congr' fun item => ?_
  rw [contains_difference, Bool.and_eq_false_iff, Bool.not_eq_false']
  cases left.contains item <;> simp

end Laws

end OrderedSet

/-- A set of table names or of names of common table expressions. -/
abbrev NameSet := OrderedSet String

/-- Whether some element of the list equals a later one. -/
def hasDuplicates {α : Type} [BEq α] : List α → Bool
  | [] => false
  | item :: items => items.any (· == item) || hasDuplicates items

/-- The elements that equal one of `earlier` or one before them in the list. -/
def repeatsAfter {α : Type} [BEq α] (earlier : List α) : List α → List α
  | [] => []
  | item :: items =>
      if earlier.any (· == item) then item :: repeatsAfter (earlier ++ [item]) items
      else repeatsAfter (earlier ++ [item]) items

/-- The elements that occur more than once, each listed once. -/
def duplicates {α : Type} [BEq α] (items : List α) : OrderedSet α :=
  OrderedSet.ofList (repeatsAfter [] items)

/-- The test for duplicates compares each element with the later ones. -/
theorem hasDuplicates_eq_false_iff_pairwise {α : Type} [BEq α] {items : List α} :
    hasDuplicates items = false
      ↔ items.Pairwise fun earlier later => (later == earlier) = false := by
  induction items with
  | nil => simp [hasDuplicates]
  | cons item items ih =>
      rw [hasDuplicates, Bool.or_eq_false_iff, List.any_eq_false, ih, List.pairwise_cons]
      simp

section Repeats

variable {α : Type} [BEq α] [LawfulBEq α]

/-- Nothing repeats if the elements differ from each other and from the earlier ones. -/
theorem repeatsAfter_eq_nil_iff {earlier items : List α} :
    repeatsAfter earlier items = [] ↔ items.Nodup ∧ ∀ item ∈ items, item ∉ earlier := by
  induction items generalizing earlier with
  | nil => simp [repeatsAfter]
  | cons item items ih =>
      have repeats : earlier.any (· == item) = true ↔ item ∈ earlier := by simp
      simp only [repeatsAfter, List.nodup_cons, List.forall_mem_cons]
      split
      · next isRepeat => simp [repeats.1 isRepeat]
      · next isNew =>
          rw [repeats] at isNew
          simp only [ih, List.mem_append, List.mem_singleton, not_or]
          constructor
          · rintro ⟨distinct, differ⟩
            exact ⟨⟨fun mem => (differ item mem).2 rfl, distinct⟩, isNew,
              fun other mem => (differ other mem).1⟩
          · rintro ⟨⟨notLater, distinct⟩, -, differ⟩
            refine ⟨distinct, fun other mem => ⟨differ other mem, ?_⟩⟩
            rintro rfl
            exact notLater mem

/-- There are no duplicates exactly if the elements are pairwise different. -/
theorem isEmpty_duplicates_iff {items : List α} :
    (duplicates items).isEmpty = true ↔ items.Nodup := by
  have isEmpty : (duplicates items).isEmpty = true ↔ repeatsAfter [] items = [] := by
    simp [duplicates, OrderedSet.isEmpty_iff, List.eq_nil_iff_forall_not_mem]
  rw [isEmpty, repeatsAfter_eq_nil_iff]
  exact and_iff_left fun item _ => List.not_mem_nil

/-- The test for duplicates finds none exactly if the elements are pairwise different. -/
theorem hasDuplicates_eq_false_iff {items : List α} :
    hasDuplicates items = false ↔ items.Nodup := by
  rw [hasDuplicates_eq_false_iff_pairwise, List.nodup_iff_pairwise_ne]
  refine List.Pairwise.iff fun earlier later => ?_
  rw [beq_eq_false_iff_ne, ne_comm]

end Repeats

example : (duplicates ["a", "b", "a", "a"]).toList = ["a"] := by decide

example : ((OrderedSet.ofList ["x", "y"]) ∪ (OrderedSet.ofList ["y", "z"])).toList
    = ["x", "y", "z"] := by decide

end CheckedSql
