import CheckedSql.Proofs.OrderedSet
import Mathlib.Data.List.Induction

/-!
# The order of arrival

A set is often the result of many insertions.  What was inserted, in this order and with all
repetitions, are the *arrivals* of the set.  The set lists what arrived first of each kind,
in the order of these first arrivals, and no other list does so
(`OrderedSet.toList_ofList_eq_iff`).

Arrivals are easier to work with than sets.  Those of a union are the arrivals of the left
set, followed by those of the right one (`OrderedSet.ofList_append`).  A difference or an
intersection keeps some of the arrivals of its left operand (`OrderedSet.ofList_filter`).
-/

namespace CheckedSql

variable {α : Type} [BEq α]

/-- A list of the arrivals that equal no earlier one, in their order. -/
structure FirstArrivals (arrivals listed : List α) : Prop where
  /-- For everything that arrived, something equal is listed. -/
  complete : ∀ item ∈ arrivals, ∃ stored ∈ listed, (stored == item) = true
  /-- What is listed was the first to arrive among what equals it. -/
  first : ∀ stored ∈ listed, arrivals.find? (· == stored) = some stored
  /-- What is listed earlier was met at an earlier place. -/
  ordered : listed.Pairwise fun earlier later =>
    arrivals.findIdx (· == earlier) < arrivals.findIdx (· == later)

namespace FirstArrivals

variable {arrivals listed : List α} {item : α}

theorem mem_arrivals (isFirst : FirstArrivals arrivals listed) (mem : item ∈ listed) :
    item ∈ arrivals :=
  List.mem_of_find?_eq_some (isFirst.first item mem)

/-- What comes in later does not move what arrived before. -/
theorem findIdx_append [ReflBEq α] (isFirst : FirstArrivals arrivals listed)
    (mem : item ∈ listed) (more : List α) :
    (arrivals ++ more).findIdx (· == item) = arrivals.findIdx (· == item)
      ∧ arrivals.findIdx (· == item) < arrivals.length := by
  have found : arrivals.findIdx (· == item) < arrivals.length :=
    List.findIdx_lt_length.2 ⟨item, isFirst.mem_arrivals mem, BEq.rfl⟩
  exact ⟨by rw [List.findIdx_append, if_pos found], found⟩

theorem ordered_append [ReflBEq α] (isFirst : FirstArrivals arrivals listed) (more : List α) :
    listed.Pairwise fun earlier later =>
      (arrivals ++ more).findIdx (· == earlier) < (arrivals ++ more).findIdx (· == later) := by
  refine isFirst.ordered.imp_of_mem fun {earlier later} earlierMem laterMem before => ?_
  rwa [(isFirst.findIdx_append earlierMem more).1, (isFirst.findIdx_append laterMem more).1]

/-- An arrival that equals an earlier one is not listed. -/
theorem append_known [ReflBEq α] (isFirst : FirstArrivals arrivals listed)
    (known : ∃ stored ∈ listed, (stored == item) = true) :
    FirstArrivals (arrivals ++ [item]) listed where
  complete := by
    intro other mem
    rcases List.mem_append.1 mem with old | isItem
    · exact isFirst.complete other old
    · rwa [List.mem_singleton.1 isItem]
  first := by
    intro stored mem
    rw [List.find?_append, isFirst.first stored mem]
    rfl
  ordered := isFirst.ordered_append [item]

/-- An arrival that equals no earlier one is listed last. -/
theorem append_new [EquivBEq α] (isFirst : FirstArrivals arrivals listed)
    (isNew : ∀ stored ∈ listed, (stored == item) = false) :
    FirstArrivals (arrivals ++ [item]) (listed ++ [item]) := by
  -- an earlier arrival that equals the item would have something equal in the list
  have unmet : ∀ other ∈ arrivals, (other == item) = false := by
    intro other mem
    obtain ⟨stored, storedMem, same⟩ := isFirst.complete other mem
    rw [← BEq.congr_left same]
    exact isNew stored storedMem
  have place : (arrivals ++ [item]).findIdx (· == item) = arrivals.length := by
    have absent : arrivals.findIdx (· == item) = arrivals.length := List.findIdx_eq_length.2 unmet
    simp [List.findIdx_append, absent]
  refine ⟨?complete, ?first, ?ordered⟩
  case complete =>
    intro other mem
    rcases List.mem_append.1 mem with old | isItem
    · obtain ⟨stored, storedMem, same⟩ := isFirst.complete other old
      exact ⟨stored, List.mem_append_left _ storedMem, same⟩
    · rw [List.mem_singleton.1 isItem]
      exact ⟨item, List.mem_append_right _ List.mem_cons_self, BEq.rfl⟩
  case first =>
    intro stored mem
    rw [List.find?_append]
    rcases List.mem_append.1 mem with old | isItem
    · rw [isFirst.first stored old]
      rfl
    · have absent : arrivals.find? (· == item) = none := by
        simpa using unmet
      rw [List.mem_singleton.1 isItem, absent]
      simp
  case ordered =>
    refine List.pairwise_append.2 ⟨isFirst.ordered_append [item], List.pairwise_singleton _ _, ?_⟩
    intro stored mem other isItem
    obtain ⟨same, found⟩ := isFirst.findIdx_append mem [item]
    rwa [List.mem_singleton.1 isItem, place, same]

theorem nodup (isFirst : FirstArrivals arrivals listed) : listed.Nodup := by
  refine isFirst.ordered.imp ?_
  rintro earlier _ before rfl
  exact Nat.lt_irrefl _ before

/-- What one list of first arrivals holds is held by all of them. -/
theorem mem_of_mem [EquivBEq α] {other : List α} (isFirst : FirstArrivals arrivals listed)
    (otherFirst : FirstArrivals arrivals other) (mem : item ∈ listed) : item ∈ other := by
  obtain ⟨stored, storedMem, same⟩ := otherFirst.complete item (isFirst.mem_arrivals mem)
  have found : arrivals.find? (· == item) = some stored := by
    rw [← otherFirst.first stored storedMem]
    congr 1
    funext arrival
    exact (BEq.congr_right same).symm
  rw [isFirst.first item mem] at found
  rwa [Option.some.inj found]

/-- No two lists are the first arrivals among the same ones. -/
theorem unique [EquivBEq α] {other : List α} (isFirst : FirstArrivals arrivals listed)
    (otherFirst : FirstArrivals arrivals other) : listed = other := by
  have sameItems : listed.Perm other :=
    (List.perm_ext_iff_of_nodup isFirst.nodup otherFirst.nodup).2 fun _ =>
      ⟨isFirst.mem_of_mem otherFirst, otherFirst.mem_of_mem isFirst⟩
  refine sameItems.eq_of_pairwise (fun earlier later _ _ before after => ?_) isFirst.ordered
    otherFirst.ordered
  exact absurd after (Nat.lt_asymm before)

end FirstArrivals

namespace OrderedSet

variable {set : OrderedSet α}

theorem insertAll_append (set : OrderedSet α) (items more : List α) :
    set.insertAll (items ++ more) = (set.insertAll items).insertAll more :=
  List.foldl_append

theorem ofList_concat (items : List α) (item : α) :
    ofList (items ++ [item]) = (ofList items).insert item :=
  insertAll_append empty items [item]

theorem insert_of_contains {item : α} (present : set.contains item = true) :
    set.insert item = set :=
  if_pos present

variable [EquivBEq α]

theorem firstArrivals_ofList (arrivals : List α) :
    FirstArrivals arrivals (ofList arrivals).toList := by
  -- the last arrival is taken away, since a new element goes to the end of the set
  induction arrivals using List.reverseRecOn with
  | nil => exact ⟨by simp, by simp [ofList, insertAll, empty], List.Pairwise.nil⟩
  | append_singleton arrivals item ih =>
      rw [ofList_concat, toList_insert]
      split
      · next present => exact ih.append_known (List.any_eq_true.1 present)
      · next isNew =>
          rw [Bool.not_eq_true, contains_eq_false_iff] at isNew
          exact ih.append_new isNew

/-- A set that was made by insertions lists the first arrivals. -/
theorem toList_ofList_eq_iff {arrivals listed : List α} :
    (ofList arrivals).toList = listed ↔ FirstArrivals arrivals listed := by
  constructor
  · rintro rfl
    exact firstArrivals_ofList arrivals
  · exact (firstArrivals_ofList arrivals).unique

/-- To insert what a list's set holds is to insert the list. -/
theorem insertAll_ofList (set : OrderedSet α) (items : List α) :
    set.insertAll (ofList items).toList = set.insertAll items := by
  induction items using List.reverseRecOn with
  | nil => rfl
  | append_singleton items item ih =>
      rw [ofList_concat, toList_insert, insertAll_append set items]
      split
      · next present =>
          rw [contains_ofList] at present
          have held : (set.insertAll items).contains item = true := by
            rw [contains_insertAll, present, Bool.or_true]
          exact ih.trans (insert_of_contains held).symm
      · rw [insertAll_append, ih]

/-- The arrivals of a union are those of the left set, and then those of the right one. -/
theorem ofList_append (items more : List α) :
    ofList (items ++ more) = ofList items ∪ ofList more := by
  have union : ofList items ∪ ofList more = (ofList items).insertAll (ofList more).toList := rfl
  rw [union, insertAll_ofList]
  exact insertAll_append empty items more

/-- If equal arrivals are kept or dropped together, then so are the elements of the set. -/
theorem ofList_filter {kept : α → Bool}
    (congruent : ∀ item other, (item == other) = true → kept item = kept other)
    (items : List α) : ofList (items.filter kept) = ⟨(ofList items).toList.filter kept⟩ := by
  induction items using List.reverseRecOn with
  | nil => rfl
  | append_singleton items item ih =>
      have present : (ofList (items.filter kept)).contains item
          = ((ofList items).contains item && kept item) := by
        rw [ih]
        exact any_filter_contains _ kept item fun stored same => congruent stored item same
      refine congrArg OrderedSet.mk (?_ : (ofList _).toList = _)
      rw [List.filter_append, ofList_concat items, toList_insert]
      cases keep : kept item with
      | false =>
          have dropped : [item].filter kept = [] := by simp [keep]
          rw [dropped, List.append_nil, ih]
          split
          · rfl
          · rw [List.filter_append, dropped, List.append_nil]
      | true =>
          have stays : [item].filter kept = [item] := by simp [keep]
          rw [stays, ofList_concat, toList_insert, present, keep, Bool.and_true, ih]
          split
          · rfl
          · rw [List.filter_append, stays]

/-- A difference keeps the arrivals on the left that equal none on the right. -/
theorem ofList_difference (items dropped : List α) :
    ofList (items.filter fun item => !dropped.any (· == item)) = ofList items \ ofList dropped := by
  have difference : ofList items \ ofList dropped
      = ⟨(ofList items).toList.filter fun item => !(ofList dropped).contains item⟩ := rfl
  rw [difference]
  simp only [← contains_ofList dropped]
  exact ofList_filter (fun _ _ same => congrArg (!·) (contains_congr _ same)) items

/-- An intersection keeps the arrivals on the left that equal one on the right. -/
theorem ofList_intersection (items kept : List α) :
    ofList (items.filter fun item => kept.any (· == item)) = ofList items ∩ ofList kept := by
  have intersection : ofList items ∩ ofList kept
      = ⟨(ofList items).toList.filter fun item => (ofList kept).contains item⟩ := rfl
  rw [intersection]
  simp only [← contains_ofList kept]
  exact ofList_filter (fun _ _ same => contains_congr _ same) items

end OrderedSet

end CheckedSql
