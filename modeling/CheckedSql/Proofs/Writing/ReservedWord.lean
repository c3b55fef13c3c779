import CheckedSql.Dialect.Quoting
import Mathlib.Data.List.Chain

/-!
# Reserved words

A binary search compares the word with the middle one of the words that are left, and
goes on with the words from there on or with those in front of it.  As the words are
sorted, the half that it leaves does not hold the word (`mem_take_iff`), so the search
finds exactly the words of the table (`foundAmong_iff`, `isReservedWord_iff`).
-/

namespace CheckedSql

variable {words : List String} {word middle : String} {behind : List String} {half : Nat}

/-- What stands from a place on is the first word there or greater. -/
theorem le_of_mem_drop (sorted : words.Pairwise (· < ·))
    (atHalf : words.drop half = middle :: behind) {other : String}
    (mem : other ∈ words.drop half) : ¬ other < middle := by
  have sortedBehind : (middle :: behind).Pairwise (· < ·) := atHalf ▸ sorted.drop
  rw [atHalf] at mem
  rcases List.mem_cons.1 mem with rfl | further
  · exact String.lt_irrefl _
  · have greater := List.rel_of_pairwise_cons sortedBehind further
    exact fun less => String.lt_irrefl _ (String.lt_trans greater less)

/-- What stands in front of a place is smaller than the first word there. -/
theorem lt_of_mem_take (sorted : words.Pairwise (· < ·))
    (atHalf : words.drop half = middle :: behind) {other : String}
    (mem : other ∈ words.take half) : other < middle := by
  rw [← List.take_append_drop half words, List.pairwise_append] at sorted
  exact sorted.2.2 other mem middle (by simp [atHalf])

/-- A word is among the first ones when it is among those of the half that its comparison with the
middle word leaves. -/
theorem mem_take_iff (sorted : words.Pairwise (· < ·)) (atHalf : words.drop half = middle :: behind)
    {size : Nat} (fits : half + half ≤ size) :
    word ∈ (if word < middle then words else middle :: behind).take (size - half)
      ↔ word ∈ words.take size := by
  have whole : words.take size = words.take half ++ (words.drop half).take (size - half) := by
    rw [← List.take_add, Nat.add_sub_cancel' (by omega)]
  rw [whole, List.mem_append]
  split
  · next less =>
      have notBehind {count : Nat} : word ∉ (words.drop half).take count := fun mem =>
        le_of_mem_drop sorted atHalf (List.mem_of_mem_take mem) less
      have kept : words.take (size - half)
          = words.take half ++ (words.drop half).take (size - half - half) := by
        rw [← List.take_add, Nat.add_sub_cancel' (by omega)]
      rw [kept, List.mem_append, or_iff_left notBehind, or_iff_left notBehind]
  · next notLess =>
      have notFront : word ∉ words.take half := fun mem =>
        notLess (lt_of_mem_take sorted atHalf mem)
      rw [or_iff_right notFront, atHalf]

theorem head?_beq_iff : (words.head? == some word) = true ↔ word ∈ words.take 1 := by
  cases words with
  | nil => simp
  | cons first rest =>
    rw [List.head?_cons, beq_iff_eq, Option.some.injEq, List.take_succ_cons, List.take_zero,
      List.mem_singleton]
    exact eq_comm

/-- A binary search finds exactly the words among which it searches. -/
theorem foundAmong_iff (sorted : words.Pairwise (· < ·)) {steps size : Nat} (positive : 0 < size)
    (inside : size ≤ words.length) (enough : size ≤ steps + 1) :
    foundAmong word steps size words = true ↔ word ∈ words.take size := by
  induction steps generalizing size words with
  | zero =>
    obtain rfl : size = 1 := by omega
    exact head?_beq_iff
  | succ steps ih =>
    rw [foundAmong]
    split
    · obtain rfl : size = 1 := by omega
      exact head?_beq_iff
    · next many =>
        cases atHalf : words.drop (size / 2) with
        | nil => exact absurd (List.drop_eq_nil_iff.1 atHalf) (by omega)
        | cons middle behind =>
          show foundAmong word steps (size - size / 2)
            (if word < middle then words else middle :: behind) = true ↔ _
          rw [← mem_take_iff sorted atHalf (by omega)]
          have lengthBehind := congrArg List.length atHalf
          rw [List.length_drop] at lengthBehind
          split
          · exact ih sorted (by omega) (by omega) (by omega)
          · exact ih (atHalf ▸ sorted.drop) (by omega) (by omega) (by omega)

/-- The reserved words are listed in ascending order. -/
theorem sorted_reservedWords : reservedWords.toList.Pairwise (· < ·) :=
  List.isChain_iff_pairwise.1 (by decide +kernel)

/-- The reserved words are those of the table, in any case. -/
theorem isReservedWord_iff {identifier : String} :
    isReservedWord identifier = true ↔ asciiUpper identifier ∈ reservedWords.toList := by
  rw [isReservedWord, foundAmong_iff sorted_reservedWords (by decide) (by decide) (by decide)]
  exact Iff.rfl

end CheckedSql
