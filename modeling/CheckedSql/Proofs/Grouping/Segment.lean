import CheckedSql.Proofs.Writing.Balanced

/-!
# Segments

A reader of a union or of a join looks for the words that hold it together, and takes
what stands between them.  `segments stops` cuts lexemes in front of the words `stops`
that stand outside of parentheses, so every segment but the first starts with one.

Balanced lexemes without these words are never cut (`segments_self`).  Where both
parts of a list are balanced, and the second one starts with such a word, the list has
the segments of the two, one after the other (`segments_append`).
-/

namespace CheckedSql

/-- How many parentheses are open behind a lexeme. -/
def Lexeme.depthBehind (depth : Nat) : Lexeme → Nat
  | symbol c => if c = '(' then depth + 1 else if c = ')' then depth - 1 else depth
  | _ => depth

/-- What stands in front of the first of some words, and the segments that start with them. -/
@[ext]
structure Segments where
  front : List Lexeme
  rest : List (List Lexeme)
  deriving DecidableEq, Repr

namespace Segments

/-- More lexemes in front. -/
def behind (found : List Lexeme) (segments : Segments) : Segments :=
  { segments with front := found ++ segments.front }

theorem behind_behind (first second : List Lexeme) (segments : Segments) :
    (segments.behind second).behind first = segments.behind (first ++ second) := by
  simp [behind]

end Segments

/-- Cuts lexemes in front of the words `stops`, with `depth` parentheses open. -/
def segments (stops : List String) : Nat → List Lexeme → Segments
  | _, [] => ⟨[], []⟩
  | depth, lexeme :: others =>
      let found := segments stops (lexeme.depthBehind depth) others
      if depth = 0 ∧ lexeme.isOneOf stops = true then
        ⟨[], (lexeme :: found.front) :: found.rest⟩
      else found.behind [lexeme]

section Segments

variable {stops words : List String} {lexeme : Lexeme} {found inner others : List Lexeme}

theorem Lexeme.depthBehind_of_not_parenthesis (notParenthesis : lexeme.isParenthesis = false)
    (depth : Nat) : lexeme.depthBehind depth = depth := by
  cases lexeme with
  | symbol c =>
      rw [isParenthesis, Bool.or_eq_false_iff, beq_eq_false_iff_ne, beq_eq_false_iff_ne]
        at notParenthesis
      simp [depthBehind, notParenthesis]
  | word | quoted | placeholder => rfl

/-- A word to look for starts a segment. -/
theorem segments_stop (stop : lexeme.isOneOf stops = true) (others : List Lexeme) :
    segments stops 0 (lexeme :: others)
      = ⟨[], (lexeme :: (segments stops 0 others).front) :: (segments stops 0 others).rest⟩ := by
  cases lexeme with
  | word text => simp [segments, stop, Lexeme.depthBehind]
  | quoted | placeholder | symbol => cases stop

/-- Inside of parentheses, nothing is cut. -/
theorem segments_inside (balanced : Balanced words found) (depth : Nat) (others : List Lexeme) :
    segments stops (depth + 1) (found ++ others)
      = (segments stops (depth + 1) others).behind found := by
  induction balanced generalizing depth others with
  | nil => rfl
  | @cons words lexeme rest flat _ ih =>
      rw [Lexeme.isFlat, Bool.and_eq_true, Bool.not_eq_true'] at flat
      rw [List.cons_append, segments, Lexeme.depthBehind_of_not_parenthesis flat.1,
        if_neg (by simp), ih, Segments.behind_behind]
      rfl
  | @group words inner rest _ _ innerIh ih =>
      have opened : segments stops (depth + 1)
            (.symbol '(' :: (inner ++ .symbol ')' :: rest) ++ others)
          = (segments stops (depth + 2) (inner ++ .symbol ')' :: (rest ++ others))).behind
            [.symbol '('] := by
        simp [segments, Lexeme.depthBehind]
      have closed : segments stops (depth + 2) (.symbol ')' :: (rest ++ others))
          = (segments stops (depth + 1) (rest ++ others)).behind [.symbol ')'] := by
        simp [segments, Lexeme.depthBehind]
      rw [opened, innerIh, closed, ih]
      simp [Segments.behind]

/-- What stands in a pair of parentheses is not cut. -/
theorem segments_group (balanced : Balanced words inner) (others : List Lexeme) :
    segments stops 0 (.symbol '(' :: (inner ++ .symbol ')' :: others))
      = (segments stops 0 others).behind (.symbol '(' :: (inner ++ [.symbol ')'])) := by
  have opened : segments stops 0 (.symbol '(' :: (inner ++ .symbol ')' :: others))
      = (segments stops 1 (inner ++ .symbol ')' :: others)).behind [.symbol '('] := by
    simp [segments, Lexeme.depthBehind, Lexeme.isOneOf]
  have closed : segments stops 1 (.symbol ')' :: others)
      = (segments stops 0 others).behind [.symbol ')'] := by
    simp [segments, Lexeme.depthBehind]
  rw [opened, segments_inside balanced, closed]
  simp [Segments.behind]

/-- Balanced lexemes without the words are not cut. -/
theorem segments_of_balanced (balanced : Balanced stops found) (others : List Lexeme) :
    segments stops 0 (found ++ others) = (segments stops 0 others).behind found := by
  induction balanced with
  | nil => rfl
  | @cons stops lexeme rest flat _ ih =>
      rw [Lexeme.isFlat, Bool.and_eq_true, Bool.not_eq_true', Bool.not_eq_true'] at flat
      rw [List.cons_append, segments, Lexeme.depthBehind_of_not_parenthesis flat.1,
        if_neg (by simp [flat.2]), ih, Segments.behind_behind]
      rfl
  | @group stops inner rest balancedInner _ _ ih =>
      rw [List.cons_append, List.append_assoc, List.cons_append, segments_group balancedInner, ih,
        Segments.behind_behind]
      simp

theorem segments_self (balanced : Balanced stops found) : segments stops 0 found = ⟨found, []⟩ := by
  have cut := segments_of_balanced balanced []
  rwa [List.append_nil, segments, Segments.behind, List.append_nil] at cut

/-- The segments of two lists, where the second one starts with one of the words. -/
theorem segments_append (balanced : Balanced words found)
    (starts : (segments stops 0 others).front = []) :
    segments stops 0 (found ++ others)
      = ⟨(segments stops 0 found).front,
        (segments stops 0 found).rest ++ (segments stops 0 others).rest⟩ := by
  induction balanced with
  | nil => exact Segments.ext starts rfl
  | @cons words lexeme rest flat _ ih =>
      rw [Lexeme.isFlat, Bool.and_eq_true, Bool.not_eq_true'] at flat
      rw [List.cons_append, segments, segments, Lexeme.depthBehind_of_not_parenthesis flat.1, ih]
      split <;> rfl
  | @group words inner rest balancedInner _ _ ih =>
      rw [List.cons_append, List.append_assoc, List.cons_append, segments_group balancedInner,
        segments_group balancedInner, ih]
      rfl

end Segments

end CheckedSql
