import CheckedSql.Proofs.Grouping.Segment
import CheckedSql.Proofs.Scoping.JoinCondition
import CheckedSql.Proofs.Writing.PartPhrase

/-!
# Trees of joins

Both sides of a join may be joins themselves, and `TableRef.joinTree` is the tree of the
joins that are active.  It is written without parentheses.  A reader takes a table behind
the keyword of a join, and the join is complete with its condition.  Until then, more
joins may stand in between, and those are complete first.  A cross join has no condition,
so it is complete with its table.

So `JoinTree.read?` finds a condition in every join but a cross join, and never a join
behind the keyword of a cross join (`JoinTree.isReadable_read?`).  These are the trees of
the table references whose joins show where they end (`TableRef.isReadable_joinTree`).
-/

namespace CheckedSql

/-- Tables that are joined. -/
inductive JoinTree where
  | table (found : List Lexeme)
  | join (left : JoinTree) (kind : JoinKind) (right : JoinTree) (condition? : Option (List Lexeme))
  deriving DecidableEq, Repr

/-! ## What is built -/

/-- The tree of the active joins of a table reference. -/
def TableRef.joinTree (dialect : Dialect) : TableRef → JoinTree
  | .join left kind ⟨presence, right⟩ condition? =>
      if presence.isActive then
        .join (left.joinTree dialect) kind (right.joinTree dialect)
          (condition?.map fun condition => dialect.lexemesOf (condition.tokens dialect))
      else left.joinTree dialect
  | reference => .table (dialect.lexemesOf (reference.tokens dialect))

/-- The active joins show where they end: a cross join stands in front of a single table, and all
others have conditions. -/
def TableRef.JoinsShowEnds (table : TableRef) : Prop :=
  ∀ left kind right condition?, table.Writes (.join left kind right condition?) →
    right.isActive = true →
    if kind = .cross then condition? = none ∧ ∀ inner kind next condition?,
        right.value.Writes (.join inner kind next condition?) → next.isActive = false
    else condition?.isSome = true

/-! ## What is read -/

/-- The words of a join. -/
def JoinKind.words : JoinKind → List String
  | inner => ["INNER", "JOIN"]
  | leftOuter => ["LEFT", "OUTER", "JOIN"]
  | rightOuter => ["RIGHT", "OUTER", "JOIN"]
  | fullOuter => ["FULL", "OUTER", "JOIN"]
  | cross => ["CROSS", "JOIN"]

/-- The lexemes behind some words. -/
def behindWords? : List String → List Lexeme → Option (List Lexeme)
  | [], found => some found
  | word :: words, lexeme :: found =>
      if lexeme.isOneOf [word] then behindWords? words found else none
  | _ :: _, [] => none

/-- The join that a segment starts with, and the table that is joined. -/
def joinOf? (segment : List Lexeme) : Option (JoinKind × List Lexeme) :=
  [JoinKind.inner, .leftOuter, .rightOuter, .fullOuter, .cross].findSome? fun kind =>
    (behindWords? kind.words segment).map (kind, ·)

/-- What a reader has found: a tree, and the joins in front of it that wait for their conditions,
from the innermost one out. -/
structure Joining where
  tree : JoinTree
  waiting : List (JoinTree × JoinKind)
  deriving DecidableEq, Repr

/-- One more segment.  A condition completes the innermost join. -/
def Joining.next? (state : Joining) : List Lexeme → Option Joining
  | [] => none
  | keyword :: found =>
      if keyword.isOneOf ["ON"] then
        match state.waiting with
        | [] => none
        | (left, kind) :: others => some ⟨.join left kind state.tree (some found), others⟩
      else
        match joinOf? (keyword :: found) with
        | none => none
        | some (kind, table) =>
            if kind = .cross then some ⟨.join state.tree kind (.table table) none, state.waiting⟩
            else some ⟨.table table, (state.tree, kind) :: state.waiting⟩

/-- The tree that a reader finds, if all joins are complete. -/
def JoinTree.read? (found : List Lexeme) : Option JoinTree :=
  let cut := segments joinWords 0 found
  (cut.rest.foldlM Joining.next? ⟨.table cut.front, []⟩).bind fun state =>
    if state.waiting.isEmpty then some state.tree else none

/-- The tree that a reader finds in a text. -/
def readJoins (sql : String) : Option JoinTree := (lexemes sql.toList).bind JoinTree.read?

/-! ## Readable trees -/

namespace JoinTree

/-- Whether the tree is a single table. -/
def isTable : JoinTree → Bool
  | table _ => true
  | join _ _ _ _ => false

/-- Whether a reader may find the tree. -/
def isReadable : JoinTree → Bool
  | table _ => true
  | join left kind right condition? =>
      left.isReadable && right.isReadable
        && if kind = .cross then right.isTable && condition?.isNone else condition?.isSome

end JoinTree

namespace Joining

variable {state next : Joining}

/-- All that a reader has found is readable, and only joins with conditions wait. -/
structure IsReadable (state : Joining) : Prop where
  tree : state.tree.isReadable = true
  waiting : ∀ pair ∈ state.waiting, pair.1.isReadable = true ∧ pair.2 ≠ .cross

theorem IsReadable.next? {segment : List Lexeme} (readable : state.IsReadable)
    (read : state.next? segment = some next) : next.IsReadable := by
  cases segment with
  | nil => cases read
  | cons keyword found =>
      rw [Joining.next?] at read
      split at read
      · split at read
        · cases read
        · next left kind others waiting =>
            cases read
            obtain ⟨⟨leftReadable, notCross⟩, rest⟩ :=
              List.forall_mem_cons.1 (waiting ▸ readable.waiting)
            exact ⟨by simp [JoinTree.isReadable, leftReadable, readable.tree, notCross], rest⟩
      · split at read
        · cases read
        · split at read
          · next isCross =>
              cases read
              refine ⟨?_, readable.waiting⟩
              simp [JoinTree.isReadable, readable.tree, JoinTree.isTable, isCross]
          · next notCross =>
              cases read
              exact ⟨rfl, List.forall_mem_cons.2 ⟨⟨readable.tree, notCross⟩, readable.waiting⟩⟩

theorem IsReadable.foldlM {segments : List (List Lexeme)} (readable : state.IsReadable)
    (read : segments.foldlM Joining.next? state = some next) : next.IsReadable := by
  induction segments generalizing state with
  | nil =>
      cases read
      exact readable
  | cons segment segments ih =>
      obtain ⟨middle, found, rest⟩ := Option.bind_eq_some_iff.1 read
      exact ih (readable.next? found) rest

end Joining

/-- A reader finds readable trees only. -/
theorem JoinTree.isReadable_read? {given : List Lexeme} {tree : JoinTree}
    (read : read? given = some tree) : tree.isReadable = true := by
  obtain ⟨state, found, rest⟩ := Option.bind_eq_some_iff.1 read
  split at rest
  · cases rest
    have start : Joining.IsReadable ⟨.table (segments joinWords 0 given).front, []⟩ := ⟨rfl, nofun⟩
    exact (start.foldlM found).tree
  · cases rest

namespace TableRef

variable {dialect : Dialect} {table left : TableRef} {kind : JoinKind} {right : Entry TableRef}
  {condition? : Option Expr}

theorem joinTree_join :
    (join left kind right condition?).joinTree dialect
      = if right.isActive then
          .join (left.joinTree dialect) kind (right.value.joinTree dialect)
            (condition?.map fun condition => dialect.lexemesOf (condition.tokens dialect))
        else left.joinTree dialect := by
  cases right
  rw [joinTree]
  rfl

theorem joinTree_of_not_join
    (notJoin : ∀ left kind right condition?, table ≠ .join left kind right condition?) :
    table.joinTree dialect = .table (dialect.lexemesOf (table.tokens dialect)) := by
  rw [joinTree]
  exact fun left kind presence right => notJoin left kind ⟨presence, right⟩

/-- An active join is followed into both sides, an inactive one into the left side only. -/
theorem active_induction {motive : TableRef → Prop}
    (active : ∀ left kind right condition?, right.isActive = true → motive left →
      motive right.value → motive (.join left kind right condition?))
    (inactive : ∀ left kind right condition?, right.isActive = false → motive left →
      motive (.join left kind right condition?))
    (single : ∀ table, (∀ left kind right condition?, table ≠ .join left kind right condition?) →
      motive table) (table : TableRef) : motive table := by
  induction table using joinTree.induct with
  | case1 left kind presence right condition? isActive leftIh rightIh =>
      exact active left kind ⟨presence, right⟩ condition? isActive leftIh rightIh
  | case2 left kind presence right condition? isInactive leftIh =>
      exact inactive left kind ⟨presence, right⟩ condition? (Bool.not_eq_true _ ▸ isInactive) leftIh
  | case3 table notJoin =>
      exact single table fun left kind right => notJoin left kind right.presence right.value

/-- The written joins of a join are itself and those of its written sides. -/
theorem forall_writes_join {P : TableRef → JoinKind → Entry TableRef → Option Expr → Prop} :
    (∀ inner other next next?, (join left kind right condition?).Writes
        (.join inner other next next?) → P inner other next next?)
      ↔ P left kind right condition?
        ∧ (∀ inner other next next?, left.Writes (.join inner other next next?) →
          P inner other next next?)
        ∧ (right.isActive = true → ∀ inner other next next?,
          right.value.Writes (.join inner other next next?) → P inner other next next?) := by
  constructor
  · intro all
    exact ⟨all _ _ _ _ (.refl _), fun inner other next next? writes => all _ _ _ _ (.left writes),
      fun active inner other next next? writes => all _ _ _ _ (.right active writes)⟩
  · rintro ⟨here, inLeft, inRight⟩ inner other next next? writes
    cases writes with
    | refl => exact here
    | left writes => exact inLeft _ _ _ _ writes
    | right active writes => exact inRight active _ _ _ _ writes

theorem not_writes_join {inner : TableRef} {other : JoinKind} {next : Entry TableRef}
    {next? : Option Expr}
    (notJoin : ∀ left kind right condition?, table ≠ .join left kind right condition?) :
    ¬ table.Writes (.join inner other next next?) := by
  intro writes
  cases writes with
  | refl | left | right => exact notJoin _ _ _ _ rfl

variable (dialect) in
/-- The tree is a single table exactly if no join is active. -/
theorem isTable_joinTree : (table.joinTree dialect).isTable = true
    ↔ ∀ left kind right condition?, table.Writes (.join left kind right condition?) →
      right.isActive = false := by
  induction table using active_induction with
  | active left kind right condition? isActive leftIh rightIh =>
      rw [joinTree_join, forall_writes_join, if_pos isActive, isActive]
      exact ⟨nofun, nofun⟩
  | inactive left kind right condition? isInactive leftIh =>
      rw [joinTree_join, forall_writes_join, isInactive, if_neg Bool.false_ne_true, leftIh]
      exact ⟨fun none => ⟨rfl, none, nofun⟩, fun none => none.2.1⟩
  | single table notJoin =>
      rw [joinTree_of_not_join notJoin]
      exact ⟨fun _ _ _ _ _ writes => absurd writes (not_writes_join notJoin), fun _ => rfl⟩

/-- A reader may find the tree exactly if the active joins show where they end. -/
theorem isReadable_joinTree :
    (table.joinTree dialect).isReadable = true ↔ table.JoinsShowEnds := by
  induction table using active_induction with
  | active left kind right condition? isActive leftIh rightIh =>
      rw [joinTree_join, JoinsShowEnds, forall_writes_join, if_pos isActive, JoinTree.isReadable,
        Bool.and_eq_true, Bool.and_eq_true, leftIh, rightIh]
      have ends : (if kind = .cross then (right.value.joinTree dialect).isTable
            && (condition?.map fun condition =>
              dialect.lexemesOf (condition.tokens dialect)).isNone
          else (condition?.map fun condition =>
            dialect.lexemesOf (condition.tokens dialect)).isSome) = true
          ↔ if kind = .cross then condition? = none ∧ ∀ inner kind next condition?,
              right.value.Writes (.join inner kind next condition?) → next.isActive = false
            else condition?.isSome = true := by
        split
        · rw [Bool.and_eq_true, isTable_joinTree dialect, Option.isNone_map,
            Option.isNone_iff_eq_none, and_comm]
        · rw [Option.isSome_map]
      rw [ends]
      exact ⟨fun ⟨⟨inLeft, inRight⟩, here⟩ => ⟨fun _ => here, inLeft, fun _ => inRight⟩,
        fun ⟨here, inLeft, inRight⟩ => ⟨⟨inLeft, inRight isActive⟩, here isActive⟩⟩
  | inactive left kind right condition? isInactive leftIh =>
      rw [joinTree_join, JoinsShowEnds, forall_writes_join, isInactive,
        if_neg Bool.false_ne_true, leftIh]
      exact ⟨fun shown => ⟨nofun, shown, nofun⟩, fun shown => shown.2.1⟩
  | single table notJoin =>
      rw [joinTree_of_not_join notJoin]
      exact ⟨fun _ _ _ _ _ writes => absurd writes (not_writes_join notJoin), fun _ => rfl⟩

end TableRef

end CheckedSql
