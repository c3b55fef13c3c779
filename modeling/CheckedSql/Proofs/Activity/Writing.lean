import CheckedSql.Proofs.Activity.Pruned
import CheckedSql.Proofs.Activity.Settled
import CheckedSql.Proofs.Writing.Unwritable

/-!
# Inactive parts are not written

What is inactive shows in the text of a statement by one keyword only.  Two statements
with the same active parts are written with the same tokens up to `RECURSIVE`, so they
have the same parameters, and if one of them cannot be written, the other one fails with
the same error (`Statement.inactive_unwritten`).  The texts are the same if the same
definitions are marked as recursive, and a clause without an active entry may as well
be left out.

The keyword itself depends on inactive parts.  An arm that reads its own definition in
an inactive join is marked, though the reference is not written
(`Statement.hiddenReference_marked`).
-/

namespace CheckedSql

open Token

/-! ## Tokens without the mark -/

@[simp] theorem Token.parameter?_unmarked (marks : Bool) (token : Token) :
    (token.unmarked marks).parameter? = token.parameter? := by
  cases token with
  | text content =>
      rw [unmarked]
      split <;> rfl
  | _ => rfl

/-- The keyword takes no parameter. -/
theorem parametersOf_unmarkedTokens (marks : Bool) (tokens : List Token) :
    parametersOf (unmarkedTokens marks tokens) = parametersOf tokens := by
  rw [parametersOf, unmarkedTokens, List.filterMap_map, parametersOf]
  congr 1
  funext token
  exact token.parameter?_unmarked marks

/-- A token fails with an error if it does so without its mark. -/
theorem Dialect.writeToken_unmarked_eq_error {dialect : Dialect} {marks : Bool} {position : Nat}
    {token : Token} {error : Error} :
    dialect.writeToken position (token.unmarked marks) = .error error
      ↔ dialect.writeToken position token = .error error := by
  cases token with
  | text content =>
      rw [Token.unmarked]
      split <;> simp [writeToken]
  | _ => rfl

/-- A token can be written if it can be so without its mark. -/
theorem Dialect.exists_writeToken_unmarked {dialect : Dialect} {marks : Bool} {position : Nat}
    {token : Token} :
    (∃ text, dialect.writeToken position (token.unmarked marks) = .ok text)
      ↔ ∃ text, dialect.writeToken position token = .ok text := by
  cases token with
  | text content =>
      rw [Token.unmarked]
      split <;> simp [writeToken]
  | _ => rfl

theorem Dialect.writeFrom_unmarkedTokens_eq_error {dialect : Dialect} {error : Error}
    (marks : Bool) (tokens : List Token) (position : Nat) :
    dialect.writeFrom position (unmarkedTokens marks tokens) = .error error
      ↔ dialect.writeFrom position tokens = .error error := by
  induction tokens generalizing position with
  | nil => rfl
  | cons token tokens ih =>
      rw [unmarkedTokens_cons, writeFrom_cons_eq_error, writeFrom_cons_eq_error,
        Token.parameter?_unmarked, ih, writeToken_unmarked_eq_error, exists_writeToken_unmarked]

/-- The keyword is written in every dialect, so an error comes from another token. -/
theorem Dialect.write_unmarkedTokens_eq_error {dialect : Dialect} {error : Error} (marks : Bool)
    (tokens : List Token) :
    dialect.write (unmarkedTokens marks tokens) = .error error
      ↔ dialect.write tokens = .error error :=
  writeFrom_unmarkedTokens_eq_error marks tokens 1

/-! ## Marks -/

/-- Whether the token of a `WITH` has the keyword `RECURSIVE`. -/
def Token.mark? : Token → Option Bool
  | text content =>
      if content = "WITH RECURSIVE " then some true
      else if content = "WITH " then some false
      else none
  | _ => none

/-- Which of the written `WITH` clauses have the keyword `RECURSIVE`. -/
def marksOf (tokens : List Token) : List Bool := tokens.filterMap Token.mark?

/-- Without their marks, the marked tokens are those of a plain `WITH`. -/
theorem Token.isSome_mark?_iff {token : Token} :
    token.mark?.isSome = true ↔ token.unmarked false = text "WITH " := by
  cases token with
  | text content =>
      by_cases recursive : content = "WITH RECURSIVE "
      · subst recursive
        decide
      · by_cases plain : content = "WITH " <;> simp [mark?, unmarked, recursive, plain]
  | _ => simp [mark?]

/-- The mark of a token is all that it loses. -/
theorem Token.eq_of_mark? (token : Token) :
    token = if token.mark? = some true then text "WITH RECURSIVE " else token.unmarked false := by
  cases token with
  | text content =>
      by_cases recursive : content = "WITH RECURSIVE "
      · subst recursive
        decide
      · by_cases plain : content = "WITH " <;> simp [mark?, unmarked, recursive, plain]
  | _ => rfl

/-- Tokens are the same if they are so without their marks and have the same marks. -/
theorem tokens_eq_iff {first second : List Token} :
    first = second
      ↔ unmarkedTokens false first = unmarkedTokens false second
        ∧ marksOf first = marksOf second := by
  refine ⟨by rintro rfl; exact ⟨rfl, rfl⟩, ?_⟩
  rintro ⟨same, marks⟩
  induction first generalizing second with
  | nil =>
      cases second with
      | nil => rfl
      | cons => cases same
  | cons token tokens ih =>
      cases second with
      | nil => cases same
      | cons other others =>
          obtain ⟨sameToken, sameRest⟩ := List.cons.inj same
          obtain ⟨sameMark, sameMarks⟩ :
              token.mark? = other.mark? ∧ marksOf tokens = marksOf others := by
            have bothMarked : token.mark?.isSome = other.mark?.isSome := by
              rw [Bool.eq_iff_iff, Token.isSome_mark?_iff, Token.isSome_mark?_iff, sameToken]
            simp only [marksOf, List.filterMap_cons] at marks ⊢
            cases first : token.mark? <;> cases second : other.mark? <;>
              simp_all
          rw [token.eq_of_mark?, other.eq_of_mark?, sameMark, sameToken,
            ih sameRest sameMarks]

/-! ## Clauses without active entries -/

/-- A clause that may be left out when none of its entries is active. -/
def Clause.IsInactive : Clause → Prop
  | .with ctes => ∀ cte ∈ ctes, cte.isActive = false
  | .where condition? => ∀ condition ∈ condition?, condition.isActive = false
  | .groupBy entries => ∀ entry ∈ entries, entry.isActive = false
  | .having condition => condition.isActive = false
  | .union _ arm => arm.isActive = false
  | .orderBy orders => ∀ order ∈ orders, order.isActive = false
  | _ => False

theorem Expr.entriesPruned_of_inactive {marks : Bool} {entries : List (Entry Expr)}
    (inactive : ∀ entry ∈ entries, entry.isActive = false) :
    Expr.entriesPruned marks entries = [] := by
  induction entries with
  | nil => rfl
  | cons entry entries ih =>
      obtain ⟨presence, expr⟩ := entry
      obtain ⟨first, rest⟩ := List.forall_mem_cons.1 inactive
      rw [Entry.isActive] at first
      simp [Expr.entriesPruned, first, ih rest]

theorem SortOrder.entriesPruned_of_inactive {marks : Bool} {orders : List (Entry SortOrder)}
    (inactive : ∀ order ∈ orders, order.isActive = false) :
    SortOrder.entriesPruned marks orders = [] := by
  induction orders with
  | nil => rfl
  | cons order orders ih =>
      obtain ⟨presence, expr, direction, nulls?⟩ := order
      obtain ⟨first, rest⟩ := List.forall_mem_cons.1 inactive
      rw [Entry.isActive] at first
      simp [SortOrder.entriesPruned, first, ih rest]

theorem Cte.entriesPruned_of_inactive {marks : Bool} {ctes : List (Entry Cte)}
    (inactive : ∀ cte ∈ ctes, cte.isActive = false) : Cte.entriesPruned marks ctes = [] := by
  induction ctes with
  | nil => rfl
  | cons cte ctes ih =>
      obtain ⟨presence, cte⟩ := cte
      obtain ⟨first, rest⟩ := List.forall_mem_cons.1 inactive
      rw [Entry.isActive] at first
      simp [Cte.entriesPruned, first, ih rest]

/-- Nothing is left of such a clause. -/
theorem Clause.pruned_of_isInactive {marks : Bool} {clause : Clause}
    (inactive : clause.IsInactive) : clause.pruned marks = [] := by
  cases clause with
  | «with» ctes => rw [pruned, Cte.entriesPruned_of_inactive inactive, ofEntries]
  | «where» condition? =>
      cases condition? with
      | none => rfl
      | some condition =>
          obtain ⟨presence, expr⟩ := condition
          have isInactive : presence.isActive = false := inactive _ rfl
          simp [pruned, Expr.optionEntryPruned?, Expr.entryPruned?, isInactive]
  | groupBy entries => rw [pruned, Expr.entriesPruned_of_inactive inactive, ofEntries]
  | having condition =>
      obtain ⟨presence, expr⟩ := condition
      have isInactive : presence.isActive = false := inactive
      simp [pruned, Expr.entryPruned?, isInactive]
  | union distinct arm =>
      obtain ⟨presence, select⟩ := arm
      have isInactive : presence.isActive = false := inactive
      simp [pruned, isInactive]
  | orderBy orders => rw [pruned, SortOrder.entriesPruned_of_inactive inactive, ofEntries]
  | _ => cases inactive

/-- A clause without an active entry is not written. -/
theorem Clause.tokens_of_isInactive {clause : Clause} (dialect : Dialect)
    (inactive : clause.IsInactive) : clause.tokens dialect = [] := by
  have written := Clause.tokens_pruned dialect true clause
  rw [pruned_of_isInactive inactive, unmarkedTokens_true] at written
  exact written.symm

namespace Statement

variable {first second : Statement}

/-- Two statements with the same active parts are written with the same tokens up to the keyword
`RECURSIVE`, with the same parameters and the same errors.  They have the same tokens exactly if
the same of their definitions are marked, for example if their arms have the same marks.  A clause
without an active entry is written as if it were not there. -/
theorem inactive_unwritten (same : first.pruned false = second.pruned false)
    (dialect : Dialect) :
    unmarkedTokens false (first.tokens dialect) = unmarkedTokens false (second.tokens dialect)
      ∧ parametersOf (first.tokens dialect) = parametersOf (second.tokens dialect)
      ∧ (∀ error, dialect.write (first.tokens dialect) = .error error
          ↔ dialect.write (second.tokens dialect) = .error error)
      ∧ (first.tokens dialect = second.tokens dialect
          ↔ marksOf (first.tokens dialect) = marksOf (second.tokens dialect))
      ∧ (first.pruned true = second.pruned true →
          dialect.write (first.tokens dialect) = dialect.write (second.tokens dialect))
      ∧ ∀ before clause after, first.clauses = before ++ clause :: after → clause.IsInactive →
          first.tokens dialect = Clause.listTokens dialect (before ++ after) := by
  have alike :
      unmarkedTokens false (first.tokens dialect) = unmarkedTokens false (second.tokens dialect) := by
    rw [← tokens_pruned, ← tokens_pruned, same]
  refine ⟨alike, ?_, fun error => ?_, ?_, fun sameMarks => ?_, ?_⟩
  · rw [← parametersOf_unmarkedTokens false, alike, parametersOf_unmarkedTokens]
  · rw [← Dialect.write_unmarkedTokens_eq_error false, alike,
      Dialect.write_unmarkedTokens_eq_error]
  · rw [tokens_eq_iff]
    exact and_iff_right alike
  · rw [← unmarkedTokens_true (first.tokens dialect), ← tokens_pruned, sameMarks, tokens_pruned,
      unmarkedTokens_true]
  · intro before clause after clauses inactive
    rw [tokens, clauses, Clause.listTokens_append, Clause.listTokens,
      Clause.tokens_of_isInactive dialect inactive, List.nil_append, Clause.listTokens_append]

/-! ### A hidden reference -/

/-- The numbers of `foo`, next to a table that is not active. -/
def numbersNextTo (hidden : TableRef) : Select where
  clauses := (Select.ofColumn "foo").clauses
    ++ [.source .from (.join (.table (.ofId "foo")) .cross (.dynamic false hidden) none)]

/-- The definition of `numbers`, united with such an arm. -/
def unitedNumbers (hidden : TableRef) : Cte where
  name := "c"
  base := .ofId "foo" "foo"
  arms := [⟨false, .static (numbersNextTo hidden),
    (numbersNextTo hidden).unresolvedCtes.contains "c"⟩]
  fields := (Select.ofId "foo" "foo").fields

/-- The definition of `unitedNumbers` in front of the select of its column. -/
def withUnitedNumbers (hidden : TableRef) : Select where
  clauses :=
    [.with [.static (unitedNumbers hidden)],
      .columns false [.static ⟨.column numbersId, "id", false⟩]]

/-- The numbers of `unitedNumbers`. -/
def readUnitedNumbers (hidden : TableRef) : Select where
  clauses :=
    (withUnitedNumbers hidden).clauses ++ [.source .from (.cte (unitedNumbers hidden).reference)]

theorem readUnitedNumbers_built {hidden : TableRef} (hiddenBuilt : (Part.tableRef hidden).Built)
    (joined : TableRef.mkJoin (.table (.ofId "foo")) .cross (.dynamic false hidden) none
      = .ok (.join (.table (.ofId "foo")) .cross (.dynamic false hidden) none))
    (united : numbers.union false (.static (numbersNextTo hidden)) = .ok (unitedNumbers hidden))
    (defined : With.mkWith [.static (unitedNumbers hidden)]
      = .ok ⟨[.static (unitedNumbers hidden)]⟩) :
    (Part.select (readUnitedNumbers hidden)).Built := by
  have tablesBuilt := TableRef.built_of_mkJoin joined (Table.ofId_built "foo") hiddenBuilt nofun
  have sourced : (Select.ofColumn "foo").from
      (.join (.table (.ofId "foo")) .cross (.dynamic false hidden) none)
        = .ok (numbersNextTo hidden) := rfl
  have armBuilt : (Part.select (numbersNextTo hidden)).Built :=
    .of_pair (.selectFrom sourced) (Select.ofColumn_built "foo") tablesBuilt
  have cteBuilt : (Part.cte (unitedNumbers hidden)).Built :=
    .of_pair (.union united) numbers_built armBuilt
  have areMade : With.AreMade (some ⟨[.static (unitedNumbers hidden)]⟩) := by
    rintro given ⟨⟩
    exact defined
  have named : ∀ column ∈ [Entry.static (SelectColumn.mk (.column numbersId) "id" false)],
      column.value.IsMade := by
    rw [List.forall_mem_singleton]
    exact .inr rfl
  have started : Select.start (some ⟨[.static (unitedNumbers hidden)]⟩)
      [.static ⟨.column numbersId, "id", false⟩] = .ok (withUnitedNumbers hidden) := rfl
  have startBuilt : (Part.select (withUnitedNumbers hidden)).Built := by
    refine .made (.select areMade named started) ?_
    rintro argument (_ | ⟨_, _ | ⟨_, ⟨⟩⟩⟩)
    · exact cteBuilt
    · exact numbersId_built
  have referenceBuilt : (Part.tableRef (.cte (unitedNumbers hidden).reference)).Built := by
    refine .made (.cteReference _) ?_
    rw [List.forall_mem_singleton]
    exact cteBuilt
  have read : (withUnitedNumbers hidden).from (.cte (unitedNumbers hidden).reference)
      = .ok (readUnitedNumbers hidden) := rfl
  exact .of_pair (.selectFrom read) startBuilt referenceBuilt

/-- The numbers united with themselves, next to an inactive reference to them. -/
def hiddenReference : Select := readUnitedNumbers (.cte numbers.reference)

/-- The numbers united with themselves, next to an inactive table. -/
def hiddenBar : Select := readUnitedNumbers (.table (.ofId "bar"))

/-- With another table in the inactive join, the parameters and the tokens up to the keyword are
the same. -/
theorem hiddenReference_alike :
    (select hiddenReference).pruned false = (select hiddenBar).pruned false
      ∧ parametersOf ((select hiddenReference).tokens .generic) = []
      ∧ unmarkedTokens false ((select hiddenReference).tokens .generic)
        = unmarkedTokens false ((select hiddenBar).tokens .generic) := by
  have same : (select hiddenReference).pruned false = (select hiddenBar).pruned false := rfl
  obtain ⟨alike, parameters, -⟩ := inactive_unwritten same .generic
  exact ⟨same, parameters, alike⟩

set_option maxRecDepth 2000 in
/-- Two built and accepted statements with the same active parts, which differ in the table of an
inactive join.  One of them is written with the keyword `RECURSIVE`. -/
theorem hiddenReference_marked :
    (Part.select hiddenReference).Built ∧ (Part.select hiddenBar).Built
      ∧ (select hiddenReference).checkPrepare = .ok () ∧ (select hiddenBar).checkPrepare = .ok ()
      ∧ (select hiddenReference).pruned false = (select hiddenBar).pruned false
      ∧ Dialect.generic.write ((select hiddenReference).tokens .generic)
        = .ok ("WITH RECURSIVE c AS (SELECT foo.id FROM foo UNION ALL SELECT foo.id FROM foo)"
          ++ " SELECT c.id FROM c")
      ∧ Dialect.generic.write ((select hiddenBar).tokens .generic)
        = .ok ("WITH c AS (SELECT foo.id FROM foo UNION ALL SELECT foo.id FROM foo)"
          ++ " SELECT c.id FROM c") :=
  ⟨readUnitedNumbers_built numbersReference_built rfl rfl rfl,
    readUnitedNumbers_built (Table.ofId_built "bar") rfl rfl rfl, by rfl, by rfl, rfl, by rfl,
    by rfl⟩

end Statement

end CheckedSql
