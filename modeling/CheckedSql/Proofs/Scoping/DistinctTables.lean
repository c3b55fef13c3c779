import CheckedSql.Proofs.Built.Children
import CheckedSql.Proofs.Scoping.Needs
import Mathlib.Data.List.Nodup
import Mathlib.Data.List.Pairwise

/-!
# Tables with one name

Two tables of a statement are told apart by their identities.  A join is the place where
tables come together, and `TableRef.mkJoin` rejects sides that share an identity, so the
tables of a whole tree of joins have different identities
(`TableRef.nodup_identities`).

Clauses come together as well.  In most statements only one of them provides tables.
`DELETE` has two, the target and the tables of `USING`, and nothing compares them, since
the sets of names are united without a look at what is in both.  That is the only way
for two tables to have one identity (`Statement.nodup_identities_iff`).
-/

namespace CheckedSql

/-! ## Joins -/

/-- The tables of a built table reference have different identities. -/
theorem TableRef.nodup_identities {table : TableRef} (built : (Part.tableRef table).Built) :
    table.identities.Nodup := by
  induction table using identities.induct with
  | case1 declared => exact List.nodup_singleton _
  | case2 reference => exact List.nodup_singleton _
  | case3 derived => exact List.nodup_singleton _
  | case4 left kind presence right condition? leftIh rightIh =>
      have leftBuilt : (Part.tableRef left).Built := built.of_mem_children (.head _)
      have rightBuilt : (Part.tableRef right).Built := built.of_mem_children (.tail _ (.head _))
      rw [identities, List.nodup_append']
      refine ⟨leftIh leftBuilt, rightIh rightBuilt, fun identity inLeft inRight => ?_⟩
      refine built.join_disjoint identity ⟨?_, ?_⟩
      · exact left.contains_names_tables.2 inLeft
      · exact right.contains_names_tables.2 inRight

/-- The tables of one clause of a built statement have different identities. -/
theorem Clause.nodup_identities {statement : Statement}
    (built : (Part.statement statement).Built) {clause : Clause}
    (mem : clause ∈ statement.clauses) : clause.identities.Nodup := by
  cases clause with
  | source kind table =>
      have inChildren : Part.tableRef table ∈ (Part.statement statement).children :=
        List.mem_flatMap.2 ⟨_, mem, .head _⟩
      exact TableRef.nodup_identities (built.of_mem_children inChildren)
  | target kind table => exact List.nodup_singleton _
  | _ => exact List.nodup_nil

/-! ## Clauses -/

/-- Of two clauses in the order of SQL that provide tables, the first one is a target and the second
one a source. -/
theorem Clause.target_source_of_rank_lt {earlier later : Clause}
    (below : earlier.rank < later.rank) {identity : String}
    (inEarlier : identity ∈ earlier.identities) (inLater : identity ∈ later.identities) :
    ∃ change target kind table, earlier = .target change target ∧ later = .source kind table := by
  cases earlier with
  | target change target =>
      cases later with
      | source kind table => exact ⟨change, target, kind, table, rfl, rfl⟩
      | target => exact absurd below (Nat.lt_irrefl 1)
      | _ => cases inLater
  | source kind table =>
      cases later with
      | source => exact absurd below (Nat.lt_irrefl 3)
      | target => exact absurd below (Nat.not_lt_of_le (Nat.le_add_left 1 2))
      | _ => cases inLater
  | _ => cases inEarlier

namespace Statement

/-- A statement with a target and a source is a `DELETE` with its `USING`. -/
theorem delete_using_of_allows {statement : Statement} {change : TargetKind} {target : Table}
    {kind : SourceKind} {table : TableRef}
    (targetAllowed : statement.allows (.target change target) = true)
    (sourceAllowed : statement.allows (.source kind table) = true) :
    change = .deleteFrom ∧ kind = .using := by
  cases statement with
  | select => cases change <;> cases targetAllowed
  | insert => cases kind <;> cases sourceAllowed
  | update => cases kind <;> cases sourceAllowed
  | delete =>
      cases change <;> cases targetAllowed
      cases kind <;> cases sourceAllowed
      exact ⟨rfl, rfl⟩

/-- The tables that a built statement provides have different identities exactly if no table in
the `USING` of a `DELETE` has the identity of its target. -/
theorem nodup_identities_iff {statement : Statement} (built : (Part.statement statement).Built) :
    statement.identities.Nodup
      ↔ ∀ target table, .target .deleteFrom target ∈ statement.clauses →
        .source .using table ∈ statement.clauses → target.identity ∉ table.identities := by
  have ordered := ordered_of_built built
  rw [identities, List.nodup_flatMap]
  constructor
  · rintro ⟨-, disjoint⟩ target table targetMem sourceMem inSource
    have symmetric : Std.Symm (Function.onFun List.Disjoint Clause.identities) :=
      ⟨fun _ _ disjoint => List.disjoint_symm disjoint⟩
    have apart := disjoint.forall targetMem sourceMem nofun
    exact apart (List.mem_singleton_self _) inSource
  · intro apart
    refine ⟨fun clause mem => Clause.nodup_identities built mem, ?_⟩
    refine ordered.increasing.imp_of_mem fun {earlier later} earlierMem laterMem below => ?_
    intro identity inEarlier inLater
    -- a shared identity leaves one pair of clauses, and only a `DELETE` has both
    obtain ⟨change, target, kind, table, rfl, rfl⟩ :=
      Clause.target_source_of_rank_lt below inEarlier inLater
    obtain ⟨rfl, rfl⟩ := delete_using_of_allows (ordered.allowed _ earlierMem)
      (ordered.allowed _ laterMem)
    obtain rfl := List.mem_singleton.1 inEarlier
    exact apart target table earlierMem laterMem inLater

/-- The `DELETE` from `foo` of all rows, with `foo` in its `USING`. -/
def deleteUsingItself : Statement :=
  .delete ⟨[.target .deleteFrom (.ofId "foo"), .source .using (.table (.ofId "foo")),
    .where none]⟩

theorem deleteUsingItself_built : (Part.statement deleteUsingItself).Built := by
  let started : Delete := ⟨[.target .deleteFrom (.ofId "foo")]⟩
  let joined : Delete :=
    ⟨[.target .deleteFrom (.ofId "foo"), .source .using (.table (.ofId "foo"))]⟩
  have startedBuilt : (Part.statement (.delete started)).Built := by
    have made : Statement.MadeFrom _ (.delete (Delete.start none (.ofId "foo"))) :=
      .delete (.ofId "foo") With.areMade_none
    refine .made made ?_
    rw [With.parts, With.clauses, List.flatMap_nil, List.forall_mem_singleton]
    exact Table.ofId_built "foo"
  have sourced : started.using (.table (.ofId "foo")) = .ok joined := rfl
  have joinedBuilt : (Part.statement (.delete joined)).Built :=
    .of_pair (.deleteUsing sourced) startedBuilt (Table.ofId_built "foo")
  have whole : joined.unconditionally
      = .ok ⟨joined.clauses ++ [.where none]⟩ := rfl
  refine .made (.deleteUnconditionally whole) ?_
  rw [List.forall_mem_singleton]
  exact joinedBuilt

/-- The target of the `DELETE` keeps its tables from having different identities. -/
theorem deleteUsingItself_not_nodup :
    (Part.statement deleteUsingItself).Built ∧ ¬ deleteUsingItself.identities.Nodup := by
  refine ⟨deleteUsingItself_built, ?_⟩
  rw [nodup_identities_iff deleteUsingItself_built]
  intro apart
  exact apart (.ofId "foo") (.table (.ofId "foo")) (.head _) (.tail _ (.head _)) (.head _)

/-- The `DELETE` is accepted, although it provides `foo` twice. -/
theorem deleteUsingItself_accepted :
    (Part.statement deleteUsingItself).Built ∧ deleteUsingItself.checkPrepare = .ok ()
      ∧ deleteUsingItself.identities = ["foo", "foo"]
      ∧ ¬ deleteUsingItself.identities.Nodup
      ∧ deleteUsingItself.text.toOption = some "DELETE FROM foo USING foo" := by
  have provided : deleteUsingItself.identities = ["foo", "foo"] := rfl
  refine ⟨deleteUsingItself_built, rfl, provided, ?_, ?_⟩
  · rw [provided]
    decide
  · decide

end Statement

end CheckedSql
