import CheckedSql.Proofs.Grouping.JoinTree

/-!
# Reading joins

`TableRef.joinTree_is_read` says when a reader finds the tree that was built: exactly if
all active joins show where they end.  The proof follows the joins.  What a reader makes
of one side does not depend on the joins that wait for their conditions
(`JoinTree.Reads`), so it may be read as the left or the right side of another join.

The tree also tells which tables an outer join may fill with NULL, so text and typing
agree on that (`TableRef.joinTree_eq_of_written`).
-/

namespace CheckedSql

/-! ## Reading what is written -/

namespace JoinTree

variable {dialect : Dialect} {words : List String} {first second found : List Lexeme}
  {left right tree : JoinTree} {kind : JoinKind}

/-- A reader of these lexemes finds the tree, whatever joins wait for their conditions. -/
def Reads (found : List Lexeme) (tree : JoinTree) : Prop :=
  ∀ waiting, (segments joinWords 0 found).rest.foldlM Joining.next?
    ⟨.table (segments joinWords 0 found).front, waiting⟩ = some ⟨tree, waiting⟩

/-- What holds no word of a join is a single table. -/
theorem Reads.table (balanced : Balanced joinWords found) : Reads found (.table found) := by
  intro waiting
  rw [segments_self balanced]
  rfl

theorem Reads.read? (reads : Reads found tree) : read? found = some tree := by
  rw [JoinTree.read?, reads []]
  rfl

/-- The keyword of a join starts a segment that tells the join. -/
theorem lexemes_joinKeyword (dialect : Dialect) (kind : JoinKind) :
    ∃ keyword others, (Token.text (" " ++ kind.keyword ++ " ")).lexemes dialect
        = keyword :: others
      ∧ keyword.isOneOf joinWords = true ∧ keyword.isOneOf ["ON"] = false
      ∧ Balanced joinWords others
      ∧ ∀ table, joinOf? (keyword :: (others ++ table)) = some (kind, table) := by
  cases kind with
  | inner =>
      exact ⟨.word "INNER", [.word "JOIN"], Token.lexemes_text (by decide), by decide, by decide,
        .of_isFlat rfl, fun _ => rfl⟩
  | leftOuter =>
      exact ⟨.word "LEFT", [.word "OUTER", .word "JOIN"], Token.lexemes_text (by decide),
        by decide, by decide, .of_isFlat rfl, fun _ => rfl⟩
  | rightOuter =>
      exact ⟨.word "RIGHT", [.word "OUTER", .word "JOIN"], Token.lexemes_text (by decide),
        by decide, by decide, .of_isFlat rfl, fun _ => rfl⟩
  | fullOuter =>
      exact ⟨.word "FULL", [.word "OUTER", .word "JOIN"], Token.lexemes_text (by decide),
        by decide, by decide, .of_isFlat rfl, fun _ => rfl⟩
  | cross =>
      exact ⟨.word "CROSS", [.word "JOIN"], Token.lexemes_text (by decide), by decide, by decide,
        .of_isFlat rfl, fun _ => rfl⟩

/-- The segments of a join, given those of its sides. -/
theorem segments_join {keyword : Lexeme} {others : List Lexeme} (balanced : Balanced words first)
    (stop : keyword.isOneOf joinWords = true) (flat : Balanced joinWords others)
    (found : List Lexeme) :
    segments joinWords 0 (first ++ keyword :: (others ++ found))
      = ⟨(segments joinWords 0 first).front, (segments joinWords 0 first).rest
        ++ (keyword :: (others ++ (segments joinWords 0 found).front))
          :: (segments joinWords 0 found).rest⟩ := by
  have joined := segments_stop stop (others ++ found)
  rw [segments_of_balanced flat] at joined
  have cut := segments_append balanced (by rw [joined])
  rw [joined] at cut
  exact cut

/-- The step at the keyword of a join, and what is read behind it. -/
theorem Reads.step {keyword : Lexeme} {others table : List Lexeme}
    (notOn : keyword.isOneOf ["ON"] = false)
    (joins : joinOf? (keyword :: (others ++ table)) = some (kind, table)) (state : Joining) :
    state.next? (keyword :: (others ++ table))
      = if kind = .cross then some ⟨.join state.tree kind (.table table) none, state.waiting⟩
        else some ⟨.table table, (state.tree, kind) :: state.waiting⟩ := by
  rw [Joining.next?, if_neg (by rw [notOn]; decide), joins]

variable (dialect) in
/-- A join with a condition. -/
theorem Reads.join (notCross : kind ≠ .cross) (leftReads : Reads first left)
    (leftBalanced : Balanced words first) (rightReads : Reads second right)
    (rightBalanced : Balanced words second) (conditionBalanced : Balanced joinWords found) :
    Reads (first ++ ((Token.text (" " ++ kind.keyword ++ " ")).lexemes dialect
        ++ (second ++ .word "ON" :: found)))
      (.join left kind right (some found)) := by
  obtain ⟨keyword, others, written, stop, notOn, flat, joins⟩ := lexemes_joinKeyword dialect kind
  have isOn : (Lexeme.word "ON").isOneOf joinWords = true := by decide
  have condition := segments_stop isOn found
  rw [segments_self conditionBalanced] at condition
  have behind := segments_append rightBalanced (by rw [condition])
  rw [condition] at behind
  intro waiting
  rw [written, List.cons_append, segments_join leftBalanced stop flat, behind,
    List.foldlM_append, leftReads waiting]
  show (Joining.next? _ _).bind _ = _
  rw [Reads.step notOn (joins _), if_neg notCross]
  show List.foldlM Joining.next? _ (_ ++ _) = _
  rw [List.foldlM_append, rightReads]
  rfl

variable (dialect) in
/-- A cross join with a table. -/
theorem Reads.cross (leftReads : Reads first left) (leftBalanced : Balanced words first)
    (tableBalanced : Balanced joinWords found) :
    Reads (first ++ ((Token.text (" " ++ JoinKind.cross.keyword ++ " ")).lexemes dialect ++ found))
      (.join left .cross (.table found) none) := by
  obtain ⟨keyword, others, written, stop, notOn, flat, joins⟩ := lexemes_joinKeyword dialect .cross
  intro waiting
  rw [written, List.cons_append, segments_join leftBalanced stop flat,
    segments_self tableBalanced, List.foldlM_append, leftReads waiting]
  show (Joining.next? _ _).bind _ = _
  rw [Reads.step notOn (joins _), if_pos rfl]
  rfl

end JoinTree

namespace TableRef

variable {dialect : Dialect} {table left : TableRef} {kind : JoinKind} {right : Entry TableRef}
  {condition? : Option Expr}

theorem tokens_join :
    (join left kind right condition?).tokens dialect
      = left.tokens dialect ++ if right.isActive then
          kind.tokens (right.value.tokens dialect) (Expr.tokens? dialect condition?) else [] := by
  cases right
  rw [tokens]
  rfl

variable (dialect) in
theorem balanced_of_not_join (built : (Part.tableRef table).Built)
    (notJoin : ∀ left kind right condition?, table ≠ .join left kind right condition?) :
    Balanced joinWords (dialect.lexemesOf (table.tokens dialect)) := by
  have phrase : Phrase dialect .expression (table.tokens dialect) :=
    phrase_of_not_join notJoin fun part mem => (built.of_mem_children mem).phrase
  exact phrase.balanced.weaken (by decide)

/-- A tree without joins is all that is written. -/
theorem joinTree_eq_table (built : (Part.tableRef table).Built)
    (isTable : (table.joinTree dialect).isTable = true) :
    table.joinTree dialect = .table (dialect.lexemesOf (table.tokens dialect))
      ∧ Balanced joinWords (dialect.lexemesOf (table.tokens dialect)) := by
  induction table using active_induction with
  | active left kind right condition? isActive leftIh rightIh =>
      rw [joinTree_join, if_pos isActive] at isTable
      cases isTable
  | inactive left kind right condition? isInactive leftIh =>
      rw [joinTree_join, isInactive, if_neg Bool.false_ne_true] at isTable ⊢
      rw [tokens_join, isInactive, if_neg Bool.false_ne_true, List.append_nil]
      exact leftIh (built.of_mem_children (.head _)) isTable
  | single table notJoin =>
      exact ⟨joinTree_of_not_join notJoin, balanced_of_not_join dialect built notJoin⟩

variable (dialect) in
/-- A reader finds the tree that was built if the active joins show where they end. -/
theorem reads_joinTree (built : (Part.tableRef table).Built) (ends : table.JoinsShowEnds) :
    JoinTree.Reads (dialect.lexemesOf (table.tokens dialect)) (table.joinTree dialect) := by
  induction table using active_induction with
  | active left kind right condition? isActive leftIh rightIh =>
      have leftBuilt : (Part.tableRef left).Built := built.of_mem_children (.head _)
      have rightBuilt : (Part.tableRef right.value).Built :=
        built.of_mem_children (.tail _ (.head _))
      rw [JoinsShowEnds, forall_writes_join] at ends
      obtain ⟨here, inLeft, inRight⟩ := ends
      have leftReads := leftIh leftBuilt inLeft
      have leftPhrase : Phrase dialect .table (left.tokens dialect) := leftBuilt.phrase
      have here := here isActive
      rw [joinTree_join, tokens_join, if_pos isActive, if_pos isActive, JoinKind.tokens,
        Dialect.lexemesOf_append, Dialect.lexemesOf_cons, Dialect.lexemesOf_append]
      split at here
      · next isCross =>
          obtain ⟨rfl, noJoin⟩ := here
          subst isCross
          obtain ⟨isTable, balanced⟩ :=
            joinTree_eq_table rightBuilt ((isTable_joinTree dialect).2 noJoin)
          have reads := JoinTree.Reads.cross dialect leftReads leftPhrase.balanced balanced
          simpa [Expr.tokens?, conditionTokens, isTable] using reads
      · next notCross =>
          obtain ⟨condition, rfl⟩ := Option.isSome_iff_exists.1 here
          have rightReads := rightIh rightBuilt (inRight isActive)
          have rightPhrase : Phrase dialect .table (right.value.tokens dialect) :=
            rightBuilt.phrase
          have conditionPhrase : Phrase dialect .expression (condition.tokens dialect) :=
            (built.of_mem_children (.tail _ (.tail _ (.head _)))).phrase
          have reads := JoinTree.Reads.join dialect notCross leftReads
            leftPhrase.balanced rightReads rightPhrase.balanced
            (conditionPhrase.balanced.weaken (by decide))
          have keyword : (Token.text " ON ").lexemes dialect = [.word "ON"] :=
            Token.lexemes_text (by decide)
          simpa [Expr.tokens?, conditionTokens, keyword] using reads
  | inactive left kind right condition? isInactive leftIh =>
      rw [JoinsShowEnds, forall_writes_join] at ends
      rw [joinTree_join, tokens_join, isInactive, if_neg Bool.false_ne_true,
        if_neg Bool.false_ne_true, List.append_nil]
      exact leftIh (built.of_mem_children (.head _)) ends.2.1
  | single table notJoin =>
      rw [joinTree_of_not_join notJoin]
      exact .table (balanced_of_not_join dialect built notJoin)

end TableRef

/-! ## Tables that may be filled with NULL -/

/-- The name that a lexeme stands for. -/
def Lexeme.name? : Lexeme → Option String
  | word text => some text
  | quoted _ content => some content
  | _ => none

/-- What a tree provides, and which of it an outer join may fill with NULL.  A table goes by its
last lexeme, which is its alias if there is one. -/
def JoinTree.names : JoinTree → Names
  | table found => .ofTable ((found.getLast?.bind Lexeme.name?).getD "")
  | join left kind right _ =>
      { Names.none with
        tables := left.names.tables ∪ right.names.tables
        optionalTables := kind.optionalTables left.names right.names }

/-- All joins are active. -/
def TableRef.JoinsAreActive (table : TableRef) : Prop :=
  ∀ left kind right condition?, table.Writes (.join left kind right condition?) →
    right.isActive = true

namespace TableRef

variable {dialect : Dialect} {table : TableRef}

theorem names_of_last {found : List Lexeme} {name : String}
    (last : found.getLast? = some (.word name)
      ∨ ∃ delimiter, found.getLast? = some (.quoted delimiter name)) :
    (JoinTree.table found).names = .ofTable name := by
  rcases last with last | ⟨delimiter, last⟩ <;> rw [JoinTree.names, last] <;> rfl

variable (dialect) in
/-- A name is written as one lexeme, which stands for the name. -/
theorem getLast?_lexemesOf_name (tokens : List Token) (name : String) :
    (dialect.lexemesOf (tokens ++ [Token.identifier name])).getLast? = some (.word name)
      ∨ ∃ delimiter, (dialect.lexemesOf (tokens ++ [Token.identifier name])).getLast?
        = some (.quoted delimiter name) := by
  rw [Dialect.lexemesOf_append, Dialect.lexemesOf_cons, Dialect.lexemesOf_nil, List.append_nil,
    Token.lexemes, List.getLast?_concat]
  split
  · exact .inr ⟨_, rfl⟩
  · exact .inl rfl

theorem names_aliasedName (declared : String) (alias? : Option String) :
    (JoinTree.table (dialect.lexemesOf (aliasedNameTokens declared alias?))).names
      = .ofTable (alias?.getD declared) := by
  cases alias? with
  | none => exact names_of_last (getLast?_lexemesOf_name dialect [] declared)
  | some name =>
      have last := getLast?_lexemesOf_name dialect [.identifier declared, .text " AS "] name
      exact names_of_last last

/-- What a single table provides is what its last lexeme says. -/
theorem names_of_not_join
    (notJoin : ∀ left kind right condition?, table ≠ .join left kind right condition?) :
    table.names.tables = (table.joinTree dialect).names.tables
      ∧ table.names.optionalTables = (table.joinTree dialect).names.optionalTables := by
  cases table with
  | table declared =>
      have same : ((TableRef.table declared).joinTree dialect).names = .ofTable declared.identity :=
        names_aliasedName declared.name declared.alias?
      rw [same]
      exact ⟨rfl, rfl⟩
  | cte reference =>
      have same : ((TableRef.cte reference).joinTree dialect).names
          = .ofTable reference.identity := names_aliasedName reference.name reference.alias?
      rw [same]
      exact ⟨rfl, rfl⟩
  | subSelect derived =>
      obtain ⟨select, name, fields⟩ := derived
      have same : ((TableRef.subSelect ⟨select, name, fields⟩).joinTree dialect).names
          = .ofTable name := by
        have last := getLast?_lexemesOf_name dialect
          (Token.parenthesized (select.tokens dialect) ++ [.text " AS "]) name
        rw [List.append_assoc] at last
        exact names_of_last last
      rw [same]
      exact ⟨rfl, rfl⟩
  | join left kind right condition? => exact absurd rfl (notJoin _ _ _ _)

/-- With all joins active, the tree tells which tables an outer join may fill with NULL. -/
theorem JoinsAreActive.names_eq (active : table.JoinsAreActive) (dialect : Dialect) :
    table.names.tables = (table.joinTree dialect).names.tables
      ∧ table.names.optionalTables = (table.joinTree dialect).names.optionalTables := by
  induction table using active_induction with
  | active left kind right condition? isActive leftIh rightIh =>
      rw [JoinsAreActive, forall_writes_join] at active
      obtain ⟨leftTables, leftOptional⟩ := leftIh active.2.1
      obtain ⟨rightTables, rightOptional⟩ := rightIh (active.2.2 isActive)
      rw [joinTree_join, if_pos isActive]
      refine ⟨?_, ?_⟩
      · show left.names.tables ∪ right.value.names.tables = _
        rw [leftTables, rightTables]
        rfl
      · show kind.optionalTables left.names right.value.names
          = kind.optionalTables (left.joinTree dialect).names (right.value.joinTree dialect).names
        unfold JoinKind.optionalTables
        rw [leftTables, leftOptional, rightTables, rightOptional]
  | inactive left kind right condition? isInactive leftIh =>
      rw [JoinsAreActive, forall_writes_join, isInactive] at active
      cases active.1
  | single table notJoin => exact names_of_not_join notJoin

/-- A reader of what is written finds the tree that was built exactly if the active joins show where
they end.  With all joins active, the tree tells which tables an outer join may fill with NULL. -/
theorem joinTree_is_read {position : Nat} {sql : String} (built : (Part.tableRef table).Built)
    (written : dialect.writeFrom position (table.tokens dialect) = .ok sql) :
    (readJoins sql = some (table.joinTree dialect) ↔ table.JoinsShowEnds)
      ∧ (table.JoinsAreActive →
        table.names.optionalTables = (table.joinTree dialect).names.optionalTables) := by
  have phrase : Phrase dialect .table (table.tokens dialect) := built.phrase
  refine ⟨?_, fun active => (active.names_eq dialect).2⟩
  rw [readJoins, phrase.lexemes_writeFrom written, Option.bind_some]
  exact ⟨fun found => isReadable_joinTree.1 (JoinTree.isReadable_read? found),
    fun ends => (reads_joinTree dialect built ends).read?⟩

/-- Built table references whose joins show where they end have the same text only if they have the
same tree.  With all joins active, an outer join may then fill the same tables with NULL. -/
theorem joinTree_eq_of_written {first second : TableRef} {position next : Nat} {sql : String}
    (firstBuilt : (Part.tableRef first).Built) (secondBuilt : (Part.tableRef second).Built)
    (firstEnds : first.JoinsShowEnds) (secondEnds : second.JoinsShowEnds)
    (firstWritten : dialect.writeFrom position (first.tokens dialect) = .ok sql)
    (secondWritten : dialect.writeFrom next (second.tokens dialect) = .ok sql) :
    first.joinTree dialect = second.joinTree dialect
      ∧ (first.JoinsAreActive → second.JoinsAreActive →
        first.names.optionalTables = second.names.optionalTables) := by
  have firstPhrase : Phrase dialect .table (first.tokens dialect) := firstBuilt.phrase
  have secondPhrase : Phrase dialect .table (second.tokens dialect) := secondBuilt.phrase
  have same : dialect.lexemesOf (first.tokens dialect)
      = dialect.lexemesOf (second.tokens dialect) :=
    Option.some.inj ((firstPhrase.lexemes_writeFrom firstWritten).symm.trans
      (secondPhrase.lexemes_writeFrom secondWritten))
  have firstRead := (reads_joinTree dialect firstBuilt firstEnds).read?
  rw [same, (reads_joinTree dialect secondBuilt secondEnds).read?] at firstRead
  have trees := (Option.some.inj firstRead).symm
  refine ⟨trees, fun firstActive secondActive => ?_⟩
  rw [(firstActive.names_eq dialect).2, (secondActive.names_eq dialect).2, trees]

/-! ## A cross join with a join -/

/-- A join that may fill the columns of `bar` with NULL. -/
def rightJoin : TableRef :=
  .join (.table (.ofId "bar")) .rightOuter (.static (.table (.ofId "baz")))
    (some (.sameId "bar" "baz"))

/-- A cross join of `foo` with that join. -/
def crossOfRight : TableRef := .join (.table (.ofId "foo")) .cross (.static rightJoin) none

/-- A cross join of `foo` with `bar`, with which `baz` is joined. -/
def rightOfCross : TableRef :=
  .join (.join (.table (.ofId "foo")) .cross (.static (.table (.ofId "bar"))) none) .rightOuter
    (.static (.table (.ofId "baz"))) (some (.sameId "bar" "baz"))

theorem crossOfRight_built : (Part.tableRef crossOfRight).Built := by
  have inner : mkJoin (.table (.ofId "bar")) .rightOuter (.static (.table (.ofId "baz")))
      (some (.sameId "bar" "baz")) = .ok rightJoin := rfl
  have innerBuilt : (Part.tableRef rightJoin).Built :=
    built_of_mkJoin inner (Table.ofId_built "bar") (Table.ofId_built "baz")
      (List.forall_mem_singleton.2 (Expr.sameId_built "bar" "baz"))
  have crossed : mkJoin (.table (.ofId "foo")) .cross (.static rightJoin) none
      = .ok crossOfRight := rfl
  exact built_of_mkJoin crossed (Table.ofId_built "foo") innerBuilt nofun

theorem rightOfCross_built : (Part.tableRef rightOfCross).Built := by
  have crossed : mkJoin (.table (.ofId "foo")) .cross (.static (.table (.ofId "bar"))) none
      = .ok (.join (.table (.ofId "foo")) .cross (.static (.table (.ofId "bar"))) none) := rfl
  have crossBuilt : (Part.tableRef
      (.join (.table (.ofId "foo")) .cross (.static (.table (.ofId "bar"))) none)).Built :=
    built_of_mkJoin crossed (Table.ofId_built "foo") (Table.ofId_built "bar") nofun
  have joined : mkJoin
      (.join (.table (.ofId "foo")) .cross (.static (.table (.ofId "bar"))) none) .rightOuter
      (.static (.table (.ofId "baz"))) (some (.sameId "bar" "baz")) = .ok rightOfCross := rfl
  exact built_of_mkJoin joined crossBuilt (Table.ofId_built "baz")
    (List.forall_mem_singleton.2 (Expr.sameId_built "bar" "baz"))

theorem crossOfRight_written :
    Dialect.generic.writeFrom 1 (crossOfRight.tokens .generic)
      = .ok "foo CROSS JOIN bar RIGHT OUTER JOIN baz ON bar.id = baz.id" := by rfl

/-- A reader does not find the join that `foo` was joined with. -/
theorem crossOfRight_not_read :
    Dialect.generic.writeFrom 1 (crossOfRight.tokens .generic)
        = .ok "foo CROSS JOIN bar RIGHT OUTER JOIN baz ON bar.id = baz.id"
      ∧ ¬ readJoins "foo CROSS JOIN bar RIGHT OUTER JOIN baz ON bar.id = baz.id"
        = some (crossOfRight.joinTree .generic) := by
  refine ⟨crossOfRight_written, ?_⟩
  rw [(joinTree_is_read crossOfRight_built crossOfRight_written).1]
  intro ends
  have notActive : true = false := (ends _ _ _ _ (.refl _) rfl).2 _ _ _ _ (.refl _)
  cases notActive

/-- Two built table references have the same text in every dialect, but they are different trees,
and outer joins fill different tables with NULL. -/
theorem crossOfRight_same_text :
    (Part.tableRef crossOfRight).Built ∧ (Part.tableRef rightOfCross).Built
      ∧ (∀ dialect : Dialect, crossOfRight.tokens dialect = rightOfCross.tokens dialect)
      ∧ Dialect.generic.write (crossOfRight.tokens .generic)
        = .ok "foo CROSS JOIN bar RIGHT OUTER JOIN baz ON bar.id = baz.id"
      ∧ crossOfRight.joinTree .generic ≠ rightOfCross.joinTree .generic
      ∧ crossOfRight.names.optionalTables.toList = ["bar"]
      ∧ rightOfCross.names.optionalTables.toList = ["foo", "bar"] :=
  ⟨crossOfRight_built, rightOfCross_built, fun _ => rfl, crossOfRight_written, by decide, rfl, rfl⟩

end TableRef

end CheckedSql
