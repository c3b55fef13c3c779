import CheckedSql.Proofs.Grouping.UnionTree

/-!
# Reading unions

`unionTrees_are_read` says when a reader finds the tree that was built: exactly if all
arms that are written are plain selects.  The same holds of a common table expression,
where the base may be a union, but has no sort order and no row count if there are arms.

The clauses of a select that make more of it than a plain one are the last ones
(`Select.Split`).  What stands in front of them holds no word of a union, and each of
them starts with one.  So a reader takes them one by one, and `UnionTree.Runs` says what
it makes of the query that it has found before.
-/

namespace CheckedSql

/-! ## Reading what is written -/

namespace UnionTree

variable {dialect : Dialect} {query middle tree : UnionTree} {first second found : List Lexeme}

/-- A reader that has found a query takes these lexemes as what makes a tree of it. -/
structure Runs (query : UnionTree) (found : List Lexeme) (tree : UnionTree) : Prop where
  starts : (segments unionWords 0 found).front = []
  steps : (segments unionWords 0 found).rest.foldlM next? query = some tree

namespace Runs

theorem nil (query : UnionTree) : Runs query [] query := ⟨rfl, rfl⟩

theorem append {words : List String} (balanced : Balanced words first)
    (firstRuns : Runs query first middle) (secondRuns : Runs middle second tree) :
    Runs query (first ++ second) tree := by
  have cut := segments_append balanced secondRuns.starts
  refine ⟨by rw [cut]; exact firstRuns.starts, ?_⟩
  rw [cut, List.foldlM_append, firstRuns.steps]
  exact secondRuns.steps

/-- A segment is one step. -/
theorem segment {keyword : Lexeme} (stop : keyword.isOneOf unionWords = true)
    (balanced : Balanced unionWords found) (step : next? query (keyword :: found) = some tree) :
    Runs query (keyword :: found) tree := by
  have cut := segments_stop stop found
  rw [segments_self balanced] at cut
  exact ⟨by rw [cut], by rw [cut]; simp [step]⟩

end Runs

/-- What is read behind a first plain select. -/
theorem read?_append (balanced : Balanced unionWords first)
    (runs : Runs (plain first) second tree) : read? (first ++ second) = some tree := by
  have front : (segments unionWords 0 (first ++ second)).front = first := by
    rw [segments_of_balanced balanced, Segments.behind, runs.starts, List.append_nil]
  have rest : (segments unionWords 0 (first ++ second)).rest
      = (segments unionWords 0 second).rest := by
    rw [segments_of_balanced balanced, Segments.behind]
  rw [read?, front, rest]
  exact runs.steps

theorem distinctArm_word {word : String} (notAll : asciiUpper word ≠ "ALL")
    (notDistinct : asciiUpper word ≠ "DISTINCT") (found : List Lexeme) :
    distinctArm (.word word :: found) = (true, .word word :: found) := by
  rw [distinctArm, if_neg notAll, if_neg notDistinct]

/-- The keyword of a union says whether equal rows are taken once. -/
theorem lexemes_unionKeyword (dialect : Dialect) (distinct : Bool) :
    ∃ quantifier, (Token.text (" " ++ dialect.unionKeyword distinct ++ " ")).lexemes dialect
        = .word "UNION" :: quantifier
      ∧ quantifier.all (Lexeme.isFlat unionWords) = true
      ∧ ∀ arm, distinctArm arm = (true, arm) →
        distinctArm (quantifier ++ arm) = (distinct, arm) := by
  have all (arm : List Lexeme) : distinctArm (.word "ALL" :: arm) = (false, arm) := by
    rw [distinctArm, if_pos (by decide)]
  have once (arm : List Lexeme) : distinctArm (.word "DISTINCT" :: arm) = (true, arm) := by
    rw [distinctArm, if_neg (by decide), if_pos (by decide)]
  cases distinct with
  | false =>
      refine ⟨[.word "ALL"], Token.lexemes_text ?_, by decide, fun arm _ => all arm⟩
      cases dialect <;> decide
  | true =>
      cases dialect with
      | sqlite => exact ⟨[], Token.lexemes_text (by decide), rfl, fun _ same => same⟩
      | generic | postgres | mysql =>
          exact ⟨[.word "DISTINCT"], Token.lexemes_text (by decide), by decide,
            fun arm _ => once arm⟩

theorem Runs.union (notEnded : query.isEnded = false) (distinct : Bool) {tokens : List Token}
    (balanced : Balanced unionWords (dialect.lexemesOf tokens))
    (starts : distinctArm (dialect.lexemesOf tokens) = (true, dialect.lexemesOf tokens)) :
    Runs query (dialect.lexemesOf (dialect.unionTokens distinct tokens))
      (.union query distinct (.plain (dialect.lexemesOf tokens))) := by
  obtain ⟨quantifier, keyword, flat, arm⟩ := lexemes_unionKeyword dialect distinct
  rw [Dialect.unionTokens, Dialect.lexemesOf_cons, keyword, List.cons_append]
  refine .segment (by decide) ((Balanced.of_isFlat flat).append balanced) ?_
  rw [next?, if_pos (by decide), notEnded, arm _ starts]
  rfl

end UnionTree

/-- The clauses of a built select, cut in front of its union, its sort order and its row counts. -/
structure Select.Split (dialect : Dialect) (select : Select) (core late : List Clause) : Prop where
  clauses : select.clauses = core ++ late
  areCore : ∀ clause ∈ core, clause.level = .table
  areLate : ∀ clause ∈ late, clause.level = .query
  increasing : late.Pairwise fun earlier later => earlier.rank < later.rank
  phrase : Phrase dialect .table (Clause.listTokens dialect core)
  starts : UnionTree.distinctArm (dialect.lexemesOf (Clause.listTokens dialect core))
    = (true, dialect.lexemesOf (Clause.listTokens dialect core))

section Selects

variable {dialect : Dialect} {select : Select}

theorem Statement.level_of_allows {clause : Clause}
    (allowed : (Statement.select select).allows clause = true) :
    (clause.rank < 7 → clause.level = .table) ∧ (7 ≤ clause.rank → clause.level = .query) := by
  cases clause with
  | union | orderBy => exact ⟨by simp [Clause.rank], fun _ => rfl⟩
  | limit kind count => cases kind <;> exact ⟨by simp [Clause.rank], fun _ => rfl⟩
  | onConflict | returning => cases allowed
  | _ => exact ⟨fun _ => rfl, by simp [Clause.rank]⟩

/-- A select starts with `SELECT` or with its definitions, so its first word is no part of the
keyword of a union. -/
theorem Select.distinctArm_core {definitions others : List Clause} {head : Clause}
    (defined : definitions = [] ∨ ∃ ctes, definitions = [.with ctes]) (rank : head.rank = 1)
    (allowed : (Statement.select select).allows head = true) :
    UnionTree.distinctArm
        (dialect.lexemesOf (Clause.listTokens dialect (definitions ++ head :: others)))
      = (true, dialect.lexemesOf (Clause.listTokens dialect (definitions ++ head :: others))) := by
  have selects : UnionTree.distinctArm
        (dialect.lexemesOf (Clause.listTokens dialect (head :: others)))
      = (true, dialect.lexemesOf (Clause.listTokens dialect (head :: others))) := by
    cases head with
    | columns distinct columns =>
        have keyword : ∃ found,
            (Token.text (if distinct then "SELECT DISTINCT " else "SELECT ")).lexemes dialect
              = .word "SELECT" :: found := by
          cases distinct with
          | false => exact ⟨[], Token.lexemes_text (by decide)⟩
          | true => exact ⟨[.word "DISTINCT"], Token.lexemes_text (by decide)⟩
        obtain ⟨found, keyword⟩ := keyword
        rw [Clause.listTokens, Clause.tokens, List.cons_append, Dialect.lexemesOf_cons, keyword]
        exact UnionTree.distinctArm_word (by decide) (by decide) _
    | limit kind count => cases kind <;> cases rank
    | target kind table => cases kind <;> cases allowed
    | _ => cases rank
  rcases defined with rfl | ⟨ctes, rfl⟩
  · exact selects
  · rw [List.singleton_append, Clause.listTokens, Clause.tokens, withTokens]
    split
    · exact selects
    · have keyword (recursive : Bool) :
          ∃ found, (Token.text (if recursive then "WITH RECURSIVE " else "WITH ")).lexemes dialect
            = .word "WITH" :: found := by
        cases recursive with
        | false => exact ⟨[], Token.lexemes_text (by decide)⟩
        | true => exact ⟨[.word "RECURSIVE"], Token.lexemes_text (by decide)⟩
      obtain ⟨found, keyword⟩ := keyword ((activeValues ctes).any Cte.isRecursive)
      rw [List.cons_append, Dialect.lexemesOf_cons, keyword]
      exact UnionTree.distinctArm_word (by decide) (by decide) _

/-- The clauses of a select: definitions, its columns, the others of its core, and the late ones. -/
theorem Statement.Ordered.split_select (ordered : (Statement.select select).Ordered) :
    ∃ (definitions : List Clause) (head : Clause) (others late : List Clause),
      select.clauses = definitions ++ head :: others ++ late
      ∧ (definitions = [] ∨ ∃ ctes, definitions = [.with ctes])
      ∧ head.rank = 1 ∧ (Statement.select select).allows head = true
      ∧ (∀ clause ∈ others, 2 ≤ clause.rank)
      ∧ (∀ clause ∈ definitions ++ head :: others, clause.level = .table)
      ∧ (∀ clause ∈ late, clause.level = .query)
      ∧ late.Pairwise fun earlier later => earlier.rank < later.rank := by
  obtain ⟨definitions, head, behind, clauses, defined, rank, ranks⟩ := ordered.split
  obtain ⟨allowed, increasing, -⟩ := ordered
  rw [clauses] at allowed increasing
  rw [List.forall_mem_append, List.forall_mem_cons] at allowed
  obtain ⟨-, headAllowed, behindAllowed⟩ := allowed
  have increasing := (List.pairwise_cons.1 (List.pairwise_append.1 increasing).2.1).2
  obtain ⟨others, late, rfl, below, notBelow⟩ :=
    Statement.exists_split_of_increasing increasing 7
  rw [List.forall_mem_append] at behindAllowed ranks
  refine ⟨definitions, head, others, late, ?_, defined, rank, headAllowed, ranks.1, ?_,
    fun clause mem => (level_of_allows (behindAllowed.2 clause mem)).2 (notBelow clause mem),
    (List.pairwise_append.1 increasing).2.1⟩
  · rw [List.append_assoc, List.cons_append]
    exact clauses
  · rw [List.forall_mem_append, List.forall_mem_cons]
    refine ⟨?_, (level_of_allows headAllowed).1 (by rw [rank]; decide), fun clause mem =>
      (level_of_allows (behindAllowed.1 clause mem)).1 (below clause mem)⟩
    rcases defined with rfl | ⟨ctes, rfl⟩
    · exact nofun
    · exact List.forall_mem_singleton.2 rfl

theorem Part.Built.select_split (built : (Part.select select).Built) (dialect : Dialect) :
    ∃ core late, select.Split dialect core late := by
  obtain ⟨definitions, head, others, late, clauses, defined, rank, allowed, ranks, areCore, areLate,
    increasing⟩ := (Statement.ordered_of_built built).split_select
  refine ⟨definitions ++ head :: others, late, clauses, areCore, areLate, increasing, ?_,
    Select.distinctArm_core defined rank allowed⟩
  refine Clause.phrase_list defined rank ranks (fun clause mem => ?_) fun part mem => ?_
  · rw [areCore clause (by simp [mem])]
    exact List.Subset.refl _
  · refine (built.of_mem_children ?_).phrase
    rw [Part.children, Statement.clauses, clauses, List.flatMap_append]
    exact List.mem_append_left _ mem

namespace Select.Split

variable {core late : List Clause}

theorem tokens_eq (split : select.Split dialect core late) :
    select.tokens dialect
      = Clause.listTokens dialect core ++ Clause.listTokens dialect late := by
  obtain ⟨clauses⟩ := select
  obtain rfl : clauses = core ++ late := split.clauses
  rw [tokens, Clause.listTokens_append]

theorem unionTree_eq (split : select.Split dialect core late) :
    select.unionTree dialect
      = Clause.extendAll dialect
        (.plain (dialect.lexemesOf (Clause.listTokens dialect core))) late := by
  obtain ⟨clauses⟩ := select
  obtain rfl : clauses = core ++ late := split.clauses
  rw [unionTree, Clause.extendAll_append, Clause.extendAll_core split.areCore, List.nil_append]

theorem late_built (split : select.Split dialect core late) (built : (Part.select select).Built) :
    ∀ part ∈ late.flatMap Clause.parts, part.Built := by
  intro part mem
  refine built.of_mem_children ?_
  rw [Part.children, Statement.clauses, split.clauses, List.flatMap_append]
  exact List.mem_append_right _ mem

end Select.Split

/-- A reader takes what is written of a select for a plain select, too. -/
structure Select.ReadsPlain (dialect : Dialect) (select : Select) : Prop where
  tree : select.unionTree dialect = .plain (dialect.lexemesOf (select.tokens dialect))
  balanced : Balanced unionWords (dialect.lexemesOf (select.tokens dialect))
  starts : UnionTree.distinctArm (dialect.lexemesOf (select.tokens dialect))
    = (true, dialect.lexemesOf (select.tokens dialect))

theorem Part.Built.readsPlain (built : (Part.select select).Built)
    (plain : select.isPlain = true) : select.ReadsPlain dialect := by
  obtain ⟨core, late, split⟩ := built.select_split dialect
  have closed : ∀ clause ∈ late, clause.isOpen = false := by
    rw [Select.isPlain, Bool.not_eq_true', List.any_eq_false] at plain
    intro clause mem
    exact Bool.not_eq_true _ ▸ plain clause (by simp [split.clauses, mem])
  have tokens : select.tokens dialect = Clause.listTokens dialect core := by
    rw [split.tokens_eq, (@Clause.extendAll_closed dialect (.plain []) _ split.areLate closed).1,
      List.append_nil]
  refine ⟨?_, ?_, ?_⟩
  · rw [split.unionTree_eq, (Clause.extendAll_closed split.areLate closed).2, tokens]
  · rw [tokens]
    exact split.phrase.balanced
  · rw [tokens]
    exact split.starts

/-! ### Late clauses -/

namespace Clause

variable {query : UnionTree} {late : List Clause}

theorem two_le_rank {clause : Clause} (isLate : clause.level = .query) : 2 ≤ clause.rank := by
  cases clause with
  | union | orderBy => simp [rank]
  | limit kind => cases kind <;> simp [rank]
  | _ => cases isLate

/-- Behind a sort order or a row count, there is no union. -/
theorem isEnd_of_rank_lt {earlier later : Clause} (isEnd : earlier.isEnd = true)
    (isLate : later.level = .query) (below : earlier.rank < later.rank) :
    later.isEnd = true := by
  cases later with
  | union =>
      cases earlier with
      | orderBy => simp [rank] at below
      | limit kind => cases kind <;> simp [rank] at below
      | _ => cases isEnd
  | orderBy | limit => rfl
  | _ => cases isLate

theorem not_isEnded_of_union {distinct : Bool} {arm : Entry Select}
    (behindEnd : query.isEnded = true →
      ∀ clause ∈ Clause.union distinct arm :: late, clause.isEnd = true) :
    query.isEnded = false := by
  rw [← Bool.not_eq_true]
  exact fun isEnded => Bool.false_ne_true (behindEnd isEnded _ (.head _))

/-- A query is ended by late clauses if it was or if one of them is a written sort order or row
count. -/
theorem isEnded_extendAll (areLate : ∀ clause ∈ late, clause.level = .query)
    (increasing : late.Pairwise fun earlier later => earlier.rank < later.rank)
    (behindEnd : query.isEnded = true → ∀ clause ∈ late, clause.isEnd = true) :
    (extendAll dialect query late).isEnded
      = (query.isEnded || late.any fun clause => clause.isEnd && clause.isOpen) := by
  induction late generalizing query with
  | nil => rw [extendAll, List.any_nil, Bool.or_false]
  | cons clause late ih =>
      obtain ⟨isLate, othersLate⟩ := List.forall_mem_cons.1 areLate
      obtain ⟨above, othersIncreasing⟩ := List.pairwise_cons.1 increasing
      rw [extendAll, List.any_cons]
      cases isOpen : clause.isOpen with
      | false =>
          rw [(extend_closed isLate isOpen).2, Bool.and_false, Bool.false_or]
          exact ih othersLate othersIncreasing fun isEnded other mem =>
            behindEnd isEnded other (.tail _ mem)
      | true =>
          rcases union_or_isEnd isOpen with ⟨distinct, arm, rfl, active⟩ | isEnd
          · have notEnded := not_isEnded_of_union behindEnd
            have others : (extendAll dialect (.union query distinct
                (arm.value.unionTree dialect)) late).isEnded = _ :=
              ih othersLate othersIncreasing (absurd · Bool.false_ne_true)
            rw [extend_union active, others, notEnded]
            rfl
          · rw [extend_end isEnd isOpen, isEnd, Bool.and_true, Bool.true_or, Bool.or_true]
            rw [ih othersLate othersIncreasing fun _ other mem =>
              isEnd_of_rank_lt isEnd (othersLate other mem) (above other mem)]
            rfl

/-- A reader finds the tree that late clauses make of a query, if their arms are plain. -/
theorem runs_extendAll (areLate : ∀ clause ∈ late, clause.level = .query)
    (increasing : late.Pairwise fun earlier later => earlier.rank < later.rank)
    (parts : ∀ part ∈ late.flatMap Clause.parts, part.Built)
    (plain : ∀ arm ∈ late.flatMap Clause.arms, arm.isPlain = true)
    (behindEnd : query.isEnded = true → ∀ clause ∈ late, clause.isEnd = true) :
    UnionTree.Runs query (dialect.lexemesOf (listTokens dialect late))
      (extendAll dialect query late) := by
  induction late generalizing query with
  | nil =>
      rw [listTokens, extendAll]
      exact .nil query
  | cons clause late ih =>
      obtain ⟨isLate, othersLate⟩ := List.forall_mem_cons.1 areLate
      obtain ⟨above, othersIncreasing⟩ := List.pairwise_cons.1 increasing
      rw [List.flatMap_cons, List.forall_mem_append] at parts plain
      have others {next : UnionTree}
          (behind : next.isEnded = true → ∀ clause ∈ late, clause.isEnd = true) :=
        ih othersLate othersIncreasing parts.2 plain.2 behind
      have phrases : ∀ part ∈ clause.parts, part.IsPhrase dialect := fun part mem =>
        (parts.1 part mem).phrase
      have balanced := (Clause.tail (two_le_rank isLate) phrases).phrase.balanced
      rw [listTokens, Dialect.lexemesOf_append, extendAll]
      cases isOpen : clause.isOpen with
      | false =>
          obtain ⟨vanishes, same⟩ := @extend_closed dialect query clause isLate isOpen
          rw [vanishes, same]
          exact others fun isEnded other mem => behindEnd isEnded other (.tail _ mem)
      | true =>
          rcases union_or_isEnd isOpen with ⟨distinct, arm, rfl, active⟩ | isEnd
          · have notEnded := not_isEnded_of_union behindEnd
            have armPlain : arm.value.isPlain = true :=
              plain.1 _ (by simp [arms, activeValues, active])
            have reads : arm.value.ReadsPlain dialect := (parts.1 _ (.head _)).readsPlain armPlain
            have first := UnionTree.Runs.union notEnded distinct reads.balanced reads.starts
            have tokens : (Clause.union distinct arm).tokens dialect
                = dialect.unionTokens distinct (arm.value.tokens dialect) := by
              obtain ⟨presence, select⟩ := arm
              exact if_pos active
            rw [tokens] at balanced ⊢
            rw [extend_union active, reads.tree]
            exact first.append balanced (others (absurd · Bool.false_ne_true))
          · obtain ⟨keyword, content, found, stop, noUnion, inside⟩ :=
              exists_keyword dialect isEnd isOpen
            rw [extend_end isEnd isOpen]
            refine .append balanced ?_ (others fun _ other mem =>
              isEnd_of_rank_lt isEnd (othersLate other mem) (above other mem))
            rw [found]
            refine .segment stop (inside phrases) ?_
            rw [UnionTree.next?, if_neg (by rw [noUnion]; decide)]

end Clause

/-! ### Selects and common table expressions -/

theorem Select.Split.runs {core late : List Clause} (split : select.Split dialect core late)
    (built : (Part.select select).Built) (plain : select.ArmsArePlain) :
    UnionTree.Runs (.plain (dialect.lexemesOf (Clause.listTokens dialect core)))
      (dialect.lexemesOf (Clause.listTokens dialect late)) (select.unionTree dialect) := by
  rw [split.unionTree_eq]
  refine Clause.runs_extendAll split.areLate split.increasing (split.late_built built)
    (fun arm mem => plain arm ?_) nofun
  rw [split.clauses, List.flatMap_append]
  exact List.mem_append_right _ mem

/-- A reader finds the tree of a built select if the arms are plain. -/
theorem Select.read?_unionTree (built : (Part.select select).Built) (plain : select.ArmsArePlain) :
    UnionTree.read? (dialect.lexemesOf (select.tokens dialect))
      = some (select.unionTree dialect) := by
  obtain ⟨core, late, split⟩ := built.select_split dialect
  rw [split.tokens_eq, Dialect.lexemesOf_append]
  exact UnionTree.read?_append split.phrase.balanced (split.runs built plain)

/-- The tree of a built select is ended if a sort order or a row count is written. -/
theorem Select.isEnded_unionTree (built : (Part.select select).Built) (dialect : Dialect) :
    (select.unionTree dialect).isEnded = select.isEnded := by
  obtain ⟨core, late, split⟩ := built.select_split dialect
  have notCore : (core.any fun clause => clause.isEnd && clause.isOpen) = false := by
    rw [List.any_eq_false]
    intro clause mem
    have isCore := split.areCore clause mem
    cases clause with
    | union | orderBy | limit => cases isCore
    | _ => exact Bool.false_ne_true
  have ended : (Clause.extendAll dialect
      (.plain (dialect.lexemesOf (Clause.listTokens dialect core))) late).isEnded = _ :=
    Clause.isEnded_extendAll split.areLate split.increasing nofun
  rw [split.unionTree_eq, ended, Select.isEnded, split.clauses, List.any_append, notCore]
  rfl

namespace CteArm

variable {query : UnionTree} {arms : List CteArm}

/-- A reader finds the tree that plain arms make of a query that has no end. -/
theorem runs_extendAll (built : ∀ arm ∈ arms, (Part.select arm.select.value).Built)
    (plain : ∀ arm ∈ activeValues (arms.map CteArm.select),
      query.isEnded = false ∧ arm.isPlain = true) :
    UnionTree.Runs query (dialect.lexemesOf (activeTokens dialect arms))
      (extendAll dialect query arms) := by
  induction arms generalizing query with
  | nil => exact .nil query
  | cons arm arms ih =>
      obtain ⟨armBuilt, others⟩ := List.forall_mem_cons.1 built
      obtain ⟨distinct, ⟨presence, select⟩, readsSelf⟩ := arm
      rw [activeTokens, extendAll]
      cases active : presence.isActive with
      | false =>
          rw [List.map_cons, activeValues_cons, Entry.isActive, active] at plain
          rw [Entry.isActive, active]
          exact ih others plain
      | true =>
          rw [List.map_cons, activeValues_cons, Entry.isActive, active, if_pos rfl,
            List.forall_mem_cons] at plain
          obtain ⟨⟨notEnded, selectPlain⟩, othersPlain⟩ := plain
          have reads : select.ReadsPlain dialect := armBuilt.readsPlain selectPlain
          have first := UnionTree.Runs.union notEnded distinct reads.balanced reads.starts
          have phrase : Phrase dialect .query (select.tokens dialect) := armBuilt.phrase.select
          have balanced := (Tail.union distinct phrase).phrase.balanced
          rw [Entry.isActive, active, if_pos rfl, if_pos rfl, Dialect.lexemesOf_append, reads.tree]
          exact first.append balanced (ih others fun arm mem => ⟨rfl, (othersPlain arm mem).2⟩)

/-- The arms in a readable tree are plain selects behind a query that has no end. -/
theorem plain_of_isReadable (readable : (extendAll dialect query arms).isReadable = true) :
    query.isReadable = true ∧ ∀ arm ∈ activeValues (arms.map CteArm.select),
      query.isEnded = false ∧ arm.isPlain = true := by
  induction arms generalizing query with
  | nil => exact ⟨readable, nofun⟩
  | cons arm arms ih =>
      obtain ⟨distinct, ⟨presence, select⟩, readsSelf⟩ := arm
      rw [extendAll] at readable
      rw [List.map_cons, activeValues_cons]
      cases active : (Entry.mk presence select).isActive with
      | false =>
          rw [active] at readable
          exact ih readable
      | true =>
          rw [active, if_pos rfl] at readable
          obtain ⟨united, others⟩ := ih readable
          simp only [UnionTree.isReadable, Bool.and_eq_true, Bool.not_eq_true'] at united
          obtain ⟨⟨queryReadable, notEnded⟩, isPlain⟩ := united
          rw [if_pos rfl, List.forall_mem_cons]
          exact ⟨queryReadable, ⟨notEnded, Select.isPlain_of_unionTree isPlain⟩,
            fun arm mem => ⟨notEnded, (others arm mem).2⟩⟩

end CteArm

/-- What stands between the parentheses of a written definition. -/
def Cte.body (dialect : Dialect) (cte : Cte) : List Token :=
  cte.base.tokens dialect ++ CteArm.activeTokens dialect cte.arms

theorem Cte.lexemesOf_tokens (dialect : Dialect) (cte : Cte) :
    ((dialect.lexemesOf (cte.tokens dialect)).drop 3).dropLast
      = dialect.lexemesOf (cte.body dialect) := by
  obtain ⟨name, base, arms, fields⟩ := cte
  have keyword : (Token.text " AS ").lexemes dialect = [.word "AS"] :=
    Token.lexemes_text (by decide)
  have opening : (Token.text "(").lexemes dialect = [.symbol '('] :=
    Token.lexemes_text (by decide)
  have closing : (Token.text ")").lexemes dialect = [.symbol ')'] :=
    Token.lexemes_text (by decide)
  rw [tokens, Token.parenthesized, Dialect.lexemesOf_cons, Dialect.lexemesOf_cons,
    Dialect.lexemesOf_cons, Dialect.lexemesOf_append, Dialect.lexemesOf_cons, keyword, opening,
    closing, Token.lexemes, Dialect.lexemesOf_nil]
  exact List.dropLast_concat

/-- A reader finds the tree of a built definition if the arms are plain. -/
theorem Cte.read?_unionTree {cte : Cte} (built : (Part.cte cte).Built) (plain : cte.ArmsArePlain) :
    UnionTree.read? (dialect.lexemesOf (cte.body dialect)) = some (cte.unionTree dialect) := by
  have baseBuilt : (Part.select cte.base).Built := built.of_mem_children (.head _)
  have armsBuilt : ∀ arm ∈ cte.arms, (Part.select arm.select.value).Built := fun arm mem =>
    built.of_mem_children (.tail _ (List.mem_map_of_mem (List.mem_map.2 ⟨arm, mem, rfl⟩)))
  obtain ⟨core, late, split⟩ := baseBuilt.select_split dialect
  have lateTail : Tail dialect .query (Clause.listTokens dialect late) := by
    refine Clause.tail_list (fun clause mem => Clause.two_le_rank (split.areLate clause mem))
      (fun clause _ => List.nil_subset _) fun part mem => ?_
    exact (split.late_built baseBuilt part mem).phrase
  have arms : UnionTree.Runs (cte.base.unionTree dialect)
      (dialect.lexemesOf (CteArm.activeTokens dialect cte.arms)) (cte.unionTree dialect) := by
    refine CteArm.runs_extendAll armsBuilt fun arm mem => ?_
    rw [Select.isEnded_unionTree baseBuilt]
    exact plain.2 arm mem
  rw [Cte.body, split.tokens_eq, List.append_assoc, Dialect.lexemesOf_append,
    Dialect.lexemesOf_append]
  exact UnionTree.read?_append split.phrase.balanced
    ((split.runs baseBuilt plain.1).append lateTail.phrase.balanced arms)

end Selects

/-- A reader of what is written finds the tree that was built exactly if all arms that are written
are plain selects, and those of a definition have no sort order or row count in front of them. -/
theorem unionTrees_are_read {dialect : Dialect} {position : Nat} {sql : String} :
    (∀ select : Select, (Part.select select).Built →
        dialect.writeFrom position (select.tokens dialect) = .ok sql →
        (readQuery sql = some (select.unionTree dialect) ↔ select.ArmsArePlain))
      ∧ ∀ cte : Cte, (Part.cte cte).Built →
        dialect.writeFrom position (cte.tokens dialect) = .ok sql →
        (readDefinition sql = some (cte.unionTree dialect) ↔ cte.ArmsArePlain) := by
  refine ⟨fun select built written => ?_, fun cte built written => ?_⟩
  · have read := built.phrase.select.lexemes_writeFrom written
    rw [readQuery, read, Option.bind_some]
    refine ⟨fun found => ?_, Select.read?_unionTree built⟩
    exact Select.armsArePlain_of_isReadable (UnionTree.isReadable_read? found)
  · have phrase : Phrase dialect .expression (cte.tokens dialect) := built.phrase
    rw [readDefinition, phrase.lexemes_writeFrom written, Option.bind_some,
      Cte.lexemesOf_tokens]
    refine ⟨fun found => ?_, Cte.read?_unionTree built⟩
    obtain ⟨baseReadable, arms⟩ :=
      CteArm.plain_of_isReadable (UnionTree.isReadable_read? found)
    refine ⟨Select.armsArePlain_of_isReadable baseReadable, fun arm mem => ?_⟩
    rw [← Select.isEnded_unionTree (built.of_mem_children (.head _)) dialect]
    exact arms arm mem

/-- Built selects with plain arms have the same text only if they have the same tree. -/
theorem Select.unionTree_eq_of_written {dialect : Dialect} {first second : Select}
    {position next : Nat} {sql : String} (firstBuilt : (Part.select first).Built)
    (secondBuilt : (Part.select second).Built) (firstPlain : first.ArmsArePlain)
    (secondPlain : second.ArmsArePlain)
    (firstWritten : dialect.writeFrom position (first.tokens dialect) = .ok sql)
    (secondWritten : dialect.writeFrom next (second.tokens dialect) = .ok sql) :
    first.unionTree dialect = second.unionTree dialect := by
  have firstRead := firstBuilt.phrase.select.lexemes_writeFrom firstWritten
  have secondRead := secondBuilt.phrase.select.lexemes_writeFrom secondWritten
  have same : dialect.lexemesOf (first.tokens dialect)
      = dialect.lexemesOf (second.tokens dialect) :=
    Option.some.inj (firstRead.symm.trans secondRead)
  have found := @Select.read?_unionTree dialect first firstBuilt firstPlain
  rw [same, Select.read?_unionTree secondBuilt secondPlain] at found
  exact (Option.some.inj found).symm

/-! ## An arm with a row count -/

namespace Select

/-- The first `foo.id`. -/
def limited : Select where
  clauses := (ofId "foo" "foo").clauses ++ [.limit .limit (.value (.int 1))]

/-- A select of `foo.id`, united with the first one. -/
def limitedArm : Select where
  clauses := (ofId "foo" "foo").clauses ++ [.union false (.static limited)]

/-- The first `foo.id` of a union of two selects. -/
def limitedUnion : Select where
  clauses := (ofId "foo" "foo").clauses
    ++ [.union false (.static (ofId "foo" "foo")), .limit .limit (.value (.int 1))]

theorem limited_built : (Part.select limited).Built := by
  have counted : (ofId "foo" "foo").limit .limit (.value (.int 1)) = .ok limited := rfl
  exact .of_pair (.selectLimit counted) (ofId_built "foo" "foo") (.made (.value (.int 1)) nofun)

theorem limitedArm_built : (Part.select limitedArm).Built := by
  have united : (ofId "foo" "foo").union false (.static limited) = .ok limitedArm := rfl
  exact .of_pair (.selectUnion united) (ofId_built "foo" "foo") limited_built

theorem limitedUnion_built : (Part.select limitedUnion).Built := by
  have united : (ofId "foo" "foo").union false (.static (ofId "foo" "foo"))
      = .ok ⟨(ofId "foo" "foo").clauses ++ [.union false (.static (ofId "foo" "foo"))]⟩ := rfl
  have unitedBuilt : (Part.select
      ⟨(ofId "foo" "foo").clauses ++ [.union false (.static (ofId "foo" "foo"))]⟩).Built :=
    .of_pair (.selectUnion united) (ofId_built "foo" "foo") (ofId_built "foo" "foo")
  have counted : Select.limit
      ⟨(ofId "foo" "foo").clauses ++ [.union false (.static (ofId "foo" "foo"))]⟩
      .limit (.value (.int 1)) = .ok limitedUnion := rfl
  exact .of_pair (.selectLimit counted) unitedBuilt (.made (.value (.int 1)) nofun)

theorem limitedArm_written :
    Dialect.generic.writeFrom 1 (limitedArm.tokens .generic)
      = .ok "SELECT foo.id FROM foo UNION ALL SELECT foo.id FROM foo LIMIT 1" := by rfl

/-- A reader does not find the row count in the arm that it was built with. -/
theorem limitedArm_not_read :
    Dialect.generic.writeFrom 1 (limitedArm.tokens .generic)
        = .ok "SELECT foo.id FROM foo UNION ALL SELECT foo.id FROM foo LIMIT 1"
      ∧ ¬ readQuery "SELECT foo.id FROM foo UNION ALL SELECT foo.id FROM foo LIMIT 1"
        = some (limitedArm.unionTree .generic) := by
  refine ⟨limitedArm_written, ?_⟩
  rw [unionTrees_are_read.1 limitedArm limitedArm_built limitedArm_written]
  intro plain
  have isPlain : limited.isPlain = true := plain limited (.head _)
  cases isPlain

/-- Two built selects have the same text in every dialect, but one counts the rows of its arm and
the other one those of the whole union. -/
theorem limitedArm_same_text :
    (Part.select limitedArm).Built ∧ (Part.select limitedUnion).Built
      ∧ (∀ dialect : Dialect, limitedArm.tokens dialect = limitedUnion.tokens dialect)
      ∧ Dialect.generic.write (limitedArm.tokens .generic)
        = .ok "SELECT foo.id FROM foo UNION ALL SELECT foo.id FROM foo LIMIT 1"
      ∧ limitedArm.unionTree .generic ≠ limitedUnion.unionTree .generic := by
  refine ⟨limitedArm_built, limitedUnion_built, fun dialect => rfl, limitedArm_written, ?_⟩
  decide

end Select

end CheckedSql
