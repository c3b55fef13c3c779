import CheckedSql.Proofs.Grouping.Segment
import CheckedSql.Proofs.Writing.PartPhrase

/-!
# Trees of unions

An arm of a union is a select of its own.  It may have a union, a sort order and row
counts, and `Select.unionTree` is the tree that the building calls describe.  The arm is
written without parentheses, though.  A reader takes united selects from left to right,
and what stands behind the last one belongs to the whole union.

So `UnionTree.read?` never finds more than a plain select in an arm, and it finds no union
behind a sort order or a row count (`UnionTree.isReadable_read?`).  The arms in such a
tree are plain selects (`Select.armsArePlain_of_isReadable`).  Definitions in front of a
select belong to it here, as nothing of what holds a union together stands in them.
-/

namespace CheckedSql

/-- Selects that are united, with the sort orders and the row counts behind them. -/
inductive UnionTree where
  /-- A select without a union, a sort order and a row count. -/
  | plain (found : List Lexeme)
  | union (left : UnionTree) (distinct : Bool) (arm : UnionTree)
  /-- A query with a sort order or a row count at its end. -/
  | ended (query : UnionTree) (found : List Lexeme)
  deriving DecidableEq, Repr

/-! ## What is built -/

/-- Whether the clause belongs to the whole union that it stands behind. -/
def Clause.isEnd : Clause → Bool
  | .orderBy _ | .limit _ _ => true
  | _ => false

namespace UnionTree

/-- Whether the tree is a single plain select. -/
def isPlain : UnionTree → Bool
  | plain _ => true
  | _ => false

/-- Whether a sort order or a row count stands at the end of the query. -/
def isEnded : UnionTree → Bool
  | ended _ _ => true
  | _ => false

/-- The query with a clause behind it, which is written as `found`. -/
def followedBy (isEnd : Bool) (found : List Lexeme) : UnionTree → UnionTree
  | plain core =>
      if isEnd && !found.isEmpty then ended (plain core) found else plain (core ++ found)
  | query => if found.isEmpty then query else ended query found

end UnionTree

mutual

/-- The tree that a select describes. -/
def Select.unionTree (dialect : Dialect) : Select → UnionTree
  | ⟨clauses⟩ => Clause.extendAll dialect (.plain []) clauses

/-- The query with clauses behind it. -/
def Clause.extendAll (dialect : Dialect) (query : UnionTree) : List Clause → UnionTree
  | [] => query
  | clause :: clauses => Clause.extendAll dialect (Clause.extend dialect query clause) clauses

/-- The query with a clause behind it. -/
def Clause.extend (dialect : Dialect) (query : UnionTree) : Clause → UnionTree
  | .union distinct ⟨presence, arm⟩ =>
      if presence.isActive then .union query distinct (Select.unionTree dialect arm) else query
  | clause => query.followedBy clause.isEnd (dialect.lexemesOf (clause.tokens dialect))

end

/-- The query with the active arms of a common table expression behind it. -/
def CteArm.extendAll (dialect : Dialect) (query : UnionTree) : List CteArm → UnionTree
  | [] => query
  | arm :: arms =>
      CteArm.extendAll dialect
        (if arm.select.isActive then
          .union query arm.distinct (arm.select.value.unionTree dialect) else query) arms

/-- The tree that a common table expression describes. -/
def Cte.unionTree (dialect : Dialect) (cte : Cte) : UnionTree :=
  CteArm.extendAll dialect (cte.base.unionTree dialect) cte.arms

/-! ## What is read -/

namespace UnionTree

/-- Whether equal rows of a union are taken once, and the lexemes of its arm. -/
def distinctArm : List Lexeme → Bool × List Lexeme
  | .word word :: arm =>
      if asciiUpper word = "ALL" then (false, arm)
      else if asciiUpper word = "DISTINCT" then (true, arm)
      else (true, .word word :: arm)
  | arm => (true, arm)

/-- The query with one more segment.  A union does not go on behind a sort order or a row count. -/
def next? (query : UnionTree) : List Lexeme → Option UnionTree
  | [] => none
  | keyword :: found =>
      if keyword.isOneOf ["UNION"] then
        if query.isEnded then none
        else some (union query (distinctArm found).1 (plain (distinctArm found).2))
      else some (ended query (keyword :: found))

/-- The tree that a reader finds. -/
def read? (found : List Lexeme) : Option UnionTree :=
  let cut := segments unionWords 0 found
  cut.rest.foldlM next? (plain cut.front)

end UnionTree

/-- The tree that a reader finds in a text. -/
def readQuery (sql : String) : Option UnionTree := (lexemes sql.toList).bind UnionTree.read?

/-- The tree that a reader finds in the definition of a name, between the parentheses. -/
def readDefinition (sql : String) : Option UnionTree :=
  (lexemes sql.toList).bind fun found => UnionTree.read? (found.drop 3).dropLast

/-! ## Plain selects -/

/-- Whether the clause is written and makes more of its select than a plain one. -/
def Clause.isOpen : Clause → Bool
  | .union _ arm => arm.isActive
  | .orderBy orders => orders.any Entry.isActive
  | .limit _ _ => true
  | _ => false

/-- The arm of a union, if it is written. -/
def Clause.arms : Clause → List Select
  | .union _ arm => activeValues [arm]
  | _ => []

namespace Select

/-- Whether no union, no sort order and no row count of the select is written. -/
def isPlain (select : Select) : Bool := !select.clauses.any Clause.isOpen

/-- Whether a sort order or a row count is written at the end of the select. -/
def isEnded (select : Select) : Bool :=
  select.clauses.any fun clause => clause.isEnd && clause.isOpen

/-- Every arm of the union that is written is a plain select. -/
def ArmsArePlain (select : Select) : Prop :=
  ∀ arm ∈ select.clauses.flatMap Clause.arms, arm.isPlain = true

end Select

/-- Every arm that is written is a plain select, and no sort order or row count of the base stands
in front of one. -/
def Cte.ArmsArePlain (cte : Cte) : Prop :=
  cte.base.ArmsArePlain ∧ ∀ arm ∈ activeValues (cte.arms.map CteArm.select),
    cte.base.isEnded = false ∧ arm.isPlain = true

section Clauses

variable {dialect : Dialect} {query : UnionTree} {clause : Clause}

namespace Clause

/-- A written clause is a union or stands at the end of one. -/
theorem union_or_isEnd (isOpen : clause.isOpen = true) :
    (∃ distinct arm, clause = .union distinct arm ∧ arm.isActive = true)
      ∨ clause.isEnd = true := by
  cases clause with
  | union distinct arm => exact .inl ⟨distinct, arm, rfl, isOpen⟩
  | orderBy | limit => exact .inr rfl
  | _ => cases isOpen

theorem extend_of_not_union (notUnion : ∀ distinct arm, clause ≠ .union distinct arm) :
    extend dialect query clause
      = query.followedBy clause.isEnd (dialect.lexemesOf (clause.tokens dialect)) := by
  cases clause with
  | union distinct arm => exact absurd rfl (notUnion distinct arm)
  | _ => rfl

theorem extend_union {distinct : Bool} {arm : Entry Select} (active : arm.isActive = true) :
    extend dialect query (.union distinct arm)
      = .union query distinct (arm.value.unionTree dialect) := by
  obtain ⟨presence, select⟩ := arm
  exact if_pos active

/-- A clause that is not written changes nothing. -/
theorem extend_closed (isLate : clause.level = .query) (closed : clause.isOpen = false) :
    clause.tokens dialect = [] ∧ extend dialect query clause = query := by
  cases clause with
  | union distinct arm =>
      obtain ⟨presence, select⟩ := arm
      have inactive : presence.isActive = false := closed
      exact ⟨by rw [tokens, inactive]; rfl, by rw [extend, inactive]; rfl⟩
  | orderBy orders =>
      have none : activeValues orders = [] := by
        rw [activeValues, List.map_eq_nil_iff, List.filter_eq_nil_iff]
        exact fun order mem isActive => by
          rw [isOpen, ← Bool.not_eq_true] at closed
          exact closed (List.any_eq_true.2 ⟨order, mem, isActive⟩)
      have vanishes : (Clause.orderBy orders).tokens dialect = [] := by
        rw [tokens, SortOrder.activeTokens_eq, none]
        rfl
      refine ⟨vanishes, ?_⟩
      rw [@extend_of_not_union dialect query (.orderBy orders) (by rintro _ _ ⟨⟩), vanishes]
      cases query with
      | plain core => exact congrArg UnionTree.plain (List.append_nil core)
      | union | ended => rfl
  | limit => cases closed
  | _ => cases isLate

variable (dialect) in
/-- A sort order or a row count that is written starts with a word of unions. -/
theorem exists_keyword (isEnd : clause.isEnd = true) (isOpen : clause.isOpen = true) :
    ∃ keyword content, dialect.lexemesOf (clause.tokens dialect) = keyword :: content
      ∧ keyword.isOneOf unionWords = true ∧ keyword.isOneOf ["UNION"] = false
      ∧ ((∀ part ∈ clause.parts, part.IsPhrase dialect) → Balanced unionWords content) := by
  cases clause with
  | orderBy orders =>
      have orderBy : (Token.text " ORDER BY ").lexemes dialect
          = [.word "ORDER", .word "BY"] := Token.lexemes_text (by decide)
      have written : (activeValues orders).map (SortOrder.tokens dialect) ≠ [] := by
        obtain ⟨order, mem, active⟩ := List.any_eq_true.1 isOpen
        exact List.ne_nil_of_mem
          (List.mem_map_of_mem (List.mem_map_of_mem (List.mem_filter.2 ⟨mem, active⟩)))
      have tokens : (Clause.orderBy orders).tokens dialect
          = .text " ORDER BY " :: Token.withCommas (SortOrder.activeTokens dialect orders) := by
        rw [Clause.tokens, SortOrder.activeTokens_eq, listClauseTokens, List.isEmpty_eq_false_iff.2
          written]
        rfl
      refine ⟨.word "ORDER", _, by rw [tokens, Dialect.lexemesOf_cons, orderBy]; rfl, by decide,
        by decide, fun parts => .cons rfl ?_⟩
      have list : Phrase dialect .expression _ := .withCommas (SortOrder.phrase_active
        fun order mem => parts _ (List.mem_map_of_mem mem))
      exact list.balanced.weaken (Level.stops_subset .table)
  | limit kind count =>
      have keyword : (Token.text (" " ++ kind.keyword ++ " ")).lexemes dialect
          = [.word kind.keyword] := Token.lexemes_text (by cases kind <;> decide)
      refine ⟨.word kind.keyword, _, by rw [tokens, Dialect.lexemesOf_cons, keyword]; rfl, ?_, ?_,
        fun parts => ?_⟩
      · cases kind <;> decide
      · cases kind <;> decide
      · have counted : Phrase dialect .expression (count.tokens dialect) := parts _ (.head _)
        exact counted.balanced.weaken (Level.stops_subset .table)
  | _ => cases isEnd

/-- A sort order or a row count that is written belongs to the query in front of it. -/
theorem extend_end (isEnd : clause.isEnd = true) (isOpen : clause.isOpen = true) :
    extend dialect query clause
      = .ended query (dialect.lexemesOf (clause.tokens dialect)) := by
  obtain ⟨keyword, content, found, -⟩ := exists_keyword dialect isEnd isOpen
  have notUnion : ∀ distinct arm, clause ≠ .union distinct arm := by
    rintro distinct arm rfl
    cases isEnd
  rw [extend_of_not_union notUnion, isEnd, found]
  cases query <;> rfl

/-- Any other clause is a piece of its select. -/
theorem extend_core (isCore : clause.level = .table) (found : List Lexeme) :
    extend dialect (.plain found) clause
      = .plain (found ++ dialect.lexemesOf (clause.tokens dialect)) := by
  cases clause with
  | union | orderBy | limit => cases isCore
  | _ => rfl

/-! ### Lists of clauses -/

theorem extendAll_append (query : UnionTree) (first second : List Clause) :
    extendAll dialect query (first ++ second)
      = extendAll dialect (extendAll dialect query first) second := by
  induction first generalizing query with
  | nil => rw [List.nil_append, extendAll]
  | cons clause first ih => rw [List.cons_append, extendAll, extendAll, ih]

theorem extendAll_core {clauses : List Clause} (areCore : ∀ clause ∈ clauses, clause.level = .table)
    (found : List Lexeme) :
    extendAll dialect (.plain found) clauses
      = .plain (found ++ dialect.lexemesOf (listTokens dialect clauses)) := by
  induction clauses generalizing found with
  | nil => rw [extendAll, listTokens, Dialect.lexemesOf_nil, List.append_nil]
  | cons clause clauses ih =>
      obtain ⟨isCore, others⟩ := List.forall_mem_cons.1 areCore
      rw [extendAll, extend_core isCore, ih others, listTokens, Dialect.lexemesOf_append,
        List.append_assoc]

theorem extendAll_closed {clauses : List Clause}
    (areLate : ∀ clause ∈ clauses, clause.level = .query)
    (areClosed : ∀ clause ∈ clauses, clause.isOpen = false) :
    listTokens dialect clauses = [] ∧ extendAll dialect query clauses = query := by
  induction clauses with
  | nil => exact ⟨by rw [listTokens], by rw [extendAll]⟩
  | cons clause clauses ih =>
      obtain ⟨isLate, othersLate⟩ := List.forall_mem_cons.1 areLate
      obtain ⟨closed, othersClosed⟩ := List.forall_mem_cons.1 areClosed
      obtain ⟨vanishes, same⟩ := @extend_closed dialect query clause isLate closed
      obtain ⟨othersVanish, othersSame⟩ := ih othersLate othersClosed
      exact ⟨by rw [listTokens, vanishes, othersVanish]; rfl, by rw [extendAll, same, othersSame]⟩

end Clause

end Clauses

/-! ## Readable trees -/

namespace UnionTree

/-- Whether a reader may find the tree. -/
def isReadable : UnionTree → Bool
  | plain _ => true
  | union left _ arm => left.isReadable && !left.isEnded && arm.isPlain
  | ended query _ => query.isReadable

variable {query tree : UnionTree} {found segment : List Lexeme}

theorem isReadable_next? (readable : query.isReadable = true)
    (read : next? query segment = some tree) : tree.isReadable = true := by
  cases segment with
  | nil => cases read
  | cons keyword found =>
      rw [next?] at read
      split at read
      · split at read
        · cases read
        · next notEnded =>
            cases read
            simp [isReadable, readable, notEnded, isPlain]
      · cases read
        exact readable

theorem isReadable_foldlM {segments : List (List Lexeme)} (readable : query.isReadable = true)
    (read : segments.foldlM next? query = some tree) : tree.isReadable = true := by
  induction segments generalizing query with
  | nil =>
      cases read
      exact readable
  | cons segment segments ih =>
      obtain ⟨next, found, rest⟩ := Option.bind_eq_some_iff.1 read
      exact ih (isReadable_next? readable found) rest

/-- A reader finds readable trees only. -/
theorem isReadable_read? (read : read? found = some tree) : tree.isReadable = true :=
  isReadable_foldlM rfl read

theorem isReadable_followedBy (isEnd : Bool) (found : List Lexeme) :
    (query.followedBy isEnd found).isReadable = query.isReadable := by
  cases query <;> simp only [followedBy] <;> split <;> rfl

theorem isPlain_of_followedBy {isEnd : Bool}
    (plain : (query.followedBy isEnd found).isPlain = true) : query.isPlain = true := by
  cases query with
  | plain => rfl
  | union | ended =>
      simp only [followedBy] at plain
      split at plain <;> cases plain

end UnionTree

section Readable

variable {dialect : Dialect} {query : UnionTree} {clauses : List Clause}

namespace Clause

theorem isReadable_of_extend {clause : Clause}
    (readable : (extend dialect query clause).isReadable = true) : query.isReadable = true := by
  cases clause with
  | union distinct arm =>
      obtain ⟨presence, select⟩ := arm
      rw [extend] at readable
      split at readable
      · rw [UnionTree.isReadable, Bool.and_eq_true, Bool.and_eq_true] at readable
        exact readable.1.1
      · exact readable
  | _ =>
      rw [extend_of_not_union] at readable
      · rwa [UnionTree.isReadable_followedBy] at readable
      · exact nofun

theorem isPlain_of_extend {clause : Clause}
    (plain : (extend dialect query clause).isPlain = true) :
    query.isPlain = true ∧ clause.isOpen = false := by
  cases isOpen : clause.isOpen with
  | true =>
      rcases union_or_isEnd isOpen with ⟨distinct, arm, rfl, active⟩ | isEnd
      · rw [extend_union active] at plain
        cases plain
      · rw [extend_end isEnd isOpen] at plain
        cases plain
  | false =>
      refine ⟨?_, rfl⟩
      cases clause with
      | union distinct arm =>
          obtain ⟨presence, select⟩ := arm
          have inactive : presence.isActive = false := isOpen
          rwa [extend, inactive] at plain
      | _ => exact UnionTree.isPlain_of_followedBy plain

theorem isReadable_of_extendAll (readable : (extendAll dialect query clauses).isReadable = true) :
    query.isReadable = true := by
  induction clauses generalizing query with
  | nil => rwa [extendAll] at readable
  | cons clause clauses ih =>
      rw [extendAll] at readable
      exact isReadable_of_extend (ih readable)

theorem isPlain_of_extendAll (plain : (extendAll dialect query clauses).isPlain = true) :
    query.isPlain = true ∧ ∀ clause ∈ clauses, clause.isOpen = false := by
  induction clauses generalizing query with
  | nil =>
      rw [extendAll] at plain
      exact ⟨plain, nofun⟩
  | cons clause clauses ih =>
      rw [extendAll] at plain
      obtain ⟨extended, others⟩ := ih plain
      obtain ⟨queryPlain, closed⟩ := isPlain_of_extend extended
      exact ⟨queryPlain, List.forall_mem_cons.2 ⟨closed, others⟩⟩

end Clause

theorem Select.isPlain_of_unionTree {select : Select}
    (plain : (select.unionTree dialect).isPlain = true) : select.isPlain = true := by
  obtain ⟨clauses⟩ := select
  rw [unionTree] at plain
  rw [isPlain, Bool.not_eq_true', List.any_eq_false]
  exact fun clause mem => Bool.not_eq_true _ ▸ (Clause.isPlain_of_extendAll plain).2 clause mem

/-- The arms in a readable tree are plain selects. -/
theorem Clause.arms_of_isReadable (readable : (extendAll dialect query clauses).isReadable = true) :
    ∀ arm ∈ clauses.flatMap Clause.arms, arm.isPlain = true := by
  induction clauses generalizing query with
  | nil => exact nofun
  | cons clause clauses ih =>
      rw [extendAll] at readable
      rw [List.flatMap_cons, List.forall_mem_append]
      refine ⟨fun arm mem => ?_, ih readable⟩
      cases clause with
      | union distinct entry =>
          obtain ⟨found, foundMem, rfl⟩ := List.mem_map.1 mem
          obtain ⟨isEntry, active⟩ := List.mem_filter.1 foundMem
          obtain rfl := List.mem_singleton.1 isEntry
          have extended := isReadable_of_extendAll readable
          rw [extend_union active, UnionTree.isReadable, Bool.and_eq_true] at extended
          exact Select.isPlain_of_unionTree extended.2
      | _ => cases mem

theorem Select.armsArePlain_of_isReadable {select : Select}
    (readable : (select.unionTree dialect).isReadable = true) : select.ArmsArePlain := by
  obtain ⟨clauses⟩ := select
  rw [unionTree] at readable
  exact Clause.arms_of_isReadable readable

end Readable

end CheckedSql
