import CheckedSql.Proofs.Writing.Piece

/-!
# Keys of a reader

A reader decides by fixed texts what it is reading.  A text in front of an operand opens it
(`openings`), a text behind an operand says how the expression goes on (`continuations`), and an
expression ends where no such text follows (`stops`).

No text of a table starts like another one of the same table, as a list of pieces.  So a
reader that looks for a text of a table finds the one that is there (`lookup?_append`).  It is
enough to compare the characters: pieces spell their text, so a text whose pieces are the first
ones of another text is its first part (`keysApart_of_isPrefixFree`).
-/

namespace CheckedSql

/-! ## Looking for a text -/

/-- What stands behind some pieces, if the others start with them. -/
def behind? (key found : List Lexeme) : Option (List Lexeme) :=
  if key.isPrefixOf found then some (found.drop key.length) else none

section Behind

variable {key found : List Lexeme}

@[simp] theorem behind?_append (key rest : List Lexeme) :
    behind? key (key ++ rest) = some rest := by
  simp [behind?]

theorem behind?_eq_none : behind? key found = none ↔ ¬ key <+: found := by
  simp [behind?, List.isPrefixOf_iff_prefix]

end Behind

/-- Whether no text starts with both of these. -/
def keysApart (first second : String) : Bool :=
  !(textPieces first).isPrefixOf (textPieces second)
    && !(textPieces second).isPrefixOf (textPieces first)

theorem keysApart_comm (first second : String) : keysApart first second = keysApart second first :=
  Bool.and_comm _ _

/-- What starts with one of two texts that start apart does not start with the other one. -/
theorem not_prefix_of_keysApart {first second : String}
    (apart : keysApart first second = true) (rest : List Lexeme) :
    ¬ textPieces first <+: textPieces second ++ rest := by
  rw [keysApart, Bool.and_eq_true, Bool.not_eq_true', Bool.not_eq_true', ← Bool.not_eq_true,
    ← Bool.not_eq_true, List.isPrefixOf_iff_prefix, List.isPrefixOf_iff_prefix] at apart
  intro starts
  have second := List.prefix_append (textPieces second) rest
  exact (List.prefix_or_prefix_of_prefix starts second).elim apart.1 apart.2

/-! ## Texts that start apart -/

/-- Whether no one of two texts starts like the other one. -/
def startApart (first second : String) : Bool :=
  !first.toList.isPrefixOf second.toList && !second.toList.isPrefixOf first.toList

theorem spell_textPieces {text : String} (harmless : Harmless text.toList) :
    (textPieces text).flatMap Lexeme.spell = text.toList :=
  Dialect.spell_of_scan (scan_text .generic harmless) (placeholder_not_mem_textPieces harmless)

theorem prefix_of_textPieces {first second : String} (firstHarmless : Harmless first.toList)
    (secondHarmless : Harmless second.toList) (starts : textPieces first <+: textPieces second) :
    first.toList <+: second.toList := by
  obtain ⟨rest, same⟩ := starts
  refine ⟨rest.flatMap Lexeme.spell, ?_⟩
  rw [← spell_textPieces firstHarmless, ← spell_textPieces secondHarmless, ← same,
    List.flatMap_append]

/-- The pieces of texts that start apart do so too. -/
theorem keysApart_of_startApart {first second : String} (firstHarmless : Harmless first.toList)
    (secondHarmless : Harmless second.toList) (apart : startApart first second = true) :
    keysApart first second = true := by
  rw [startApart, Bool.and_eq_true, Bool.not_eq_true', Bool.not_eq_true', ← Bool.not_eq_true,
    ← Bool.not_eq_true, List.isPrefixOf_iff_prefix, List.isPrefixOf_iff_prefix] at apart
  rw [keysApart, Bool.and_eq_true, Bool.not_eq_true', Bool.not_eq_true', ← Bool.not_eq_true,
    ← Bool.not_eq_true, List.isPrefixOf_iff_prefix, List.isPrefixOf_iff_prefix]
  exact ⟨mt (prefix_of_textPieces firstHarmless secondHarmless) apart.1,
    mt (prefix_of_textPieces secondHarmless firstHarmless) apart.2⟩

/-- Whether texts without quotes and marks start apart, each of them from all others. -/
def isPrefixFree : List String → Bool
  | [] => true
  | text :: texts =>
      text.toList.all isHarmless && texts.all (startApart text) && isPrefixFree texts

theorem keysApart_of_isPrefixFree {texts : List String} (free : isPrefixFree texts = true) :
    (∀ text ∈ texts, Harmless text.toList)
      ∧ texts.Pairwise fun first second => keysApart first second = true := by
  induction texts with
  | nil => exact ⟨List.forall_mem_nil _, .nil⟩
  | cons text texts ih =>
      rw [isPrefixFree, Bool.and_eq_true, Bool.and_eq_true, List.all_eq_true,
        List.all_eq_true] at free
      obtain ⟨⟨harmless, apart⟩, others⟩ := free
      obtain ⟨othersHarmless, othersApart⟩ := ih others
      exact ⟨List.forall_mem_cons.2 ⟨harmless, othersHarmless⟩,
        .cons (fun other mem =>
          keysApart_of_startApart harmless (othersHarmless other mem) (apart other mem))
          othersApart⟩

section Tables

variable {α : Type} {table : List (String × α)}

/-- The text of a table that some pieces start with: what it stands for, and what stands behind
it. -/
def lookup? (table : List (String × α)) (found : List Lexeme) : Option (α × List Lexeme) :=
  table.findSome? fun entry =>
    (behind? (textPieces entry.1) found).map fun rest => (entry.2, rest)

theorem lookup?_eq_none {found : List Lexeme} :
    lookup? table found = none ↔ ∀ entry ∈ table, ¬ textPieces entry.1 <+: found := by
  simp [lookup?, behind?_eq_none]

/-- Whether no text of a table starts like another one. -/
def isDistinct : List (String × α) → Bool
  | [] => true
  | entry :: table => table.all (fun other => keysApart entry.1 other.1) && isDistinct table

theorem isDistinct_of_pairwise
    (apart : (table.map Prod.fst).Pairwise fun first second => keysApart first second = true) :
    isDistinct table = true := by
  induction table with
  | nil => rfl
  | cons entry table ih =>
      obtain ⟨first, others⟩ := List.pairwise_cons.1 apart
      rw [isDistinct, Bool.and_eq_true, List.all_eq_true]
      exact ⟨fun other mem => first _ (List.mem_map_of_mem mem), ih others⟩

theorem lookup?_append (distinct : isDistinct table = true) {text : String} {meaning : α}
    (mem : (text, meaning) ∈ table) (rest : List Lexeme) :
    lookup? table (textPieces text ++ rest) = some (meaning, rest) := by
  induction table with
  | nil => cases mem
  | cons entry table ih =>
      rw [isDistinct, Bool.and_eq_true, List.all_eq_true] at distinct
      obtain ⟨first, others⟩ := distinct
      rw [lookup?, List.findSome?_cons]
      rcases List.mem_cons.1 mem with rfl | later
      · simp
      · have apart := not_prefix_of_keysApart (first _ later) rest
        rw [behind?_eq_none.2 apart]
        exact ih others later

end Tables

/-! ## Texts in front of operands -/

/-- What a text in front of an operand opens. -/
inductive Opening where
  | unary (operator : UnaryOperator)
  /-- An expression or a select between parentheses. -/
  | group
  | cases
  | existsIn
  | concat
  | aggregate (function : AggregateFunction)
  /-- A literal that starts with this text, and the number of pieces behind it. -/
  | literal (front : String) (count : Nat)

/-- The aggregate functions. -/
def AggregateFunction.all : List AggregateFunction := [count, sum, avg, min, max]

/-- The texts that open an operand. -/
def openings : List (String × Opening) :=
  ([("-", .unary .negate), ("~", .unary .bitNot), ("NOT ", .unary .not), ("(", .group),
    ("CASE", .cases), ("EXISTS (", .existsIn), ("CONCAT(", .concat)] : List (String × Opening))
  ++ AggregateFunction.all.map (fun function => (function.keyword ++ "(", .aggregate function))
  ++ ([("DATE ", .literal "DATE " 1), ("TIMESTAMP ", .literal "TIMESTAMP " 1),
    ("DATE(", .literal "DATE(" 2), ("STRFTIME(", .literal "STRFTIME(" 5)] :
      List (String × Opening))

theorem openings_prefixFree : isPrefixFree (openings.map Prod.fst) = true := by decide +kernel

theorem openings_nonempty : (openings.all fun entry => !(textPieces entry.1).isEmpty) = true := by
  decide +kernel

theorem openings_distinct : isDistinct openings = true :=
  isDistinct_of_pairwise (keysApart_of_isPrefixFree openings_prefixFree).2

theorem length_pos_of_mem_openings {text : String} {opening : Opening}
    (mem : (text, opening) ∈ openings) : 0 < (textPieces text).length := by
  have nonempty := List.all_eq_true.1 openings_nonempty _ mem
  rw [Bool.not_eq_true', List.isEmpty_eq_false_iff] at nonempty
  exact List.length_pos_iff.2 nonempty

/-! ## Texts behind operands -/

/-- How an expression goes on behind its first operand. -/
inductive Continuation where
  | unary (operator : UnaryOperator)
  | within (negated : Bool)
  | between
  | concat
  | chain (connective : Connective)
  | binary (operator : Operator)

/-- The texts behind the first operand of an expression. -/
def continuations : List (String × Continuation) :=
  ([(" IS NULL", .unary .isNull), (" IS NOT NULL", .unary .isNotNull), (" IN (", .within false),
    (" NOT IN (", .within true), (" BETWEEN ", .between), (" || ", .concat)] :
      List (String × Continuation))
  ++ [.and, .or].map (fun connective : Connective =>
    (" " ++ connective.operator.symbol ++ " ", .chain connective))
  ++ (Operator.all.filter fun operator => operator.connective? = none).map fun operator =>
    (" " ++ operator.symbol ++ " ", .binary operator)

theorem mem_continuations_chain (connective : Connective) :
    (" " ++ connective.operator.symbol ++ " ", .chain connective) ∈ continuations :=
  List.mem_append_left _
    (List.mem_append_right _ (List.mem_map_of_mem (by cases connective <;> simp)))

/-- An operator that forms no chain stands between two operands. -/
theorem mem_continuations_binary {operator : Operator} (noChain : operator.connective? = none) :
    (" " ++ operator.symbol ++ " ", .binary operator) ∈ continuations :=
  List.mem_append_right _ (List.mem_map_of_mem
    (List.mem_filter.2 ⟨operator.mem_all, by simp [noChain]⟩))

/-! ## Texts behind expressions -/

/-- The texts behind an expression that stands in another one. -/
def stops : List String := [" WHEN ", " THEN ", " ELSE ", " END", ")", ", "]

/-- Whether a piece is a blank, a parenthesis or a comma. -/
def Lexeme.isBreak : Lexeme → Bool
  | symbol c => c == ' ' || c == '(' || c == ')' || c == ','
  | _ => false

/-- The texts that may stand behind an operand. -/
def behindOperands : List String := stops ++ continuations.map Prod.fst

-- What makes a window function of an aggregate function stands in front, to be told from them all.
theorem behindOperands_prefixFree : isPrefixFree (" OVER()" :: behindOperands) = true := by
  decide +kernel

theorem behindOperands_isBreak :
    (behindOperands.all fun text => (textPieces text).head?.any Lexeme.isBreak) = true := by
  decide +kernel

theorem keysApart_over {text : String} (mem : text ∈ behindOperands) :
    keysApart " OVER()" text = true :=
  (List.pairwise_cons.1 (keysApart_of_isPrefixFree behindOperands_prefixFree).2).1 text mem

theorem behindOperands_apart :
    behindOperands.Pairwise fun first second => keysApart first second = true :=
  (List.pairwise_cons.1 (keysApart_of_isPrefixFree behindOperands_prefixFree).2).2

theorem continuations_distinct : isDistinct continuations = true :=
  isDistinct_of_pairwise (List.pairwise_append.1 behindOperands_apart).2.1

theorem exists_break_of_mem_behindOperands {text : String} (mem : text ∈ behindOperands) :
    ∃ lexeme others, textPieces text = lexeme :: others ∧ lexeme.isBreak = true := by
  have isBreak := List.all_eq_true.1 behindOperands_isBreak text mem
  cases pieces : textPieces text with
  | nil =>
      rw [pieces] at isBreak
      cases isBreak
  | cons lexeme others =>
      rw [pieces] at isBreak
      exact ⟨lexeme, others, rfl, isBreak⟩

section Continuations

variable {text : String} {continuation : Continuation}

theorem mem_behindOperands_of_mem_continuations (mem : (text, continuation) ∈ continuations) :
    text ∈ behindOperands :=
  List.mem_append_right _ (List.mem_map.2 ⟨_, mem, rfl⟩)

theorem keysApart_of_mem_continuations (mem : (text, continuation) ∈ continuations)
    {stop : String} (isStop : stop ∈ stops) : keysApart text stop = true := by
  rw [keysApart_comm]
  exact (List.pairwise_append.1 behindOperands_apart).2.2 stop isStop text
    (List.mem_map.2 ⟨_, mem, rfl⟩)

theorem length_pos_of_mem_continuations (mem : (text, continuation) ∈ continuations) :
    0 < (textPieces text).length := by
  obtain ⟨lexeme, others, pieces, -⟩ :=
    exists_break_of_mem_behindOperands (mem_behindOperands_of_mem_continuations mem)
  rw [pieces]
  exact Nat.succ_pos _

end Continuations

/-- An expression ends in front of these pieces. -/
def Ends (rest : List Lexeme) : Prop := rest = [] ∨ ∃ text ∈ stops, textPieces text <+: rest

/-- An operand ends in front of these pieces. -/
def Follows (rest : List Lexeme) : Prop :=
  Ends rest ∨ ∃ entry ∈ continuations, textPieces entry.1 <+: rest

section Endings

variable {rest : List Lexeme}

theorem ends_append {text : String} (mem : text ∈ stops) (rest : List Lexeme) :
    Ends (textPieces text ++ rest) :=
  .inr ⟨text, mem, List.prefix_append _ _⟩

theorem follows_append {text : String} {continuation : Continuation}
    (mem : (text, continuation) ∈ continuations) (rest : List Lexeme) :
    Follows (textPieces text ++ rest) :=
  .inr ⟨(text, continuation), mem, List.prefix_append _ _⟩

/-- Where an expression ends, it does not go on. -/
theorem Ends.lookup?_eq_none (ends : Ends rest) : lookup? continuations rest = none := by
  refine CheckedSql.lookup?_eq_none.2 ?_
  rintro ⟨text, continuation⟩ mem starts
  rcases ends with rfl | ⟨stop, isStop, behind, rfl⟩
  · have positive := length_pos_of_mem_continuations mem
    rw [List.prefix_nil.1 starts] at positive
    exact Nat.lt_irrefl 0 positive
  · exact not_prefix_of_keysApart (keysApart_of_mem_continuations mem isStop) behind starts

/-- Where an expression ends, there is none of the texts that it could go on with. -/
theorem Ends.behind?_eq_none (ends : Ends rest) {text : String} {continuation : Continuation}
    (mem : (text, continuation) ∈ continuations) : behind? (textPieces text) rest = none :=
  CheckedSql.behind?_eq_none.2
    (CheckedSql.lookup?_eq_none.1 ends.lookup?_eq_none (text, continuation) mem)

/-- An operand ends in front of nothing, or of a text behind operands. -/
theorem Follows.eq_nil_or_exists (follows : Follows rest) :
    rest = [] ∨ ∃ text ∈ behindOperands, ∃ behind, rest = textPieces text ++ behind := by
  rcases follows with (rfl | ⟨text, mem, behind, rfl⟩) | ⟨⟨text, _⟩, mem, behind, rfl⟩
  · exact .inl rfl
  · exact .inr ⟨text, List.mem_append_left _ mem, behind, rfl⟩
  · exact .inr ⟨text, mem_behindOperands_of_mem_continuations mem, behind, rfl⟩

/-- A blank, a parenthesis or a comma stands behind an operand. -/
theorem Follows.isBreak_head? (follows : Follows rest) : rest.head?.all Lexeme.isBreak = true := by
  rcases follows.eq_nil_or_exists with rfl | ⟨text, mem, behind, rfl⟩
  · rfl
  · obtain ⟨lexeme, others, pieces, isBreak⟩ := exists_break_of_mem_behindOperands mem
    rw [pieces]
    exact isBreak

/-- What turns an aggregate function into a window function does not stand behind an operand. -/
theorem Follows.behind?_over (follows : Follows rest) :
    behind? (textPieces " OVER()") rest = none := by
  refine behind?_eq_none.2 fun starts => ?_
  rcases follows.eq_nil_or_exists with rfl | ⟨text, mem, behind, rfl⟩
  · exact absurd (List.prefix_nil.1 starts) (by decide)
  · exact not_prefix_of_keysApart (keysApart_over mem) behind starts

end Endings

end CheckedSql
