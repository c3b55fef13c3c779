import CheckedSql.Proofs.Grouping.UnionReading
import CheckedSql.Proofs.Recovery.Leaf
import CheckedSql.Proofs.Writing.Unwritable

/-!
# Reading selects inside of expressions

A select stands between parentheses, and its own parentheses are in pairs.  So it ends with
the first one that closes what it has not opened (`readGroup_append`), and its pieces give its
text, if its placeholders are counted from 1 again (`Dialect.spellFrom_pieces`).
-/

namespace CheckedSql

/-! ## Texts of pieces -/

namespace Dialect

variable {dialect : Dialect}

theorem spellFrom_append {found : List Lexeme} (noPlaceholder : .placeholder ∉ found)
    (position : Nat) (rest : List Lexeme) :
    dialect.spellFrom position (found ++ rest)
      = found.flatMap Lexeme.spell ++ dialect.spellFrom position rest := by
  induction found with
  | nil => rfl
  | cons lexeme found ih =>
      rw [List.mem_cons, not_or] at noPlaceholder
      cases lexeme with
      | placeholder => exact absurd rfl noPlaceholder.1
      | word | quoted | symbol => simp [spellFrom, ih noPlaceholder.2]

/-- Pieces spell what is written, with the placeholders counted from the same number. -/
theorem spellFrom_pieces {tokens : List Token}
    (harmless : ∀ text, .text text ∈ tokens → Harmless text.toList) {position : Nat} {sql : String}
    (written : dialect.writeFrom position tokens = .ok sql) :
    dialect.spellFrom position (dialect.pieces tokens) = sql.toList := by
  induction tokens generalizing position sql with
  | nil =>
      obtain rfl := Except.ok.inj written
      rfl
  | cons token tokens ih =>
      obtain ⟨text, textWritten, rest⟩ := bind_eq_ok.1 written
      obtain ⟨behind, behindWritten, same⟩ := bind_eq_ok.1 rest
      obtain rfl := pure_eq_ok.1 same
      have others := ih (fun other mem => harmless other (.tail _ mem)) behindWritten
      have known (noPlaceholder : .placeholder ∉ token.pieces dialect)
          (read : dialect.scan text.toList = some (token.pieces dialect))
          (noParameter : token.parameter? = none) :
          dialect.spellFrom position (dialect.pieces (token :: tokens))
            = (text ++ behind).toList := by
        rw [noParameter] at others
        rw [pieces_cons, spellFrom_append noPlaceholder, spell_of_scan read noPlaceholder,
          String.toList_append]
        exact congrArg _ others
      cases token with
      | text content =>
          obtain rfl := Except.ok.inj textWritten
          have contentHarmless := harmless content (.head _)
          exact known (placeholder_not_mem_textPieces contentHarmless)
            (scan_text dialect contentHarmless) rfl
      | identifier name =>
          refine known ?_ (Token.scan_writeToken rfl textWritten) rfl
          rw [Token.pieces]
          split <;> simp
      | literal value =>
          obtain ⟨read, shape⟩ := Token.pieces_literal textWritten
          exact known shape.known.2 read rfl
      | placeholder parameter =>
          obtain rfl := Except.ok.inj textWritten
          rw [String.toList_append]
          exact congrArg _ others

end Dialect

/-! ## Selects between parentheses -/

section Selects

variable {dialect : Dialect} {found : List Lexeme} {words : List String}

/-- Balanced pieces close nothing that they have not opened. -/
theorem readGroup_append (balanced : Balanced words found) (depth : Nat) (rest : List Lexeme) :
    readGroup depth (found ++ rest)
      = (readGroup depth rest).map fun (inner, behind) => (found ++ inner, behind) := by
  induction balanced generalizing depth rest with
  | nil => simp
  | @cons words lexeme others flat _ ih =>
      rw [Lexeme.isFlat, Bool.and_eq_true, Bool.not_eq_true'] at flat
      have notClosing : lexeme ≠ .symbol ')' := by
        rintro rfl
        cases flat.1
      rw [List.cons_append, readGroup, if_neg (by simp [notClosing]),
        Lexeme.depthBehind_of_not_parenthesis flat.1, ih]
      simp [Function.comp_def]
  | @group words inner others _ _ innerIh ih =>
      have opened : readGroup depth (.symbol '(' :: (inner ++ .symbol ')' :: (others ++ rest)))
          = (readGroup (depth + 1) (inner ++ .symbol ')' :: (others ++ rest))).map
            fun (found, behind) => (.symbol '(' :: found, behind) := by
        simp [readGroup, Lexeme.depthBehind]
      have closed : readGroup (depth + 1) (.symbol ')' :: (others ++ rest))
          = (readGroup depth (others ++ rest)).map
            fun (found, behind) => (.symbol ')' :: found, behind) := by
        simp [readGroup, Lexeme.depthBehind]
      rw [List.cons_append, List.append_assoc, List.cons_append, opened, innerIh, closed, ih]
      simp [Function.comp_def]

/-- A select starts with `SELECT` or with its definitions. -/
theorem Select.startsSelect_pieces {select : Select} (built : (Part.select select).Built)
    (rest : List Lexeme) :
    startsSelect (dialect.pieces (select.tokens dialect) ++ rest) = true := by
  obtain ⟨definitions, head, others, late, clauses, defined, rank, allowed, -⟩ :=
    (Statement.ordered_of_built built).split_select
  have keyword {text : String} (starts : startsSelect (textPieces text) = true)
      (tokens : List Token) :
      startsSelect (dialect.pieces (.text text :: tokens) ++ rest) = true := by
    obtain ⟨lexeme, isFirst, isWord⟩ := (Option.any_eq_true _ _).1 starts
    rw [startsSelect, Dialect.pieces_cons, List.append_assoc, List.head?_append, Token.pieces,
      isFirst]
    exact isWord
  have selects (tokens : List Token) :
      startsSelect (dialect.pieces (head.tokens dialect ++ tokens) ++ rest) = true := by
    cases head with
    | columns distinct columns =>
        refine keyword ?_ _
        cases distinct <;> decide
    | limit kind count => cases kind <;> cases rank
    | target kind table => cases kind <;> cases allowed
    | _ => cases rank
  obtain ⟨found⟩ := select
  obtain rfl : found = definitions ++ head :: others ++ late := clauses
  rw [Select.tokens, List.append_assoc, List.cons_append, Clause.listTokens_append,
    Clause.listTokens]
  rcases defined with rfl | ⟨ctes, rfl⟩
  · exact selects _
  · rw [Clause.listTokens, Clause.listTokens, List.append_nil, Clause.tokens, withTokens]
    split
    · exact selects _
    · refine keyword ?_ _
      split <;> decide

/-- A select between parentheses is read as its text. -/
theorem readSelect_append {select : Select} (built : (Part.select select).Built)
    (canWrite : dialect.CanWrite (select.tokens dialect)) (rest : List Lexeme) :
    readSelect dialect (dialect.pieces (select.tokens dialect) ++ .symbol ')' :: rest)
      = some (dialect.selectText select, rest) := by
  have phrase : Phrase dialect .query (select.tokens dialect) := built.phrase.select
  obtain ⟨sql, written⟩ := canWrite.exists_writeFrom 1
  have text : dialect.selectText select = sql := by
    rw [Dialect.selectText, Dialect.write, written]
    rfl
  have spelled : dialect.spellFrom 1 (dialect.pieces (select.tokens dialect)) = sql.toList :=
    Dialect.spellFrom_pieces (fun _ mem => phrase.harmless_of_mem mem) written
  rw [readSelect, readGroup_append (phrase.balanced_pieces written)]
  simp [readGroup, spelled, text]

end Selects

end CheckedSql
