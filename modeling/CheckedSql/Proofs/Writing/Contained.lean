import CheckedSql.Proofs.Writing.Mention
import CheckedSql.Proofs.Writing.PartPhrase
import CheckedSql.Proofs.Writing.Piece

/-!
# Names and texts stay in their tokens

Names and texts have arbitrary content, and they stand between keywords and operators.  A
scanner that knows nothing but the two delimiters must still find where each of them starts
and ends, and must not take what is around them for a comment or for the end of the
statement.

A built statement is a phrase, so it is scanned as the pieces of its tokens, which are calm
and have their parentheses in pairs.  The mentions of its tree are among the names and texts
that the scanner finds, in their order (`Statement.mentions_contained`).
-/

namespace CheckedSql

/-- The name or the text that a piece stands for. -/
def Lexeme.mention? (dialect : Dialect) : Lexeme → Option Mention
  | word name => some (.name name)
  | quoted delimiter content =>
      if delimiter = '\'' then some (.text content)
      else if delimiter = dialect.nameDelimiter then some (.name content)
      else none
  | _ => none

section Pieces

variable (dialect : Dialect)

/-- A text is one piece. -/
theorem Token.pieces_text (content : String) :
    (Token.literal (.text content)).pieces dialect = [.quoted '\'' content] := by
  have written : dialect.literal (.text content) = .ok (Dialect.textLiteral content) := rfl
  have read : dialect.scan (Dialect.textLiteral content).toList = some [.quoted '\'' content] := by
    rw [Dialect.textLiteral, String.toList_ofList, Dialect.scan_quotedBy rfl, String.ofList_toList]
  simp only [Token.pieces, written, read, Option.getD_some]

/-- A name or a text is one piece, which stands for it. -/
theorem Token.pieces_of_mention? {token : Token} {mention : Mention}
    (found : token.mention? = some mention) :
    (token.pieces dialect).filterMap (Lexeme.mention? dialect) = [mention] := by
  unfold Token.mention? at found
  split at found
  · next name =>
      cases found
      have notText : dialect.nameDelimiter ≠ '\'' := by cases dialect <;> decide
      rw [Token.pieces]
      split <;> simp [Lexeme.mention?, notText]
  · next content =>
      cases found
      rw [Token.pieces_text]
      rfl
  · cases found

/-- The names and texts in tokens are among those that their pieces stand for. -/
theorem mentionsOf_sublist (tokens : List Token) :
    (mentionsOf tokens).Sublist
      ((dialect.pieces tokens).filterMap (Lexeme.mention? dialect)) := by
  induction tokens with
  | nil => exact .slnil
  | cons token tokens ih =>
      rw [Dialect.pieces_cons, List.filterMap_append, mentionsOf, List.filterMap_cons]
      cases found : token.mention? with
      | none => exact ih.trans (List.sublist_append_right _ _)
      | some mention =>
          rw [Token.pieces_of_mention? dialect found]
          exact ih.cons_cons mention

end Pieces

namespace Statement

/-- The names and texts of a written statement are found in it, each in a token of its own and in
their order, outside of quoted tokens no comment starts and no statement ends, and the parentheses
there are in pairs. -/
theorem mentions_contained {statement : Statement} (built : (Part.statement statement).Built)
    {dialect : Dialect} {sql : String}
    (written : dialect.write (statement.tokens dialect) = .ok sql) :
    ∃ found, dialect.scan sql.toList = some found
      ∧ statement.mentions.Sublist (found.filterMap (Lexeme.mention? dialect))
      ∧ ¬ [.symbol '-', .symbol '-'] <:+: found ∧ ¬ [.symbol '/', .symbol '*'] <:+: found
      ∧ .symbol ';' ∉ found ∧ Balanced [] found := by
  have phrase : Phrase dialect .query (statement.tokens dialect) := built.phrase
  have calm := phrase.isCalm_pieces
  have mentioned := mentionsOf_sublist dialect (statement.tokens dialect)
  rw [statement.mentionsOf_tokens dialect] at mentioned
  exact ⟨_, phrase.scan_writeFrom written, mentioned, no_line_comment_of_isCalm calm,
    no_block_comment_of_isCalm calm, no_semicolon_of_isCalm calm, phrase.balanced_pieces written⟩

/-- A text that ends a statement and starts a comment, under a name with a quote in it. -/
def quotedColumn : Select where
  clauses := [.columns false [.static ⟨.value (.text "';--("), "a\"b", true⟩]]

theorem quotedColumn_built : (Part.select quotedColumn).Built := by
  let columns : List (Entry SelectColumn) := [.static ⟨.value (.text "';--("), "a\"b", true⟩]
  have named : ∀ column ∈ columns, column.value.IsMade := by
    rw [List.forall_mem_singleton]
    exact .inl rfl
  have started : Select.start none columns = .ok quotedColumn := rfl
  refine Select.built_of_start named ?_ started
  rw [List.forall_mem_singleton]
  exact .made (.value (.text "';--(")) nofun

theorem quotedColumn_contained :
    (Part.select quotedColumn).Built
      ∧ Dialect.generic.write ((select quotedColumn).tokens .generic)
        = .ok "SELECT ''';--(' AS \"a\"\"b\""
      ∧ ∃ found, Dialect.generic.scan "SELECT ''';--(' AS \"a\"\"b\"".toList = some found
        ∧ [.text "';--(", .name "a\"b"].Sublist (found.filterMap (Lexeme.mention? .generic))
        ∧ .symbol ';' ∉ found := by
  have written : Dialect.generic.write ((select quotedColumn).tokens .generic)
      = .ok "SELECT ''';--(' AS \"a\"\"b\"" := by rfl
  obtain ⟨found, read, mentioned, -, -, noEnd, -⟩ := mentions_contained quotedColumn_built written
  exact ⟨quotedColumn_built, written, found, read, mentioned, noEnd⟩

end Statement

end CheckedSql
