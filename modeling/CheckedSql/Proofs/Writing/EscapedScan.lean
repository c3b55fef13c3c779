import CheckedSql.Proofs.Writing.Contained
import CheckedSql.Proofs.Writing.Escape

/-!
# Scanning a statement with escapes

`Dialect.scanEscaped` is the scanner of a dialect, but for the texts between single quotes,
which it reads with escapes.  That is how MySQL reads a statement if nothing else is set up.
Names have no escapes.

As long as no backslash takes a quote, the scanner finds the same lexemes as the one that
knows no escapes, and only resolves the escapes in texts
(`Dialect.scanEscapedFrom_of_leavesQuotes`).  It finds exactly the same if and only if every
escape in a text stands for itself (`Dialect.isVerbatim_of_scanEscapedFrom`).  In a statement
for MySQL backslashes stand in the texts of the statement only, so both depend on these
texts alone (`Statement.texts_read_with_escapes`).
-/

namespace CheckedSql

/-! ## The scanner -/

namespace Dialect

variable (dialect : Dialect)

/-- What is found in a text whose quoted texts have escapes, if a lexeme is being read. -/
def scanEscapedFrom (state : Lexing) : List Char → Option (List Lexeme)
  | [] => state.finish?
  | c :: rest =>
      match state.next? c with
      | some next => scanEscapedFrom next rest
      | none =>
          if c = '\'' then
            match _closed : readEscapedRest? rest with
            | none => none
            | some (content, after) =>
                (scanEscapedFrom .between after).map
                  (state.finish?.getD [] ++ .quoted c (.ofList content) :: ·)
          else
            (scanEscapedFrom (dialect.scanStart c).2 rest).map
              (state.finish?.getD [] ++ (dialect.scanStart c).1 ++ ·)
termination_by chars => chars.length
decreasing_by
  · simp
  · exact Nat.lt_succ_of_lt (length_lt_of_readEscapedRest? _closed)
  · simp

/-- What is found in a text whose quoted texts have escapes. -/
def scanEscaped (text : List Char) : Option (List Lexeme) := dialect.scanEscapedFrom .between text

end Dialect

/-- Whether no text is being read. -/
def Lexing.IsOutside : Lexing → Prop
  | inQuotes delimiter _ | behindQuotes delimiter _ => delimiter ≠ '\''
  | _ => True

/-- A lexeme with the escapes of a text resolved. -/
def Lexeme.unescaped : Lexeme → Lexeme
  | quoted delimiter content =>
      if delimiter = '\'' then quoted delimiter (.ofList (unescapedText content.toList))
      else quoted delimiter content
  | other => other

namespace Lexing

variable {state next : Lexing}

/-- A lexeme that is no text does not become one. -/
theorem IsOutside.next? (outside : state.IsOutside) {c : Char}
    (isNext : state.next? c = some next) : next.IsOutside := by
  cases state with
  | between => cases isNext
  | inWord chars | inPlaceholder =>
      rw [Lexing.next?, Option.ite_none_right_eq_some] at isNext
      obtain ⟨-, ⟨⟩⟩ := isNext
      trivial
  | inQuotes delimiter content =>
      rw [Lexing.next?] at isNext
      split at isNext <;> cases isNext <;> exact outside
  | behindQuotes delimiter content =>
      rw [Lexing.next?, Option.ite_none_right_eq_some] at isNext
      obtain ⟨-, ⟨⟩⟩ := isNext
      exact outside

theorem IsOutside.finish? (outside : state.IsOutside) {last : List Lexeme}
    (ends : state.finish? = some last) : ∀ content, .quoted '\'' content ∉ last := by
  cases state with
  | between | inWord | inPlaceholder =>
      cases ends
      simp
  | inQuotes => cases ends
  | behindQuotes delimiter content =>
      cases ends
      intro other mem
      cases List.mem_singleton.1 mem
      exact outside rfl

/-- What ends in front of a text is no text. -/
theorem IsOutside.getD_finish? (outside : state.IsOutside) (content : String) :
    .quoted '\'' content ∉ state.finish?.getD [] := by
  cases ends : state.finish? with
  | none => exact nofun
  | some last => exact outside.finish? ends content

end Lexing

/-- If every escape in a text stands for itself, there is nothing to resolve. -/
theorem Lexeme.map_unescaped {found : List Lexeme}
    (verbatim : ∀ content, .quoted '\'' content ∈ found → isVerbatim content.toList = true) :
    found.map Lexeme.unescaped = found := by
  refine (List.map_congr_left fun lexeme mem => ?_).trans (List.map_id found)
  cases lexeme with
  | quoted delimiter content =>
      by_cases isQuote : delimiter = '\''
      · subst isQuote
        simp [Lexeme.unescaped, (of_isVerbatim (verbatim content mem)).2]
      · exact if_neg isQuote
  | word | placeholder | symbol => rfl

theorem Lexeme.map_unescaped_of_noText {found : List Lexeme}
    (noText : ∀ content, .quoted '\'' content ∉ found) : found.map Lexeme.unescaped = found :=
  map_unescaped fun content mem => absurd mem (noText content)

namespace Dialect

variable {dialect : Dialect}

/-- A text or a name that is being read is found with all that comes up to its closing delimiter. -/
theorem exists_of_scanFrom_inQuotes {delimiter : Char} {content rest : List Char}
    {found : List Lexeme}
    (read : dialect.scanFrom (.inQuotes delimiter content) rest = some found) :
    ∃ more after others, rest = doubled delimiter more ++ delimiter :: after
      ∧ (∀ last, after ≠ delimiter :: last) ∧ dialect.scanFrom .between after = some others
      ∧ found = .quoted delimiter (.ofList (content ++ more)) :: others := by
  induction rest using readQuotedRest?.induct delimiter generalizing content with
  | case1 => cases read
  | case2 =>
      simp only [scanFrom, Lexing.next?, if_true, Lexing.finish?, Option.some.injEq] at read
      exact ⟨[], [], [], rfl, by simp, rfl, by simp [read]⟩
  | case3 c differs => simp [scanFrom, Lexing.next?, differs, Lexing.finish?] at read
  | case4 rest ih =>
      simp only [scanFrom, Lexing.next?, if_true] at read
      obtain ⟨more, after, others, rfl, apart, othersRead, rfl⟩ := ih read
      refine ⟨delimiter :: more, after, others, ?_, apart, othersRead, by simp⟩
      rw [doubled, if_pos rfl]
      rfl
  | case5 next rest differs =>
      rw [scanFrom] at read
      simp only [Lexing.next?, if_true] at read
      have ends : (Lexing.behindQuotes delimiter content).finish?
          = some [.quoted delimiter (.ofList content)] := rfl
      have apart : ∀ c ∈ (next :: rest).head?,
          (Lexing.behindQuotes delimiter content).next? c = none := by
        rintro c ⟨⟩
        simp [Lexing.next?, differs]
      rw [scanFrom_of_ends ends apart, Option.map_eq_some_iff] at read
      obtain ⟨others, othersRead, rfl⟩ := read
      exact ⟨[], next :: rest, others, rfl, by simp [differs], othersRead, by simp⟩
  | case6 c next rest differs ih =>
      rw [scanFrom] at read
      simp only [Lexing.next?, if_neg differs] at read
      obtain ⟨more, after, others, same, apart, othersRead, rfl⟩ := ih read
      refine ⟨c :: more, after, others, ?_, apart, othersRead, by simp⟩
      rw [same, doubled, if_neg differs]
      rfl

/-- A quote that goes on with no lexeme starts a text. -/
theorem exists_of_scanFrom_quote {state : Lexing} (ends : state.next? '\'' = none)
    {rest : List Char} {found : List Lexeme}
    (read : dialect.scanFrom state ('\'' :: rest) = some found) :
    ∃ text after others, rest = doubled '\'' text ++ '\'' :: after
      ∧ (∀ last, after ≠ '\'' :: last) ∧ dialect.scanFrom .between after = some others
      ∧ found = state.finish?.getD [] ++ .quoted '\'' (.ofList text) :: others := by
  rw [scanFrom, ends] at read
  obtain ⟨behind, behindRead, rfl⟩ := Option.map_eq_some_iff.1 read
  obtain ⟨text, after, others, same, apart, othersRead, rfl⟩ :=
    exists_of_scanFrom_inQuotes behindRead
  exact ⟨text, after, others, same, apart, othersRead, by simp [scanStart, opens]⟩

/-- Any other character that goes on with no lexeme starts no text. -/
theorem isOutside_scanStart (dialect : Dialect) {c : Char} (noQuote : c ≠ '\'') :
    (dialect.scanStart c).2.IsOutside
      ∧ ∀ content, .quoted '\'' content ∉ (dialect.scanStart c).1 := by
  unfold scanStart
  split
  · exact ⟨noQuote, nofun⟩
  · split
    · exact ⟨trivial, nofun⟩
    · split
      · exact ⟨trivial, nofun⟩
      · exact ⟨trivial, by simp⟩

section Equations

variable {state next : Lexing} {c : Char} {rest : List Char}

theorem scanEscapedFrom_next (isNext : state.next? c = some next) :
    dialect.scanEscapedFrom state (c :: rest) = dialect.scanEscapedFrom next rest := by
  rw [scanEscapedFrom, isNext]

theorem scanEscapedFrom_quote (ends : state.next? '\'' = none) {text after : List Char}
    (read : readEscapedRest? rest = some (text, after)) :
    dialect.scanEscapedFrom state ('\'' :: rest)
      = (dialect.scanEscapedFrom .between after).map
          (state.finish?.getD [] ++ .quoted '\'' (.ofList text) :: ·) := by
  rw [scanEscapedFrom, ends]
  simp only [if_true]
  split
  · next failed => cases failed.symm.trans read
  · next found => cases found.symm.trans read; rfl

theorem scanEscapedFrom_open (ends : state.next? '\'' = none)
    (fails : readEscapedRest? rest = none) :
    dialect.scanEscapedFrom state ('\'' :: rest) = none := by
  rw [scanEscapedFrom, ends]
  simp only [if_true]
  split
  · rfl
  · next found => cases found.symm.trans fails

theorem scanEscapedFrom_other (ends : state.next? c = none) (noQuote : c ≠ '\'') :
    dialect.scanEscapedFrom state (c :: rest)
      = (dialect.scanEscapedFrom (dialect.scanStart c).2 rest).map
          (state.finish?.getD [] ++ (dialect.scanStart c).1 ++ ·) := by
  rw [scanEscapedFrom, ends]
  simp only [if_neg noQuote]

end Equations

/-! ## What becomes of the lexemes -/

/-- If no backslash of a text takes a quote, the same lexemes are found, with the escapes of the
texts resolved. -/
theorem scanEscapedFrom_of_leavesQuotes {state : Lexing} (outside : state.IsOutside)
    {text : List Char} {found : List Lexeme} (read : dialect.scanFrom state text = some found)
    (leave : ∀ content, .quoted '\'' content ∈ found → leavesQuotes content.toList = true) :
    dialect.scanEscapedFrom state text = some (found.map Lexeme.unescaped) := by
  induction state, text using scanEscapedFrom.induct dialect generalizing found with
  | case1 state =>
      rw [scanFrom] at read
      rw [scanEscapedFrom, read, Lexeme.map_unescaped_of_noText (outside.finish? read)]
  | case2 state c rest next isNext ih =>
      rw [scanFrom, isNext] at read
      rw [scanEscapedFrom_next isNext]
      exact ih (outside.next? isNext) read leave
  | case3 state rest fails ends =>
      obtain ⟨text, after, others, rfl, apart, -, rfl⟩ := exists_of_scanFrom_quote ends read
      have leaves := leave (.ofList text) (List.mem_append_right _ (.head _))
      rw [String.toList_ofList] at leaves
      rw [(readEscapedRest?_of_leavesQuotes leaves).2 ⟨[], readEscapedRest?_closing apart, rfl⟩]
        at fails
      cases fails
  | case4 state rest content behind closed ends ih =>
      obtain ⟨text, after, others, rfl, apart, othersRead, rfl⟩ :=
        exists_of_scanFrom_quote ends read
      have leaves := leave (.ofList text) (List.mem_append_right _ (.head _))
      rw [String.toList_ofList] at leaves
      rw [scanEscapedFrom_quote ends closed]
      rw [(readEscapedRest?_of_leavesQuotes leaves).2 ⟨[], readEscapedRest?_closing apart, rfl⟩,
        List.append_nil] at closed
      cases closed
      have others := ih trivial othersRead fun content mem =>
        leave content (List.mem_append_right _ (.tail _ mem))
      rw [others, List.map_append, Lexeme.map_unescaped_of_noText outside.getD_finish?]
      simp [Lexeme.unescaped]
  | case5 state c rest ends noQuote ih =>
      rw [scanFrom, ends] at read
      obtain ⟨others, othersRead, rfl⟩ := Option.map_eq_some_iff.1 read
      obtain ⟨startOutside, noText⟩ := isOutside_scanStart dialect noQuote
      rw [scanEscapedFrom_other ends noQuote,
        ih startOutside othersRead fun content mem => leave content (List.mem_append_right _ mem),
        List.map_append, List.map_append, Lexeme.map_unescaped_of_noText outside.getD_finish?,
        Lexeme.map_unescaped_of_noText noText]
      rfl

/-- If the same lexemes are found with escapes, every escape in a text stands for itself. -/
theorem isVerbatim_of_scanEscapedFrom {state : Lexing} (outside : state.IsOutside)
    {text : List Char} {found : List Lexeme} (read : dialect.scanFrom state text = some found)
    (same : dialect.scanEscapedFrom state text = some found) :
    ∀ content, .quoted '\'' content ∈ found → isVerbatim content.toList = true := by
  induction state, text using scanEscapedFrom.induct dialect generalizing found with
  | case1 state => exact fun content mem => absurd mem (outside.finish? read content)
  | case2 state c rest next isNext ih =>
      rw [scanFrom, isNext] at read
      rw [scanEscapedFrom_next isNext] at same
      exact ih (outside.next? isNext) read same
  | case3 state rest fails ends =>
      rw [scanEscapedFrom_open ends fails] at same
      cases same
  | case4 state rest content behind closed ends ih =>
      obtain ⟨text, after, others, rfl, apart, othersRead, rfl⟩ :=
        exists_of_scanFrom_quote ends read
      rw [scanEscapedFrom_quote ends closed, Option.map_eq_some_iff] at same
      obtain ⟨found, foundRead, equal⟩ := same
      obtain ⟨first, rfl⟩ := List.cons.inj (List.append_cancel_left equal)
      obtain rfl : content = text := String.ofList_injective (Lexeme.quoted.inj first).2
      have verbatim := isVerbatim_of_readEscapedRest? closed
      -- Such a text ends where it was closed, so what is behind it is the same.
      obtain ⟨inner, closes, -⟩ :=
        (readEscapedRest?_of_leavesQuotes (of_isVerbatim verbatim).1).1 closed
      rw [readEscapedRest?_closing apart] at closes
      cases closes
      intro other mem
      rcases List.mem_append.1 mem with ended | later
      · exact absurd ended (outside.getD_finish? other)
      · rcases List.mem_cons.1 later with isText | rest
        · rw [(Lexeme.quoted.inj isText).2, String.toList_ofList]
          exact verbatim
        · exact ih trivial othersRead foundRead other rest
  | case5 state c rest ends noQuote ih =>
      rw [scanFrom, ends] at read
      obtain ⟨others, othersRead, rfl⟩ := Option.map_eq_some_iff.1 read
      obtain ⟨startOutside, noText⟩ := isOutside_scanStart dialect noQuote
      rw [scanEscapedFrom_other ends noQuote, Option.map_eq_some_iff] at same
      obtain ⟨found, foundRead, equal⟩ := same
      obtain rfl := List.append_cancel_left equal
      intro content mem
      rcases List.mem_append.1 mem with before | later
      · rcases List.mem_append.1 before with ended | started
        · exact absurd ended (outside.getD_finish? content)
        · exact absurd started (noText content)
      · exact ih startOutside othersRead foundRead content later

end Dialect

/-! ## Backslashes in a written statement -/

section Backslashes

theorem Numeric.noBackslash {piece : List Char} (numeric : Numeric piece) : '\\' ∉ piece :=
  fun mem => Bool.noConfusion (numeric _ mem)

theorem backslash_not_mem_hexUpper (bytes : List UInt8) : '\\' ∉ hexUpper bytes := by
  have digit : ∀ n : Fin 16, (Nat.digitChar n.val).toUpper ≠ '\\' := by decide
  intro mem
  obtain ⟨lower, lowerMem, same⟩ := List.mem_map.1 mem
  obtain ⟨byte, -, digits⟩ := List.mem_flatMap.1 lowerMem
  have bound := byte.toNat_lt
  simp only [byteHex, List.mem_cons, List.not_mem_nil, or_false] at digits
  rcases digits with rfl | rfl
  · exact digit ⟨byte.toNat / 16, by omega⟩ same
  · exact digit ⟨byte.toNat % 16, by omega⟩ same

theorem backslash_not_mem_dateText (date : Date) : '\\' ∉ date.text := by
  have digits (width number : Nat) : '\\' ∉ paddedDigits width number :=
    (numeric_paddedDigits width number).noBackslash
  have year : '\\' ∉ yearText date.year := by
    unfold yearText
    split_ifs <;> simp [digits]
  simp [Date.text, digits, year]

theorem backslash_not_mem_timeText (time : TimeOfDay) : '\\' ∉ time.text := by
  have digits (width number : Nat) : '\\' ∉ paddedDigits width number :=
    (numeric_paddedDigits width number).noBackslash
  have fraction (nano : Nat) : '\\' ∉ fractionText nano := by
    unfold fractionText
    split_ifs <;> simp [digits]
  simp [TimeOfDay.text, digits, fraction]

/-- For MySQL only texts are written with backslashes. -/
theorem backslash_not_mem_literal {value : Value} {written : String}
    (noText : ∀ content, value ≠ .text content)
    (isLiteral : Dialect.mysql.literal value = .ok written) : '\\' ∉ written.toList := by
  cases value with
  | null =>
      obtain rfl := Except.ok.inj isLiteral
      decide
  | bool value =>
      obtain rfl := Except.ok.inj isLiteral
      cases value <;> decide
  | int value =>
      obtain rfl := Except.ok.inj isLiteral
      exact (numberText_intText _).numeric.noBackslash
  | uint value =>
      obtain rfl := Except.ok.inj isLiteral
      exact (numberText_natText _).numeric.noBackslash
  | float value =>
      simp only [Dialect.literal, Dialect.floatLiteral] at isLiteral
      split at isLiteral
      · cases isLiteral
      · split at isLiteral
        · cases value.isNegative <;> cases isLiteral
        · cases isLiteral
          rw [String.toList_ofList]
          exact (numberText_floatText value).numeric.noBackslash
  | text content => exact absurd rfl (noText content)
  | blob bytes =>
      obtain rfl := Except.ok.inj isLiteral
      simp [Dialect.blobLiteral, backslash_not_mem_hexUpper]
  | date value =>
      obtain rfl := Except.ok.inj isLiteral
      simp [Dialect.dateLiteral, backslash_not_mem_dateText]
  | time value =>
      obtain rfl := Except.ok.inj isLiteral
      simp [Dialect.timeLiteral, backslash_not_mem_timeText]
  | timestamp value =>
      obtain rfl := Except.ok.inj isLiteral
      have form : Dialect.mysql.timestampLiteral value
          = "TIMESTAMP '" ++ String.ofList (value.text 'T') ++ "'" := rfl
      simp [form, Timestamp.text, backslash_not_mem_dateText, backslash_not_mem_timeText]

theorem mem_doubled {delimiter c : Char} {text : List Char} (mem : c ∈ text) :
    c ∈ doubled delimiter text := by
  induction text with
  | nil => cases mem
  | cons first text ih =>
      rw [doubled]
      rcases List.mem_cons.1 mem with rfl | later
      · split
        · next same => simp [same]
        · exact .head _
      · split
        · exact .tail _ (.tail _ (ih later))
        · exact .tail _ (ih later)

variable {content : String}

/-- A text that is found in a value for MySQL is the value, or it has no backslash. -/
theorem Token.text_of_quoted {value : Value}
    (mem : .quoted '\'' content ∈ (Token.literal value).pieces .mysql) :
    value = .text content ∨ '\\' ∉ content.toList := by
  cases written : Dialect.mysql.literal value with
  | error error =>
      rw [Token.pieces, written] at mem
      cases List.mem_singleton.1 mem
  | ok text =>
      obtain ⟨read, shape⟩ := Token.pieces_literal written
      by_cases isText : ∃ other, value = .text other
      · obtain ⟨other, rfl⟩ := isText
        rw [Token.pieces_text, List.mem_singleton] at mem
        exact .inl (congrArg Value.text (Lexeme.quoted.inj mem).2.symm)
      · right
        intro backslash
        refine backslash_not_mem_literal (fun other same => isText ⟨other, same⟩) written ?_
        rw [← Dialect.spell_of_scan read shape.known.2]
        refine List.mem_flatMap.2 ⟨_, mem, ?_⟩
        exact .tail _ (List.mem_append_left _ (mem_doubled backslash))

/-- A text that is found in a phrase for MySQL is a text of its tokens, or it has no backslash. -/
theorem Phrase.text_of_quoted {level : Level} {tokens : List Token}
    (phrase : Phrase .mysql level tokens)
    (mem : .quoted '\'' content ∈ Dialect.mysql.pieces tokens) :
    .text content ∈ mentionsOf tokens ∨ '\\' ∉ content.toList := by
  obtain ⟨token, tokenMem, found⟩ := List.mem_flatMap.1 mem
  cases token with
  | text fixed =>
      have harmless := phrase.harmless_of_mem tokenMem
      obtain ⟨pieces, read, each⟩ := Dialect.generic.scan_of_harmless harmless
      rw [Token.pieces, textPieces, read, Option.getD_some] at found
      rcases each _ found with ⟨chars, same⟩ | ⟨c, -, -, same⟩ <;> cases same
  | identifier name =>
      have noQuote : Dialect.mysql.nameDelimiter ≠ '\'' := by decide
      rw [Token.pieces, List.mem_singleton] at found
      split at found
      · exact absurd (Lexeme.quoted.inj found).1.symm noQuote
      · cases found
  | literal value =>
      refine (Token.text_of_quoted found).imp_left ?_
      rintro rfl
      exact List.mem_filterMap.2 ⟨_, tokenMem, rfl⟩
  | placeholder parameter => cases List.mem_singleton.1 found

end Backslashes

/-! ## Statements -/

namespace Statement

/-- Whatever follows, a text literal is read with escapes up to its last character exactly if no
backslash in it takes a quote, and it is read back exactly if every escape in it stands for itself.
In a statement for MySQL the same lexemes are found with escapes, but for the contents of texts, if
no backslash in a text takes a quote, and exactly the same lexemes if and only if every escape in a
text stands for itself. -/
theorem texts_read_with_escapes {statement : Statement} (built : (Part.statement statement).Built)
    {sql : String} (written : Dialect.mysql.write (statement.tokens .mysql) = .ok sql) :
    (∀ text after, (∀ rest, after ≠ '\'' :: rest) →
        ((∃ content, readEscaped? ((Dialect.textLiteral text).toList ++ after)
            = some (content, after)) ↔ leavesQuotes text.toList = true))
      ∧ (∀ text after, readEscaped? ((Dialect.textLiteral text).toList ++ after)
          = some (text.toList, after)
        ↔ isVerbatim text.toList = true ∧ ∀ rest, after ≠ '\'' :: rest)
      ∧ ∃ found, Dialect.mysql.scan sql.toList = some found
        ∧ ((∀ text, .text text ∈ statement.mentions → leavesQuotes text.toList = true) →
          Dialect.mysql.scanEscaped sql.toList = some (found.map Lexeme.unescaped))
        ∧ (Dialect.mysql.scanEscaped sql.toList = some found
          ↔ ∀ text, .text text ∈ statement.mentions → isVerbatim text.toList = true) := by
  refine ⟨fun text after apart => exists_readEscaped?_iff apart,
    fun text after => readEscaped?_eq_some_iff, ?_⟩
  have phrase : Phrase .mysql .query (statement.tokens .mysql) := built.phrase
  have read := phrase.scan_writeFrom written
  have outside : Lexing.between.IsOutside := trivial
  have found_of_mention (text : String) (mem : .text text ∈ statement.mentions) :
      .quoted '\'' text ∈ Dialect.mysql.pieces (statement.tokens .mysql) := by
    rw [← statement.mentionsOf_tokens .mysql] at mem
    obtain ⟨token, tokenMem, isText⟩ := List.mem_filterMap.1 mem
    unfold Token.mention? at isText
    split at isText <;> cases isText
    refine List.mem_flatMap.2 ⟨_, tokenMem, ?_⟩
    rw [Token.pieces_text]
    exact .head _
  have mention_of_found (text : String)
      (mem : .quoted '\'' text ∈ Dialect.mysql.pieces (statement.tokens .mysql)) :
      .text text ∈ statement.mentions ∨ isVerbatim text.toList = true := by
    rw [← statement.mentionsOf_tokens .mysql]
    exact (phrase.text_of_quoted mem).imp_right isVerbatim_of_not_mem
  refine ⟨_, read, fun leave => ?_, fun same text mem => ?_, fun verbatim => ?_⟩
  · refine Dialect.scanEscapedFrom_of_leavesQuotes outside read fun text mem => ?_
    exact (mention_of_found text mem).elim (leave text) fun verbatim => (of_isVerbatim verbatim).1
  · exact Dialect.isVerbatim_of_scanEscapedFrom outside read same text (found_of_mention text mem)
  · have each (text : String)
        (mem : .quoted '\'' text ∈ Dialect.mysql.pieces (statement.tokens .mysql)) :
        isVerbatim text.toList = true :=
      (mention_of_found text mem).elim (verbatim text) id
    have scanned := Dialect.scanEscapedFrom_of_leavesQuotes outside read fun text mem =>
      (of_isVerbatim (each text mem)).1
    rwa [Lexeme.map_unescaped each] at scanned

/-- A backslash as a text, with a text behind it that ends a statement. -/
def backslashColumn : Select where
  clauses := [.columns false [.static ⟨.value (.text "\\"), "a", true⟩,
    .static ⟨.value (.text "; DELETE FROM foo -- "), "b", true⟩]]

theorem backslashColumn_built : (Part.select backslashColumn).Built := by
  let columns : List (Entry SelectColumn) := [.static ⟨.value (.text "\\"), "a", true⟩,
    .static ⟨.value (.text "; DELETE FROM foo -- "), "b", true⟩]
  have named : ∀ column ∈ columns, column.value.IsMade := by
    rw [List.forall_mem_cons, List.forall_mem_singleton]
    exact ⟨.inl rfl, .inl rfl⟩
  have started : Select.start none columns = .ok backslashColumn := rfl
  refine Select.built_of_start named ?_ started
  simp only [columns, List.forall_mem_cons]
  exact ⟨.made (.value _) nofun, .made (.value _) nofun, nofun⟩

/-- The text is not read back, and what stands behind it is not read either. -/
theorem backslashColumn_misread :
    (Part.select backslashColumn).Built
      ∧ Dialect.mysql.write ((select backslashColumn).tokens .mysql)
        = .ok "SELECT '\\' AS a, '; DELETE FROM foo -- ' AS b"
      ∧ Dialect.mysql.scanEscaped "SELECT '\\' AS a, '; DELETE FROM foo -- ' AS b".toList
        ≠ Dialect.mysql.scan "SELECT '\\' AS a, '; DELETE FROM foo -- ' AS b".toList := by
  have written : Dialect.mysql.write ((select backslashColumn).tokens .mysql)
      = .ok "SELECT '\\' AS a, '; DELETE FROM foo -- ' AS b" := by rfl
  obtain ⟨-, -, found, read, -, same⟩ := texts_read_with_escapes backslashColumn_built written
  refine ⟨backslashColumn_built, written, ?_⟩
  rw [read, Ne, same]
  exact fun verbatim => Bool.noConfusion (verbatim "\\" (.head _))

/-- The literal of a backslash does not end where it was written to end: the quote behind the
backslash is a part of the text, and what stands in the next literal is read as code. -/
theorem backslash_swallows_quote :
    Dialect.mysql.literal (.text "\\") = .ok "'\\'"
      ∧ readEscaped? ("'\\'".toList ++ " AS a, '; DELETE FROM foo -- ' AS b".toList)
        = some ("' AS a, ".toList, "; DELETE FROM foo -- ' AS b".toList) := by
  decide

end Statement

end CheckedSql
