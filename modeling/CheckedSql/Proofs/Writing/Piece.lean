import CheckedSql.Proofs.Writing.Phrase

/-!
# Pieces of tokens

What a scanner finds in a written phrase are the pieces of its tokens, one after the other
(`Phrase.scan_writeFrom`).  A name, a text and a placeholder are one piece each, other
values are a few pieces of a known shape (`LiteralPieces`), and fixed texts are words and
symbols, the same ones in all dialects.

The pieces of a phrase are calm (`Phrase.isCalm_pieces`): they start no comment and end no
statement.  Their parentheses are in pairs (`Phrase.balanced_pieces`).
-/

namespace CheckedSql

/-! ## Numbers -/

/-- The pieces of a number without signs.  The first one is a word that starts with a digit. -/
structure UnsignedPieces (found : List Lexeme) : Prop where
  starts : ∃ text rest, found = .word text :: rest ∧ ∃ c ∈ text.toList.head?, c.isDigit = true
  each : ∀ lexeme ∈ found, (∃ text, lexeme = .word text) ∨ lexeme = .symbol '.'

/-- The pieces of a number without a sign in front of it. -/
inductive PositivePieces : List Lexeme → Prop where
  | unsigned {found : List Lexeme} : UnsignedPieces found → PositivePieces found
  | exponent {front digits : List Lexeme} : UnsignedPieces front → UnsignedPieces digits →
      PositivePieces (front ++ .symbol '-' :: digits)

/-- A number without a sign starts with a digit. -/
theorem PositivePieces.starts {found : List Lexeme} (pieces : PositivePieces found) :
    ∃ text others, found = .word text :: others ∧ text.toList.head?.any Char.isDigit = true := by
  have ofUnsigned {front : List Lexeme} (unsigned : UnsignedPieces front) :
      ∃ text others, front = .word text :: others
        ∧ text.toList.head?.any Char.isDigit = true := by
    obtain ⟨text, others, rfl, c, isFirst, isDigit⟩ := unsigned.starts
    refine ⟨text, others, rfl, ?_⟩
    rw [Option.mem_def.1 isFirst]
    exact isDigit
  cases pieces with
  | unsigned unsigned => exact ofUnsigned unsigned
  | exponent front digits =>
      obtain ⟨text, others, rfl, digit⟩ := ofUnsigned front
      exact ⟨text, _, rfl, digit⟩

/-- The pieces of a number. -/
inductive NumberPieces : List Lexeme → Prop where
  | positive {found : List Lexeme} : PositivePieces found → NumberPieces found
  | negative {found : List Lexeme} : PositivePieces found → NumberPieces (.symbol '-' :: found)

section Numbers

variable (dialect : Dialect) {text : List Char}

theorem UnsignedText.scan (unsigned : UnsignedText text) :
    ∃ found, dialect.scan text = some found ∧ UnsignedPieces found := by
  obtain ⟨found, read, pieces⟩ := dialect.scan_of_harmless unsigned.numeric.harmless
  refine ⟨found, read, ?_, ?_⟩
  · obtain ⟨⟨c, isFirst, isDigit⟩, -⟩ := unsigned
    cases text with
    | nil => cases isFirst
    | cons first rest =>
        cases isFirst
        have isPart : isNamePart c = true := by simp [isNamePart, Char.isAlphanum, isDigit]
        have harmless : isHarmless c = true := isHarmless_of rfl isPart
        rw [Dialect.scan, Dialect.scanFrom] at read
        simp only [Lexing.next?, Dialect.scanStart_of_isHarmless harmless, isPart, if_true] at read
        obtain ⟨others, othersRead, rfl⟩ := Option.map_eq_some_iff.1 read
        obtain ⟨more, last, rfl⟩ := Dialect.scanFrom_inWord othersRead
        exact ⟨_, last, rfl, c, by simp, isDigit⟩
  · intro lexeme mem
    refine (pieces lexeme mem).imp_right ?_
    rintro ⟨c, inText, notPart, same⟩
    have isUnsigned := unsigned.2 c inText
    simp only [CheckedSql.isUnsigned, Bool.or_eq_true, beq_iff_eq] at isUnsigned
    rcases isUnsigned with (isDigit | rfl) | rfl
    · simp [isNamePart, Char.isAlphanum, isDigit] at notPart
    · exact same
    · cases notPart

/-- A sign in front of a text is a symbol. -/
theorem Dialect.scan_minus {found : List Lexeme} (read : dialect.scan text = some found) :
    dialect.scan ('-' :: text) = some (.symbol '-' :: found) := by
  have sign : dialect.scan ['-'] = some [.symbol '-'] := by cases dialect <;> rfl
  exact Dialect.scan_append_of_trailsApart (by decide) (by decide) sign read

theorem PositiveText.scan (positive : PositiveText text) :
    ∃ found, dialect.scan text = some found ∧ PositivePieces found := by
  cases positive with
  | unsigned unsigned =>
      obtain ⟨found, read, pieces⟩ := unsigned.scan dialect
      exact ⟨found, read, .unsigned pieces⟩
  | exponent front digits =>
      obtain ⟨first, firstRead, firstPieces⟩ := front.scan dialect
      obtain ⟨others, othersRead, otherPieces⟩ := digits.scan dialect
      exact ⟨_, Dialect.scan_append firstRead (dialect.scan_minus othersRead) rfl,
        .exponent firstPieces otherPieces⟩

theorem NumberText.scan (number : NumberText text) :
    ∃ found, dialect.scan text = some found ∧ NumberPieces found := by
  cases number with
  | positive positive =>
      obtain ⟨found, read, pieces⟩ := positive.scan dialect
      exact ⟨found, read, .positive pieces⟩
  | negative positive =>
      obtain ⟨found, read, pieces⟩ := positive.scan dialect
      exact ⟨_, dialect.scan_minus read, .negative pieces⟩

end Numbers

/-! ## Literals -/

/-- What may stand in front of and behind the quoted part of a literal. -/
def literalFramePieces : List (List Lexeme × List Lexeme) :=
  [([], []), ([.word "x"], []), ([.word "DATE", .symbol ' '], []),
    ([.word "TIMESTAMP", .symbol ' '], []), ([.word "DATE", .symbol '('], [.symbol ')']),
    ([.word "STRFTIME", .symbol '(', .quoted '\'' "%Y-%m-%d %H:%M:%f", .symbol ',', .symbol ' '],
      [.symbol ')'])]

/-- The pieces of a written value. -/
inductive LiteralPieces : List Lexeme → Prop where
  | word {text : String} : text ∈ ["NULL", "true", "false"] → LiteralPieces [.word text]
  | number {found : List Lexeme} : NumberPieces found → LiteralPieces found
  | quoted {before behind : List Lexeme} (content : String) :
      (before, behind) ∈ literalFramePieces →
      LiteralPieces (before ++ .quoted '\'' content :: behind)

namespace Dialect

variable (dialect : Dialect)

/-- A quoted text with another text behind it. -/
theorem scan_quotedBy_append (content : List Char) {back : List Char} {behind : List Lexeme}
    (backRead : dialect.scan back = some behind) (leads : leadsApart back = true) :
    dialect.scan (quotedBy '\'' content ++ back)
      = some (.quoted '\'' (.ofList content) :: behind) :=
  scan_append (scan_quotedBy rfl content) backRead leads

/-- A quoted text between two texts, the first of which trails apart. -/
theorem scan_framed (front : String) {back : List Char} {before behind : List Lexeme}
    (content : List Char) (harmless : Harmless front.toList)
    (trails : trailsApart front.toList = true)
    (frontRead : generic.scan front.toList = some before)
    (backRead : dialect.scan back = some behind) (leads : leadsApart back = true) :
    dialect.scan (front.toList ++ (quotedBy '\'' content ++ back))
      = some (before ++ .quoted '\'' (.ofList content) :: behind) := by
  rw [scan_eq_scan generic dialect harmless] at frontRead
  exact scan_append_of_trailsApart harmless trails frontRead
    (dialect.scan_quotedBy_append content backRead leads)

/-- A quoted text with the mark of a byte string in front of it. -/
theorem scan_marked (content : List Char) :
    dialect.scan ('x' :: quotedBy '\'' content)
      = some [.word "x", .quoted '\'' (.ofList content)] := by
  have quoted : dialect.scan (quotedBy '\'' content) = some [.quoted '\'' (.ofList content)] :=
    scan_quotedBy rfl content
  have start : dialect.scanStart 'x' = ([], .inWord ['x']) := scanStart_of_isHarmless rfl
  have ends : (Lexing.inWord ['x']).finish? = some [.word "x"] := rfl
  have apart : ∀ c ∈ (quotedBy '\'' content).head?, (Lexing.inWord ['x']).next? c = none := by
    rintro c ⟨⟩
    rfl
  have rest : dialect.scanFrom (.inWord ['x']) (quotedBy '\'' content)
      = some [.word "x", .quoted '\'' (.ofList content)] := by
    rw [scanFrom_of_ends ends apart, quoted]
    rfl
  rw [scan, scanFrom]
  simp only [Lexing.next?, start, rest]
  rfl

end Dialect

theorem LiteralText.scan (dialect : Dialect) {text : List Char} (form : LiteralText text) :
    ∃ found, dialect.scan text = some found ∧ LiteralPieces found := by
  cases form with
  | @word text mem =>
      refine ⟨[.word text], ?_, .word mem⟩
      simp only [List.mem_cons, List.not_mem_nil, or_false] at mem
      rcases mem with rfl | rfl | rfl <;> cases dialect <;> rfl
  | number number =>
      obtain ⟨found, read, pieces⟩ := number.scan dialect
      exact ⟨found, read, .number pieces⟩
  | @quoted front back content mem =>
      have nothing : dialect.scan [] = some [] := rfl
      have closing : dialect.scan [')'] = some [.symbol ')'] := by cases dialect <;> rfl
      have isFrame {before behind : List Lexeme} (frame : (before, behind) ∈ literalFramePieces) :
          LiteralPieces (before ++ .quoted '\'' (.ofList content) :: behind) := .quoted _ frame
      simp only [literalFrames, List.mem_cons, Prod.mk.injEq, List.not_mem_nil, or_false] at mem
      rcases mem with ⟨rfl, rfl⟩ | ⟨rfl, rfl⟩ | ⟨rfl, rfl⟩ | ⟨rfl, rfl⟩ | ⟨rfl, rfl⟩ | ⟨rfl, rfl⟩
      · refine ⟨_, dialect.scan_quotedBy_append content nothing rfl, isFrame (.head _)⟩
      · have marked := dialect.scan_marked content
        rw [← List.append_nil (quotedBy _ _)] at marked
        exact ⟨_, marked, isFrame (.tail _ (.head _))⟩
      · have framed := dialect.scan_framed "DATE " content (by decide) (by decide) rfl nothing rfl
        exact ⟨_, framed, isFrame (.tail _ (.tail _ (.head _)))⟩
      · have framed :=
          dialect.scan_framed "TIMESTAMP " content (by decide) (by decide) rfl nothing rfl
        exact ⟨_, framed, isFrame (.tail _ (.tail _ (.tail _ (.head _))))⟩
      · have framed := dialect.scan_framed "DATE(" content (by decide) (by decide) rfl closing rfl
        exact ⟨_, framed, isFrame (.tail _ (.tail _ (.tail _ (.tail _ (.head _)))))⟩
      · have last := dialect.scan_framed ", " content (by decide) (by decide) rfl closing rfl
        have framed := dialect.scan_framed "STRFTIME(" "%Y-%m-%d %H:%M:%f".toList (by decide)
          (by decide) rfl last rfl
        exact ⟨_, framed, isFrame (.tail _ (.tail _ (.tail _ (.tail _ (.tail _ (.head _))))))⟩

/-! ### Calm -/

theorem UnsignedPieces.isCalm {found : List Lexeme} (pieces : UnsignedPieces found) :
    isCalm found = true := by
  refine isCalm_of_forall fun lexeme mem => ?_
  rcases pieces.each lexeme mem with ⟨text, rfl⟩ | rfl <;> rfl

theorem UnsignedPieces.isCalm_sign {found : List Lexeme} (pieces : UnsignedPieces found) :
    CheckedSql.isCalm (.symbol '-' :: found) = true := by
  refine CheckedSql.isCalm_sign pieces.isCalm ?_
  obtain ⟨text, rest, rfl, -⟩ := pieces.starts
  rfl

theorem NumberPieces.isCalm {found : List Lexeme} (pieces : NumberPieces found) :
    isCalm found = true := by
  cases pieces with
  | positive positive =>
      cases positive with
      | unsigned unsigned => exact unsigned.isCalm
      | exponent front digits => exact isCalm_append front.isCalm digits.isCalm_sign
  | negative positive =>
      cases positive with
      | unsigned unsigned => exact unsigned.isCalm_sign
      | exponent front digits => exact isCalm_append front.isCalm_sign digits.isCalm_sign

theorem LiteralPieces.isCalm {found : List Lexeme} (pieces : LiteralPieces found) :
    isCalm found = true := by
  cases pieces with
  | word => rfl
  | number number => exact number.isCalm
  | @quoted before behind content mem =>
      have frames : (literalFramePieces.all fun (before, behind) =>
        CheckedSql.isCalm before && CheckedSql.isCalm behind) = true := by decide
      have both := List.all_eq_true.1 frames _ mem
      rw [Bool.and_eq_true] at both
      exact isCalm_append both.1 (isCalm_cons.2 ⟨rfl, both.2⟩)

/-- A written value has pieces, and none of them is a placeholder. -/
theorem LiteralPieces.known {found : List Lexeme} (pieces : LiteralPieces found) :
    found ≠ [] ∧ .placeholder ∉ found := by
  have ofUnsigned {found : List Lexeme} (pieces : UnsignedPieces found) :
      found ≠ [] ∧ .placeholder ∉ found := by
    refine ⟨?_, fun mem => ?_⟩
    · obtain ⟨text, rest, rfl, -⟩ := pieces.starts
      exact nofun
    · rcases pieces.each _ mem with ⟨text, same⟩ | same <;> cases same
  have ofPositive {found : List Lexeme} (pieces : PositivePieces found) :
      found ≠ [] ∧ .placeholder ∉ found := by
    cases pieces with
    | unsigned unsigned => exact ofUnsigned unsigned
    | exponent front digits => simp [(ofUnsigned front).2, (ofUnsigned digits).2]
  cases pieces with
  | word => simp
  | number number =>
      cases number with
      | positive positive => exact ofPositive positive
      | negative positive => simp [(ofPositive positive).2]
  | @quoted before behind content mem =>
      have frames : (literalFramePieces.all fun (before, behind) =>
        !(before ++ behind).contains .placeholder) = true := by decide
      have neither := List.all_eq_true.1 frames _ mem
      rw [Bool.not_eq_true', ← Bool.not_eq_true, List.contains_iff_mem, List.mem_append] at neither
      simpa using neither

/-- What does not start with a sign has pieces that do not start with one. -/
theorem Dialect.head?_of_scan {dialect : Dialect} {text : List Char} {found : List Lexeme}
    (read : dialect.scan text = some found) (known : found ≠ [] ∧ .placeholder ∉ found)
    (notSign : text.head? ≠ some '-') : found.head?.any (· != .symbol '-') = true := by
  cases found with
  | nil => exact absurd rfl known.1
  | cons lexeme rest =>
      rw [← Dialect.spell_of_scan read known.2, List.flatMap_cons] at notSign
      rw [List.head?_cons, Option.any_some, bne_iff_ne]
      rintro rfl
      exact notSign rfl

/-! ## Tokens -/

namespace Token

/-- The pieces of a token.  A value that cannot be written stands as an empty word. -/
def pieces (dialect : Dialect) : Token → List Lexeme
  | text content => textPieces content
  | identifier name =>
      [if needsQuoting name then .quoted dialect.nameDelimiter name else .word name]
  | literal value =>
      match dialect.literal value with
      | .ok content => (dialect.scan content.toList).getD []
      | .error _ => [.word ""]
  | placeholder _ => [.placeholder]

end Token

namespace Dialect

/-- The pieces of tokens. -/
def pieces (dialect : Dialect) (tokens : List Token) : List Lexeme :=
  tokens.flatMap (Token.pieces dialect)

variable (dialect : Dialect)

@[simp] theorem pieces_nil : dialect.pieces [] = [] := rfl

@[simp] theorem pieces_cons (token : Token) (tokens : List Token) :
    dialect.pieces (token :: tokens) = token.pieces dialect ++ dialect.pieces tokens :=
  List.flatMap_cons

theorem pieces_singleton (token : Token) : dialect.pieces [token] = token.pieces dialect :=
  List.flatMap_singleton ..

@[simp] theorem pieces_append (first second : List Token) :
    dialect.pieces (first ++ second) = dialect.pieces first ++ dialect.pieces second :=
  List.flatMap_append

end Dialect

theorem scan_bare (dialect : Dialect) {name : String} (bare : needsQuoting name = false) :
    dialect.scan name.toList = some [.word name] := by
  obtain ⟨first, rest, chars, isPart, others⟩ := exists_of_bare bare
  rw [chars, Dialect.scan_word isPart others, ← chars, String.ofList_toList]

namespace Token

variable {dialect : Dialect}

theorem pieces_literal {value : Value} {content : String}
    (written : dialect.literal value = .ok content) :
    dialect.scan content.toList = some ((literal value).pieces dialect)
      ∧ LiteralPieces ((literal value).pieces dialect) := by
  obtain ⟨found, read, shape⟩ := (LiteralText.literal written).scan dialect
  have same : (literal value).pieces dialect = found := by
    simp only [pieces, written, read, Option.getD_some]
  rw [same]
  exact ⟨read, shape⟩

/-- A written name, value or placeholder is scanned as its pieces. -/
theorem scan_writeToken {token : Token} {position : Nat} {sql : String}
    (notText : token.isText = false) (written : dialect.writeToken position token = .ok sql) :
    dialect.scan sql.toList = some (token.pieces dialect) := by
  cases token with
  | text => cases notText
  | identifier name =>
      obtain rfl := Except.ok.inj written
      rw [Dialect.quoteName, pieces]
      split
      · have opens : dialect.opens dialect.nameDelimiter = true := by simp [Dialect.opens]
        rw [String.toList_ofList, Dialect.scan_quotedBy opens, String.ofList_toList]
      · next bare => exact scan_bare dialect (Bool.not_eq_true _ ▸ bare)
  | literal value => exact (pieces_literal written).1
  | placeholder parameter =>
      obtain rfl := Except.ok.inj written
      obtain ⟨mark, digits, chars, isMark, allDigits⟩ := dialect.toList_placeholder position
      rw [chars]
      exact Dialect.scan_placeholder isMark allDigits

/-- The pieces of a name, a value or a placeholder are calm. -/
theorem isCalm_pieces {token : Token} (notText : token.isText = false) :
    isCalm (token.pieces dialect) = true := by
  cases token with
  | text => cases notText
  | identifier name =>
      rw [pieces]
      split <;> rfl
  | literal value =>
      cases written : dialect.literal value with
      | ok content => exact (pieces_literal written).2.isCalm
      | error error =>
          rw [pieces, written]
          rfl
  | placeholder => rfl

end Token

namespace Phrase

variable {dialect : Dialect} {level : Level} {tokens : List Token}

/-- A written phrase is scanned as the pieces of its tokens. -/
theorem scan_writeFrom (phrase : Phrase dialect level tokens) {position : Nat} {sql : String}
    (written : dialect.writeFrom position tokens = .ok sql) :
    dialect.scan sql.toList = some (dialect.pieces tokens) := by
  induction phrase generalizing position sql with
  | nil =>
      obtain rfl := Except.ok.inj written
      rfl
  | single notText =>
      have read := Token.scan_writeToken notText (Dialect.writeFrom_singleton written)
      simpa using read
  | word flat =>
      obtain rfl := Except.ok.inj (Dialect.writeFrom_singleton written)
      simpa [Token.pieces] using scan_of_isCalmText dialect (isFlatText_iff.1 flat).1
  | leading flat trails _ ih =>
      obtain ⟨behind, behindWritten, rfl⟩ := Dialect.writeFrom_text written
      have calm := (isFlatText_iff.1 flat).1
      rw [String.toList_append, Dialect.pieces_cons]
      exact Dialect.scan_append_of_trailsApart (harmless_of_isCalmText calm) trails
        (scan_of_isCalmText dialect calm) (ih behindWritten)
  | sign _ _ ih =>
      obtain ⟨behind, behindWritten, rfl⟩ := Dialect.writeFrom_text written
      rw [String.toList_append]
      exact dialect.scan_minus (ih behindWritten)
  | append _ _ follows firstIh secondIh =>
      obtain ⟨before, next, behind, beforeWritten, behindWritten, rfl⟩ :=
        Dialect.writeFrom_append written
      rw [String.toList_append, Dialect.pieces_append]
      exact Dialect.scan_append (firstIh beforeWritten) (secondIh behindWritten)
        (Dialect.leadsApart_writeFrom follows behindWritten)
  | enclosed encloses _ ih =>
      obtain ⟨rest, restWritten, rfl⟩ := Dialect.writeFrom_text written
      obtain ⟨inner, next, behind, innerWritten, behindWritten, rfl⟩ :=
        Dialect.writeFrom_append restWritten
      obtain rfl := Except.ok.inj (Dialect.writeFrom_singleton behindWritten)
      obtain ⟨openingCalm, closingCalm⟩ := encloses.calm
      have closed := Dialect.scan_append (ih innerWritten) (scan_of_isCalmText dialect closingCalm)
        encloses.leads
      have enclosed := Dialect.scan_append_of_trailsApart (harmless_of_isCalmText openingCalm)
        encloses.trails (scan_of_isCalmText dialect openingCalm) closed
      rw [String.toList_append, String.toList_append]
      simpa [Token.pieces] using enclosed

/-- The texts of a phrase have no quotes and marks. -/
theorem harmless_of_mem (phrase : Phrase dialect level tokens) {text : String}
    (mem : .text text ∈ tokens) : Harmless text.toList := by
  have ofFlat {stops : List String} {other : String} (flat : isFlatText stops other = true) :
      Harmless other.toList := harmless_of_isCalmText (isFlatText_iff.1 flat).1
  induction phrase with
  | nil => cases mem
  | single notText =>
      obtain rfl := List.mem_singleton.1 mem
      cases notText
  | word flat =>
      cases List.mem_singleton.1 mem
      exact ofFlat flat
  | leading flat _ _ ih =>
      rcases List.mem_cons.1 mem with ⟨⟨⟩⟩ | later
      · exact ofFlat flat
      · exact ih later
  | sign _ _ ih =>
      rcases List.mem_cons.1 mem with ⟨⟨⟩⟩ | later
      · decide
      · exact ih later
  | append _ _ _ firstIh secondIh => exact (List.mem_append.1 mem).elim firstIh secondIh
  | enclosed encloses _ ih =>
      obtain ⟨openingCalm, closingCalm⟩ := encloses.calm
      rcases List.mem_cons.1 mem with ⟨⟨⟩⟩ | later
      · exact harmless_of_isCalmText openingCalm
      · rcases List.mem_append.1 later with inside | last
        · exact ih inside
        · cases List.mem_singleton.1 last
          exact harmless_of_isCalmText closingCalm

/-- What is written without a sign at its start has pieces that do not start with one. -/
theorem head?_pieces_of_startsUnsigned (phrase : Phrase dialect level tokens)
    (unsigned : dialect.startsUnsigned tokens = true) :
    (dialect.pieces tokens).head?.any (· != .symbol '-') = true := by
  cases tokens with
  | nil => cases unsigned
  | cons token tokens =>
      have first (fresh : (token.pieces dialect).head?.any (· != .symbol '-') = true) :
          (dialect.pieces (token :: tokens)).head?.any (· != .symbol '-') = true := by
        obtain ⟨lexeme, isFirst, notSign⟩ := (Option.any_eq_true _ _).1 fresh
        rw [Dialect.pieces_cons, List.head?_append, isFirst]
        exact notSign
      cases token with
      | text text =>
          obtain ⟨c, isFirst, notSign⟩ := (Option.any_eq_true _ _).1 unsigned
          have harmless := phrase.harmless_of_mem (.head _)
          have nonempty : text.toList ≠ [] := List.ne_nil_of_mem (List.mem_of_mem_head? isFirst)
          have known := textPieces_known harmless nonempty
          refine first (Dialect.head?_of_scan (scan_text dialect harmless) known ?_)
          rw [isFirst]
          simpa using notSign
      | identifier name =>
          refine first ?_
          rw [Token.pieces]
          split <;> rfl
      | literal value =>
          refine first ?_
          have notMinus : dialect.startsWithMinus (.literal value :: tokens) = false :=
            Bool.not_eq_true' _ ▸ unsigned
          rw [Dialect.startsWithMinus] at notMinus
          cases written : dialect.literal value with
          | ok content =>
              obtain ⟨read, shape⟩ := Token.pieces_literal written
              simp only [written, beq_eq_false_iff_ne] at notMinus
              exact Dialect.head?_of_scan read shape.known notMinus
          | error error =>
              rw [Token.pieces, written]
              rfl
      | placeholder parameter => exact first rfl

/-- The pieces of a phrase start no comment and end no statement. -/
theorem isCalm_pieces (phrase : Phrase dialect level tokens) :
    isCalm (dialect.pieces tokens) = true := by
  have ofFlat {stops : List String} {text : String} (flat : isFlatText stops text = true) :
      isCalm (textPieces text) = true := isCalm_of_isCalmText (isFlatText_iff.1 flat).1
  induction phrase with
  | nil => rfl
  | single notText => simpa using Token.isCalm_pieces notText
  | word flat => simpa [Token.pieces] using ofFlat flat
  | leading flat _ _ ih => exact isCalm_append (ofFlat flat) ih
  | sign unsigned phrase ih => exact isCalm_sign ih (phrase.head?_pieces_of_startsUnsigned unsigned)
  | append _ _ _ firstIh secondIh =>
      rw [Dialect.pieces_append]
      exact isCalm_append firstIh secondIh
  | enclosed encloses _ ih =>
      obtain ⟨openingCalm, closingCalm⟩ := encloses.calm
      have closed := isCalm_append ih (isCalm_of_isCalmText closingCalm)
      simpa [Token.pieces] using isCalm_append (isCalm_of_isCalmText openingCalm) closed

/-- The parentheses in the pieces of a written phrase are in pairs. -/
theorem balanced_pieces (phrase : Phrase dialect level tokens) {position : Nat} {sql : String}
    (written : dialect.writeFrom position tokens = .ok sql) :
    Balanced level.stops (dialect.pieces tokens) := by
  have symbols (c : Char) (mem : .symbol c ∈ dialect.pieces tokens) : isDelimiter c = false :=
    isDelimiter_of_isCalm phrase.isCalm_pieces mem
  have read := Dialect.lexemes_of_scan (phrase.scan_writeFrom written) symbols
  rw [phrase.lexemes_writeFrom written] at read
  refine .of_filter ?_
  rw [← Option.some.inj read]
  exact phrase.balanced

end Phrase

end CheckedSql
