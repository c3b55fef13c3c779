import CheckedSql.Proofs.Verdict
import CheckedSql.Proofs.Writing.Calm
import CheckedSql.Proofs.Writing.ReservedWord
import CheckedSql.Proofs.Writing.Separation

/-!
# Phrases

A phrase is a list of tokens that is put together in a few ways: names, values and
placeholders, with texts in front of them, behind them and between them, and with pairs
of texts that enclose a phrase between parentheses.  Its `Level` says which words it does
without outside of parentheses.

The rules keep words apart, so the lexemes of a written phrase are those of its tokens,
one after the other (`Phrase.lexemes_writeFrom`).  They also keep parentheses in pairs
(`Phrase.balanced`).
-/

namespace CheckedSql

/-! ## The lexemes of tokens -/

namespace Token

/-- The lexemes that a token is written with. -/
def lexemes (dialect : Dialect) : Token → List Lexeme
  | text content => (CheckedSql.lexemes content.toList).getD []
  | identifier name =>
      [if needsQuoting name then .quoted dialect.nameDelimiter name else .word name]
  | literal value =>
      match dialect.literal value with
      | .ok content => (CheckedSql.lexemes content.toList).getD []
      | .error _ => []
  | placeholder _ => [.placeholder]

/-- Whether the token is a fixed text. -/
def isText : Token → Bool
  | text _ => true
  | _ => false

end Token

namespace Dialect

/-- The lexemes that tokens are written with. -/
def lexemesOf (dialect : Dialect) (tokens : List Token) : List Lexeme :=
  tokens.flatMap (Token.lexemes dialect)

variable (dialect : Dialect)

@[simp] theorem lexemesOf_nil : dialect.lexemesOf [] = [] := rfl

@[simp] theorem lexemesOf_cons (token : Token) (tokens : List Token) :
    dialect.lexemesOf (token :: tokens) = token.lexemes dialect ++ dialect.lexemesOf tokens :=
  List.flatMap_cons

@[simp] theorem lexemesOf_append (first second : List Token) :
    dialect.lexemesOf (first ++ second) = dialect.lexemesOf first ++ dialect.lexemesOf second :=
  List.flatMap_append

end Dialect

/-- A bare name is a run of letters, digits and underscores. -/
theorem exists_of_bare {name : String} (bare : needsQuoting name = false) :
    ∃ first rest, name.toList = first :: rest ∧ isNamePart first = true
      ∧ ∀ c ∈ rest, isNamePart c = true := by
  unfold needsQuoting at bare
  split at bare
  · cases bare
  · next first rest chars =>
      simp only [Bool.or_eq_false_iff, Bool.not_eq_false'] at bare
      refine ⟨first, rest, chars, ?_, List.all_eq_true.1 bare.1.2⟩
      have isStart := bare.1.1
      simp only [isNameStart, isNamePart, Char.isAlphanum, Bool.or_eq_true] at isStart ⊢
      exact isStart.imp_left .inl

theorem not_isDigit_of_isAlpha {c : Char} (alpha : c.isAlpha) : ¬ c.isDigit := by
  have upper (isUpper : c.isUpper = true) : 65 ≤ c.toNat := (of_decide_eq_true isUpper).1
  have lower (isLower : c.isLower = true) : 97 ≤ c.toNat :=
    of_decide_eq_true (Bool.and_eq_true_iff.1 isLower).1
  have letter : 65 ≤ c.toNat := by
    rcases Bool.or_eq_true_iff.1 alpha with isUpper | isLower
    · exact upper isUpper
    · exact Nat.le_trans (by decide) (lower isLower)
  rw [Char.isDigit_iff_toNat]
  exact fun digit => absurd (Nat.le_trans letter digit.2) (by decide)

/-- A bare name starts with no digit. -/
theorem isDigit_head_of_bare {name : String} (bare : needsQuoting name = false) :
    name.toList.head?.any Char.isDigit = false := by
  unfold needsQuoting at bare
  split at bare
  · cases bare
  · next first rest chars =>
      simp only [Bool.or_eq_false_iff, Bool.not_eq_false'] at bare
      have isStart := bare.1.1
      simp only [isNameStart, Bool.or_eq_true, beq_iff_eq] at isStart
      rw [chars, List.head?_cons, Option.any_some]
      rcases isStart with alpha | rfl
      · exact Bool.eq_false_iff.2 (not_isDigit_of_isAlpha alpha)
      · rfl

/-- A bare name is a word. -/
theorem lexemes_of_bare {name : String} (bare : needsQuoting name = false) :
    lexemes name.toList = some [.word name] := by
  obtain ⟨first, rest, chars, isPart, others⟩ := exists_of_bare bare
  rw [chars, lexemes_word isPart others, ← chars, String.ofList_toList]

/-- A bare name is no reserved word, so it holds nothing together. -/
theorem isFlat_of_bare {name : String} (bare : needsQuoting name = false) :
    (Lexeme.word name).isFlat Level.expression.stops = true := by
  have reserved : Level.expression.stops ⊆ reservedWords.toList := by decide
  have notReserved : isReservedWord name = false := by
    unfold needsQuoting at bare
    split at bare
    · cases bare
    · exact (Bool.or_eq_false_iff.1 bare).2
  rw [← Bool.not_eq_true, isReservedWord_iff] at notReserved
  simp only [Lexeme.isFlat, Lexeme.isParenthesis, Lexeme.isOneOf, Bool.not_false, Bool.true_and,
    Bool.not_eq_true']
  rw [← Bool.not_eq_true, List.contains_iff_mem]
  exact fun mem => notReserved (reserved mem)

theorem Level.stops_subset (level : Level) : level.stops ⊆ Level.expression.stops := by
  cases level <;> decide

namespace Token

variable {dialect : Dialect} {token : Token}

/-- The lexemes of a written name, value or placeholder. -/
theorem lexemes_writeToken {position : Nat} {sql : String} (notText : token.isText = false)
    (written : dialect.writeToken position token = .ok sql) :
    CheckedSql.lexemes sql.toList = some (token.lexemes dialect) := by
  cases token with
  | text => cases notText
  | identifier name =>
      obtain rfl := Except.ok.inj written
      rw [Dialect.quoteName, lexemes]
      split
      · rw [String.toList_ofList, lexemes_quotedBy dialect.isDelimiter_nameDelimiter,
          String.ofList_toList]
      · next bare => exact lexemes_of_bare (Bool.not_eq_true _ ▸ bare)
  | literal value =>
      obtain ⟨found, read, -⟩ := (LiteralText.literal written).lexemes
      have same : dialect.literal value = .ok sql := written
      simp only [lexemes, same, read, Option.getD_some]
  | placeholder parameter =>
      obtain rfl := Except.ok.inj written
      obtain ⟨mark, digits, chars, isMark, allDigits⟩ := dialect.toList_placeholder position
      rw [chars]
      exact lexemes_placeholder isMark allDigits

/-- A written name, value or placeholder holds nothing together. -/
theorem balanced_lexemes (notText : token.isText = false) (level : Level) :
    Balanced level.stops (token.lexemes dialect) := by
  refine Balanced.weaken ?_ level.stops_subset
  cases token with
  | text => cases notText
  | identifier name =>
      rw [lexemes]
      split
      · exact .of_isFlat rfl
      · next bare => exact .cons (isFlat_of_bare (Bool.not_eq_true _ ▸ bare)) (.nil _)
  | literal value =>
      rw [lexemes]
      split
      · next content written =>
          obtain ⟨found, read, balanced⟩ := (LiteralText.literal written).lexemes
          rwa [read]
      · exact .nil _
  | placeholder parameter => exact .of_isFlat rfl

end Token

/-! ## Fixed texts -/

/-- Whether a text is calm and has lexemes, none of which is a parenthesis or one of these words. -/
def isFlatText (stops : List String) (text : String) : Bool :=
  isCalmText text && (lexemes text.toList).any (·.all (Lexeme.isFlat stops))

theorem isFlatText_iff {stops : List String} {text : String} :
    isFlatText stops text = true ↔ isCalmText text = true
      ∧ ∃ found, lexemes text.toList = some found ∧ found.all (Lexeme.isFlat stops) = true := by
  rw [isFlatText, Bool.and_eq_true, Option.any_eq_true]

namespace Token

variable {dialect : Dialect} {text : String}

/-- The lexemes of a text that has some. -/
theorem lexemes_text {found : List Lexeme} (read : CheckedSql.lexemes text.toList = some found) :
    (Token.text text).lexemes dialect = found := by
  rw [lexemes, read, Option.getD_some]

variable (dialect) in
theorem lexemes_of_isFlatText {stops : List String} (flat : isFlatText stops text = true) :
    CheckedSql.lexemes text.toList = some ((Token.text text).lexemes dialect)
      ∧ Balanced stops ((Token.text text).lexemes dialect) := by
  obtain ⟨-, found, read, allFlat⟩ := isFlatText_iff.1 flat
  rw [lexemes_text read]
  exact ⟨read, .of_isFlat allFlat⟩

end Token

theorem isFlatText_of_subset {stops fewer : List String} (subset : fewer ⊆ stops) {text : String}
    (flat : isFlatText stops text = true) : isFlatText fewer text = true := by
  obtain ⟨calm, found, read, allFlat⟩ := isFlatText_iff.1 flat
  refine isFlatText_iff.2 ⟨calm, found, read, List.all_eq_true.2 fun lexeme mem => ?_⟩
  exact Lexeme.isFlat_of_subset subset (List.all_eq_true.1 allFlat lexeme mem)

/-- Two texts between which a phrase stands in parentheses. -/
structure Encloses (level : Level) (opening closing : String) : Prop where
  calm : isCalmText opening = true ∧ isCalmText closing = true
  opens : ∃ before behind, lexemes opening.toList = some (before ++ .symbol '(' :: behind)
    ∧ before.all (Lexeme.isFlat level.stops) = true ∧ behind.all (Lexeme.isFlat []) = true
  closes : ∃ behind, lexemes closing.toList = some (.symbol ')' :: behind)
    ∧ Balanced level.stops behind
  trails : trailsApart opening.toList = true
  leads : leadsApart closing.toList = true

theorem Encloses.parentheses (level : Level) : Encloses level "(" ")" where
  calm := by decide
  opens := ⟨[], [], by decide, rfl, rfl⟩
  closes := ⟨[], by decide, .nil _⟩
  trails := by decide
  leads := by decide

namespace Encloses

variable {level : Level} {opening closing : String} (dialect : Dialect)

/-- The lexemes of a text that stands in parentheses. -/
theorem lexemes (encloses : Encloses level opening closing) {inner : List Char}
    {found : List Lexeme} (innerRead : CheckedSql.lexemes inner = some found) :
    CheckedSql.lexemes (opening.toList ++ (inner ++ closing.toList))
      = some ((Token.text opening).lexemes dialect
        ++ (found ++ (Token.text closing).lexemes dialect)) := by
  obtain ⟨before, behind, openingRead, -⟩ := encloses.opens
  obtain ⟨after, closingRead, -⟩ := encloses.closes
  rw [Token.lexemes_text openingRead, Token.lexemes_text closingRead]
  have rest := lexemes_append_of_leadsApart innerRead closingRead encloses.leads
  exact lexemes_append_of_trailsApart openingRead rest encloses.trails

/-- Balanced lexemes that stand in parentheses, with what else is written with those. -/
theorem balanced (encloses : Encloses level opening closing) {found : List Lexeme}
    (inner : Balanced [] found) :
    Balanced level.stops ((Token.text opening).lexemes dialect
      ++ (found ++ (Token.text closing).lexemes dialect)) := by
  obtain ⟨before, behind, openingRead, flatBefore, flatBehind⟩ := encloses.opens
  obtain ⟨after, closingRead, balancedAfter⟩ := encloses.closes
  rw [Token.lexemes_text openingRead, Token.lexemes_text closingRead, List.append_assoc,
    List.cons_append, ← List.append_assoc]
  exact (Balanced.of_isFlat flatBefore).append
    (.group ((Balanced.of_isFlat flatBehind).append inner) balancedAfter)

theorem weaken (encloses : Encloses level opening closing) {other : Level}
    (subset : other.stops ⊆ level.stops) : Encloses other opening closing where
  calm := encloses.calm
  opens := by
    obtain ⟨before, behind, read, flatBefore, flatBehind⟩ := encloses.opens
    refine ⟨before, behind, read, ?_, flatBehind⟩
    exact List.all_eq_true.2 fun lexeme mem =>
      Lexeme.isFlat_of_subset subset (List.all_eq_true.1 flatBefore lexeme mem)
  closes := by
    obtain ⟨behind, read, balanced⟩ := encloses.closes
    exact ⟨behind, read, balanced.weaken subset⟩
  trails := encloses.trails
  leads := encloses.leads

end Encloses

/-! ## Texts between phrases -/

/-- Whether a text goes on with nothing in front of it, and is not empty. -/
def isLeading (text : String) : Bool :=
  text.toList.head?.any fun c => !isNamePart c && !isDelimiter c

/-- Whether a text may stand between any two phrases. -/
def isJoint (stops : List String) (text : String) : Bool :=
  isFlatText stops text && trailsApart text.toList && isLeading text

/-- Whether tokens may stand behind any others. -/
def canFollow : List Token → Bool
  | [] => true
  | .text text :: tokens => isLeading text || text.isEmpty && canFollow tokens
  | _ => false

theorem isJoint_iff {stops : List String} {text : String} :
    isJoint stops text = true ↔ isFlatText stops text = true
      ∧ trailsApart text.toList = true ∧ isLeading text = true := by
  rw [isJoint, Bool.and_eq_true, Bool.and_eq_true, and_assoc]

theorem leadsApart_append {text : String} (leading : isLeading text = true) (behind : List Char) :
    leadsApart (text.toList ++ behind) = true := by
  unfold isLeading at leading
  cases chars : text.toList with
  | nil =>
      rw [chars] at leading
      cases leading
  | cons c rest =>
      rw [chars] at leading
      exact leading

theorem canFollow_append {first second : List Token} (firstFollows : canFollow first = true)
    (secondFollows : canFollow second = true) : canFollow (first ++ second) = true := by
  induction first with
  | nil => exact secondFollows
  | cons token first ih =>
      cases token with
      | text text =>
          simp only [canFollow, Bool.or_eq_true, Bool.and_eq_true, List.cons_append]
            at firstFollows ⊢
          exact firstFollows.imp_right fun ⟨isEmpty, rest⟩ => ⟨isEmpty, ih rest⟩
      | identifier | literal | placeholder => cases firstFollows

/-- Whether the written tokens start with something, and not with a minus sign. -/
def Dialect.startsUnsigned (dialect : Dialect) : List Token → Bool
  | [] => false
  | .text text :: _ => text.toList.head?.any (· != '-')
  | tokens => !dialect.startsWithMinus tokens

/-! ## Phrases -/

/-- Tokens that are put together in these ways. -/
inductive Phrase (dialect : Dialect) : Level → List Token → Prop where
  | nil (level : Level) : Phrase dialect level []
  | single {level : Level} {token : Token} : token.isText = false → Phrase dialect level [token]
  | word {level : Level} {text : String} : isFlatText level.stops text = true →
      Phrase dialect level [.text text]
  | leading {level : Level} {text : String} {tokens : List Token} :
      isFlatText level.stops text = true → trailsApart text.toList = true →
      Phrase dialect level tokens → Phrase dialect level (.text text :: tokens)
  | sign {level : Level} {tokens : List Token} :
      dialect.startsUnsigned tokens = true → Phrase dialect level tokens →
      Phrase dialect level (.text "-" :: tokens)
  | append {level : Level} {first second : List Token} :
      Phrase dialect level first → Phrase dialect level second → canFollow second = true →
      Phrase dialect level (first ++ second)
  | enclosed {level : Level} {opening closing : String} {tokens : List Token} :
      Encloses level opening closing → Phrase dialect .query tokens →
      Phrase dialect level (.text opening :: (tokens ++ [.text closing]))

namespace Dialect

variable {dialect : Dialect} {position : Nat} {first second : List Token} {sql : String}

/-- What tokens are written as, if they are written one after the other. -/
theorem writeFrom_append (written : dialect.writeFrom position (first ++ second) = .ok sql) :
    ∃ before next behind, dialect.writeFrom position first = .ok before
      ∧ dialect.writeFrom next second = .ok behind ∧ sql = before ++ behind := by
  induction first generalizing position sql with
  | nil => exact ⟨"", position, sql, rfl, written, by simp⟩
  | cons token first ih =>
      obtain ⟨text, textWritten, rest⟩ := bind_eq_ok.1 written
      obtain ⟨others, othersWritten, same⟩ := bind_eq_ok.1 rest
      obtain rfl := pure_eq_ok.1 same
      obtain ⟨before, next, behind, beforeWritten, behindWritten, rfl⟩ := ih othersWritten
      refine ⟨text ++ before, next, behind, ?_, behindWritten, by rw [String.append_assoc]⟩
      exact bind_eq_ok.2 ⟨text, textWritten, bind_eq_ok.2 ⟨before, beforeWritten, rfl⟩⟩

theorem writeFrom_text {text : String}
    (written : dialect.writeFrom position (.text text :: second) = .ok sql) :
    ∃ behind, dialect.writeFrom position second = .ok behind ∧ sql = text ++ behind := by
  obtain ⟨piece, pieceWritten, rest⟩ := bind_eq_ok.1 written
  obtain ⟨behind, behindWritten, same⟩ := bind_eq_ok.1 rest
  obtain rfl := pure_eq_ok.1 same
  obtain rfl := Except.ok.inj pieceWritten
  exact ⟨behind, behindWritten, rfl⟩

theorem writeFrom_singleton {token : Token}
    (written : dialect.writeFrom position [token] = .ok sql) :
    dialect.writeToken position token = .ok sql := by
  obtain ⟨piece, pieceWritten, rest⟩ := bind_eq_ok.1 written
  obtain ⟨behind, behindWritten, same⟩ := bind_eq_ok.1 rest
  obtain rfl := pure_eq_ok.1 same
  obtain rfl := Except.ok.inj behindWritten
  rw [pieceWritten, String.append_empty]

theorem leadsApart_writeFrom {tokens : List Token} (follows : canFollow tokens = true)
    (written : dialect.writeFrom position tokens = .ok sql) : leadsApart sql.toList = true := by
  induction tokens generalizing sql with
  | nil =>
      obtain rfl := Except.ok.inj written
      rfl
  | cons token tokens ih =>
      cases token with
      | text text =>
          obtain ⟨behind, behindWritten, rfl⟩ := writeFrom_text written
          rw [canFollow, Bool.or_eq_true, Bool.and_eq_true] at follows
          rcases follows with leading | ⟨isEmpty, rest⟩
          · rw [String.toList_append]
            exact leadsApart_append leading behind.toList
          · rw [String.isEmpty_iff.1 isEmpty, String.empty_append]
            exact ih rest behindWritten
      | identifier | literal | placeholder => cases follows

end Dialect

namespace Phrase

variable {dialect : Dialect} {level : Level} {tokens : List Token}

/-- The lexemes of a written phrase are those of its tokens. -/
theorem lexemes_writeFrom (phrase : Phrase dialect level tokens) {position : Nat} {sql : String}
    (written : dialect.writeFrom position tokens = .ok sql) :
    lexemes sql.toList = some (dialect.lexemesOf tokens) := by
  induction phrase generalizing position sql with
  | nil =>
      obtain rfl := Except.ok.inj written
      rfl
  | single notText =>
      have read := Token.lexemes_writeToken notText (Dialect.writeFrom_singleton written)
      simpa using read
  | word flat =>
      obtain rfl := Except.ok.inj (Dialect.writeFrom_singleton written)
      simpa using (Token.lexemes_of_isFlatText dialect flat).1
  | leading flat trails _ ih =>
      obtain ⟨behind, behindWritten, rfl⟩ := Dialect.writeFrom_text written
      rw [String.toList_append, Dialect.lexemesOf_cons]
      exact lexemes_append_of_trailsApart (Token.lexemes_of_isFlatText dialect flat).1
        (ih behindWritten) trails
  | sign _ _ ih =>
      obtain ⟨behind, behindWritten, rfl⟩ := Dialect.writeFrom_text written
      rw [String.toList_append, Dialect.lexemesOf_cons]
      have read : lexemes "-".toList = some ((Token.text "-").lexemes dialect) := rfl
      exact lexemes_append_of_trailsApart read (ih behindWritten) rfl
  | append _ _ follows firstIh secondIh =>
      obtain ⟨before, next, behind, beforeWritten, behindWritten, rfl⟩ :=
        Dialect.writeFrom_append written
      rw [String.toList_append, Dialect.lexemesOf_append]
      exact lexemes_append_of_leadsApart (firstIh beforeWritten) (secondIh behindWritten)
        (Dialect.leadsApart_writeFrom follows behindWritten)
  | enclosed encloses _ ih =>
      obtain ⟨rest, restWritten, rfl⟩ := Dialect.writeFrom_text written
      obtain ⟨inner, next, behind, innerWritten, behindWritten, rfl⟩ :=
        Dialect.writeFrom_append restWritten
      obtain rfl := Except.ok.inj (Dialect.writeFrom_singleton behindWritten)
      simpa using encloses.lexemes dialect (ih innerWritten)

/-- The parentheses of a phrase are in pairs, and it does without the words of its level. -/
theorem balanced (phrase : Phrase dialect level tokens) :
    Balanced level.stops (dialect.lexemesOf tokens) := by
  induction phrase with
  | nil => exact .nil _
  | @single level token notText => simpa using Token.balanced_lexemes notText level
  | word flat => simpa using (Token.lexemes_of_isFlatText dialect flat).2
  | leading flat _ _ ih =>
      rw [Dialect.lexemesOf_cons]
      exact (Token.lexemes_of_isFlatText dialect flat).2.append ih
  | sign _ _ ih => exact .cons rfl ih
  | append _ _ _ firstIh secondIh =>
      rw [Dialect.lexemesOf_append]
      exact firstIh.append secondIh
  | enclosed encloses _ ih => simpa using encloses.balanced dialect ih

/-- A phrase of a level is one of the levels that allow more. -/
theorem weaken (phrase : Phrase dialect level tokens) {other : Level}
    (subset : other.stops ⊆ level.stops) : Phrase dialect other tokens := by
  induction phrase with
  | nil => exact .nil other
  | single notText => exact .single notText
  | word flat => exact .word (isFlatText_of_subset subset flat)
  | leading flat trails _ ih => exact .leading (isFlatText_of_subset subset flat) trails (ih subset)
  | sign unsigned _ ih => exact .sign unsigned (ih subset)
  | append _ _ follows firstIh secondIh => exact .append (firstIh subset) (secondIh subset) follows
  | enclosed encloses inner _ => exact .enclosed (encloses.weaken subset) inner

end Phrase

end CheckedSql
