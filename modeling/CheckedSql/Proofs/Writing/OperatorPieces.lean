import CheckedSql.Proofs.Writing.OperatorRun
import CheckedSql.Proofs.Writing.Piece

/-!
# Operators in literals

The only operator character that PostgreSQL reads in a literal is the sign of a negative
number (`Value.exists_pieces`).  Other signs are parts of an exponent or stand in quotes.
-/

namespace CheckedSql

/-- There are pieces, which hold no operator and end quietly. -/
def Quiet (found : List Lexeme) : Prop := found ≠ [] ∧ runsIn found = [] ∧ EndsQuiet found

instance (found : List Lexeme) : Decidable (Quiet found) :=
  inferInstanceAs (Decidable (found ≠ [] ∧ runsIn found = [] ∧ EndsQuiet found))

/-- A text is scanned as quiet pieces. -/
def QuietText (text : List Char) : Prop :=
  ∃ found, Dialect.postgres.scan text = some found ∧ Quiet found

/-! ## Numbers -/

/-- A text of digits. -/
def DigitText (text : List Char) : Prop := text ≠ [] ∧ ∀ c ∈ text, c.isDigit = true

section Numbers

variable {text behind : List Char}

theorem isNamePart_of_isDigit {c : Char} (isDigit : c.isDigit = true) : isNamePart c = true := by
  simp [isNamePart, Char.isAlphanum, isDigit]

theorem DigitText.toDigits (number : Nat) : DigitText (Nat.toDigits 10 number) :=
  ⟨Nat.toDigits_ne_nil, fun _ => Nat.isDigit_of_mem_toDigits (by decide) (by decide)⟩

theorem DigitText.cons {c : Char} (isDigit : c.isDigit = true)
    (others : ∀ other ∈ text, other.isDigit = true) : DigitText (c :: text) :=
  ⟨List.cons_ne_nil c text, List.forall_mem_cons.2 ⟨isDigit, others⟩⟩

theorem DigitText.append (digits : DigitText text) (others : ∀ c ∈ behind, c.isDigit = true) :
    DigitText (text ++ behind) :=
  ⟨List.append_ne_nil_of_left_ne_nil digits.1 behind,
    List.forall_mem_append.2 ⟨digits.2, others⟩⟩

/-- A text of digits, with letters and digits behind it, is a word that starts a number. -/
theorem DigitText.scan_append (digits : DigitText text)
    (others : ∀ c ∈ behind, isNamePart c = true) :
    Dialect.postgres.scan (text ++ behind) = some [.word (.ofList (text ++ behind))]
      ∧ (Lexeme.word (.ofList (text ++ behind))).startsNumber = true := by
  obtain ⟨nonempty, each⟩ := digits
  cases text with
  | nil => exact absurd rfl nonempty
  | cons c text =>
      obtain ⟨isDigit, rest⟩ := List.forall_mem_cons.1 each
      refine ⟨Dialect.scan_word (isNamePart_of_isDigit isDigit) ?_, ?_⟩
      · exact List.forall_mem_append.2 ⟨fun c mem => isNamePart_of_isDigit (rest c mem), others⟩
      · simp [Lexeme.startsNumber, isDigit]

theorem DigitText.scan (digits : DigitText text) :
    Dialect.postgres.scan text = some [.word (.ofList text)]
      ∧ (Lexeme.word (.ofList text)).startsNumber = true := by
  have nothing : ∀ c ∈ ([] : List Char), isNamePart c = true := nofun
  have read := digits.scan_append nothing
  rwa [List.append_nil] at read

/-- What ends in a digit is no mantissa. -/
theorem DigitText.not_isMantissa (digits : DigitText behind) (text : List Char) :
    (Lexeme.word (.ofList (text ++ behind))).isMantissa = false := by
  obtain ⟨nonempty, each⟩ := digits
  have last : ((text ++ behind).getLast? == some 'e') = false := by
    rw [List.getLast?_append_of_ne_nil text nonempty, beq_eq_false_iff_ne]
    intro isLast
    have isDigit := each 'e' (List.mem_of_getLast? isLast)
    cases isDigit
  rw [Lexeme.isMantissa, String.toList_ofList, last, Bool.and_false]

theorem quiet_word {text : String} (notMantissa : (Lexeme.word text).isMantissa = false) :
    Quiet [.word text] := by
  refine ⟨List.cons_ne_nil _ _, rfl, ?_⟩
  rintro _ ⟨⟩
  simp [Lexeme.isQuiet, Lexeme.isOperator, notMantissa]

theorem quiet_quoted (delimiter : Char) (content : String) :
    Quiet [.quoted delimiter content] := by
  refine ⟨List.cons_ne_nil _ _, rfl, ?_⟩
  rintro _ ⟨⟩
  rfl

/-- The sign of an exponent is no operator. -/
theorem quiet_exponent {front digits : String} (isMantissa : (Lexeme.word front).isMantissa = true)
    (isNumber : (Lexeme.word digits).startsNumber = true)
    (notMantissa : (Lexeme.word digits).isMantissa = false) :
    Quiet [.word front, .symbol '-', .word digits] := by
  have sign : (Lexeme.symbol '-').operator? true [.word digits] = none := by
    simp [Lexeme.operator?, isSign, isNumber]
  have last : EndsQuiet [.word digits] := (quiet_word notMantissa).2.2
  refine ⟨List.cons_ne_nil _ _, ?_,
    last.append_left (List.cons_ne_nil _ _) [.word front, .symbol '-']⟩
  simp only [runsIn, runsFrom, Lexeme.operator?, isMantissa] at sign ⊢
  rw [sign]
  rfl

theorem DigitText.quietText (digits : DigitText text) : QuietText text :=
  ⟨_, digits.scan.1, quiet_word (digits.not_isMantissa [])⟩

/-- Digits with a point and more digits behind them. -/
theorem quietText_point (digits : DigitText text) (quiet : QuietText behind) :
    QuietText (text ++ '.' :: behind) := by
  obtain ⟨found, read, -, noRuns, ends⟩ := quiet
  have point : Dialect.postgres.scan ['.'] = some [.symbol '.'] := rfl
  have rest := Dialect.scan_append_of_trailsApart (by decide) (by decide) point read
  have whole : EndsQuiet [.word (.ofList text), .symbol '.'] := by
    rintro _ ⟨⟩
    rfl
  refine ⟨_, Dialect.scan_append digits.scan.1 rest rfl, by simp, ?_, ?_⟩
  · exact (runsIn_append whole found).trans noRuns
  · exact whole.append ends

/-- The text of an integer. -/
theorem toList_intText (number : Int) :
    (toString number).toList
      = (if number < 0 then ['-'] else []) ++ Nat.toDigits 10 number.natAbs := by
  rw [Int.toString_eq_repr, Int.repr_eq_if]
  split
  · next nonnegative =>
      have magnitude : number.toNat = number.natAbs := by omega
      rw [Nat.toList_repr, if_neg (by omega), List.nil_append, magnitude]
  · next negative =>
      have magnitude : (-number).toNat = number.natAbs := by omega
      rw [String.toList_append, Nat.toList_repr, if_pos (by omega), magnitude]
      rfl

/-- Digits with an exponent behind them. -/
theorem quietText_exponent (digits : DigitText text) (exponent : Int) :
    QuietText (text ++ 'e' :: (toString exponent).toList) := by
  have places := DigitText.toDigits exponent.natAbs
  rw [toList_intText]
  split
  · have mark : ∀ c ∈ ['e'], isNamePart c = true := List.forall_mem_singleton.2 rfl
    obtain ⟨front, starts⟩ := digits.scan_append mark
    obtain ⟨behind, isNumber⟩ := places.scan
    have isMantissa : (Lexeme.word (.ofList (text ++ ['e']))).isMantissa = true := by
      rw [Lexeme.startsNumber] at starts
      rw [Lexeme.isMantissa, starts, String.toList_ofList, List.getLast?_append]
      rfl
    have read := Dialect.scan_append front (Dialect.postgres.scan_minus behind) rfl
    rw [List.append_assoc] at read
    exact ⟨_, read, quiet_exponent isMantissa isNumber (places.not_isMantissa [])⟩
  · have named : ∀ c ∈ 'e' :: Nat.toDigits 10 exponent.natAbs, isNamePart c = true :=
      List.forall_mem_cons.2 ⟨rfl, fun c mem => isNamePart_of_isDigit (places.2 c mem)⟩
    have whole : text ++ 'e' :: Nat.toDigits 10 exponent.natAbs
        = text ++ ['e'] ++ Nat.toDigits 10 exponent.natAbs := by simp
    refine ⟨_, (digits.scan_append named).1, quiet_word ?_⟩
    rw [whole]
    exact places.not_isMantissa _

theorem quietText_positional (x : Binary64) : QuietText (floatLayout.positional x.shortest) := by
  obtain ⟨leading, others⟩ := isDigit_shortest x
  have zeros (count : Nat) : ∀ c ∈ List.replicate count '0', c.isDigit = true := by
    intro c mem
    rw [List.eq_of_mem_replicate mem]
    rfl
  have zero : DigitText ['0'] := .cons rfl nofun
  unfold Binary64.Layout.positional
  split
  · have behind : DigitText (List.replicate ((-x.shortest.exponent).toNat - 1) '0'
        ++ x.shortest.leading :: x.shortest.others) :=
      ⟨by simp, List.forall_mem_append.2 ⟨zeros _, List.forall_mem_cons.2 ⟨leading, others⟩⟩⟩
    exact quietText_point zero behind.quietText
  · have whole : DigitText (x.shortest.leading ::
        x.shortest.others.take x.shortest.exponent.toNat
          ++ List.replicate (x.shortest.exponent.toNat - x.shortest.others.length) '0') :=
      DigitText.append (.cons leading fun c mem => others c (List.mem_of_mem_take mem)) (zeros _)
    dsimp only
    split
    · exact quietText_point whole zero.quietText
    · next nonempty =>
        have behind : DigitText (x.shortest.others.drop x.shortest.exponent.toNat) :=
          ⟨nonempty, fun c mem => others c (List.mem_of_mem_drop mem)⟩
        exact quietText_point whole behind.quietText

theorem quietText_scientific (x : Binary64) : QuietText (floatLayout.scientific x.shortest) := by
  obtain ⟨leading, others⟩ := isDigit_shortest x
  have first : DigitText [x.shortest.leading] := .cons leading nofun
  unfold Binary64.Layout.scientific
  dsimp only
  split
  · exact quietText_exponent first _
  · next nonempty =>
      have behind : DigitText x.shortest.others := ⟨nonempty, others⟩
      exact quietText_point first (quietText_exponent behind _)

/-- The text of a finite number, without its sign, is quiet. -/
theorem exists_floatText (x : Binary64) :
    ∃ text, floatLayout.write x = (if x.isNegative then ['-'] else []) ++ text
      ∧ QuietText text := by
  refine ⟨_, rfl, ?_⟩
  split
  · exact quietText_positional x
  · exact quietText_scientific x

end Numbers

/-! ## Values -/

/-- Whether the literal of a value starts with a sign.  NaN and the infinities are quoted. -/
def Value.isSigned : Value → Bool
  | int number => number.toInt < 0
  | float number => number.isNegative && !number.isNaN && !number.isInfinite
  | _ => false

/-- A number starts with a digit or with a sign. -/
theorem NumberPieces.isNumeric_head {found : List Lexeme} (pieces : NumberPieces found) :
    ∃ c ∈ (found.flatMap Lexeme.spell).head?, isNumeric c = true := by
  cases pieces with
  | positive positive =>
      obtain ⟨text, others, rfl, digit⟩ := positive.starts
      obtain ⟨c, isFirst, isDigit⟩ := (Option.any_eq_true _ _).1 digit
      refine ⟨c, ?_, by simp [isNumeric, isDigit]⟩
      rw [List.flatMap_cons, List.head?_append, Lexeme.spell, isFirst]
      rfl
  | negative positive => exact ⟨'-', rfl, rfl⟩

/-- A literal that starts with no character of a number is quiet. -/
theorem LiteralText.quietText {text : List Char} (form : LiteralText text)
    (notNumeric : text.head?.any isNumeric = false) : QuietText text := by
  obtain ⟨found, read, pieces⟩ := form.scan .postgres
  refine ⟨found, read, pieces.known.1, ?_⟩
  cases pieces with
  | @word text mem =>
      simp only [List.mem_cons, List.not_mem_nil, or_false] at mem
      rcases mem with rfl | rfl | rfl <;> decide
  | number number =>
      obtain ⟨c, isFirst, numeric⟩ := number.isNumeric_head
      rw [Dialect.spell_of_scan read (LiteralPieces.number number).known.2] at isFirst
      have starts : text.head?.any isNumeric = true :=
        (Option.any_eq_true _ _).2 ⟨c, isFirst, numeric⟩
      rw [notNumeric] at starts
      cases starts
  | @quoted before behind content mem =>
      have frames : ∀ frame ∈ literalFramePieces, (runsIn frame.1 = [] ∧ EndsQuiet frame.1)
          ∧ runsIn frame.2 = [] ∧ EndsQuiet frame.2 := by decide
      obtain ⟨⟨noneBefore, endsBefore⟩, noneBehind, endsBehind⟩ := frames _ mem
      obtain ⟨-, -, endsQuoted⟩ := quiet_quoted '\'' content
      refine ⟨?_, endsBefore.append (endsQuoted.append endsBehind)⟩
      rw [runsIn_append endsBefore, noneBefore, List.nil_append]
      exact (runsIn_append endsQuoted behind).trans noneBehind

/-- A literal that starts neither with a sign nor with a digit is a quiet text. -/
theorem Value.exists_literal_of_unsigned {value : Value} {content : String}
    (written : Dialect.postgres.literal value = .ok content) (unsigned : value.isSigned = false)
    (notNumeric : content.toList.head?.any isNumeric = false) :
    ∃ content text, Dialect.postgres.literal value = .ok content
      ∧ content.toList = (if value.isSigned then ['-'] else []) ++ text ∧ QuietText text :=
  ⟨content, _, written, by rw [unsigned]; rfl, (LiteralText.literal written).quietText notNumeric⟩

theorem Value.exists_literal_float (number : Binary64) :
    ∃ content text, Dialect.postgres.literal (.float number) = .ok content
      ∧ content.toList = (if (float number).isSigned then ['-'] else []) ++ text
      ∧ QuietText text := by
  cases isNaN : number.isNaN with
  | true =>
      have written : Dialect.postgres.literal (.float number) = .ok "'NaN'" := by
        simp [Dialect.literal, Dialect.floatLiteral, isNaN, Dialect.nanLiteral?,
          Dialect.orUnsupported]
      exact exists_literal_of_unsigned written (by simp [isSigned, isNaN]) (by decide)
  | false =>
      cases isInfinite : number.isInfinite with
      | true =>
          have written : Dialect.postgres.literal (.float number)
              = .ok (if number.isNegative then "'-Infinity'" else "'Infinity'") := by
            cases isNegative : number.isNegative <;>
              simp [Dialect.literal, Dialect.floatLiteral, isNaN, isInfinite, isNegative,
                Dialect.infinityLiteral?, Dialect.orUnsupported]
          refine exists_literal_of_unsigned written (by simp [isSigned, isInfinite]) ?_
          split <;> decide
      | false =>
          obtain ⟨text, sign, quiet⟩ := exists_floatText number
          refine ⟨.ofList (floatLayout.write number), text, ?_, ?_, quiet⟩
          · simp [Dialect.literal, Dialect.floatLiteral, isNaN, isInfinite]
          · simp [sign, isSigned, isNaN, isInfinite]

/-- The literal of a value is a quiet text, with a sign in front of it if the value is signed. -/
theorem Value.exists_literal (value : Value) :
    ∃ content text, Dialect.postgres.literal value = .ok content
      ∧ content.toList = (if value.isSigned then ['-'] else []) ++ text ∧ QuietText text := by
  cases value with
  | int number =>
      refine ⟨_, Nat.toDigits 10 number.toInt.natAbs, rfl, ?_, (DigitText.toDigits _).quietText⟩
      rw [toList_intText]
      simp [Value.isSigned]
  | uint number =>
      refine ⟨toString number.toNat, Nat.toDigits 10 number.toNat, ?_, ?_,
        (DigitText.toDigits _).quietText⟩
      · simp [Dialect.literal, Dialect.unsignedLiteral]
      · rw [Nat.toString_eq_repr, Nat.toList_repr]
        rfl
  | float number => exact exists_literal_float number
  | null => exact exists_literal_of_unsigned rfl rfl (by decide)
  | bool truth => cases truth <;> exact exists_literal_of_unsigned rfl rfl (by decide)
  | text content =>
      have written : Dialect.postgres.literal (.text content)
          = .ok (Dialect.textLiteral content) := rfl
      refine exists_literal_of_unsigned written rfl ?_
      simp [Dialect.textLiteral, quotedBy, isNumeric]
  | blob bytes =>
      have written : Dialect.postgres.literal (.blob bytes)
          = .ok (Dialect.postgres.blobLiteral bytes) := rfl
      refine exists_literal_of_unsigned written rfl ?_
      simp [Dialect.blobLiteral, isNumeric]
  | date date =>
      have written : Dialect.postgres.literal (.date date)
          = .ok (Dialect.postgres.dateLiteral date) := rfl
      refine exists_literal_of_unsigned written rfl ?_
      simp [Dialect.dateLiteral, isNumeric]
  | time time =>
      have written : Dialect.postgres.literal (.time time) = .ok (Dialect.timeLiteral time) := rfl
      refine exists_literal_of_unsigned written rfl ?_
      simp [Dialect.timeLiteral, isNumeric]
  | timestamp timestamp =>
      have written : Dialect.postgres.literal (.timestamp timestamp)
          = .ok ("TIMESTAMP '" ++ String.ofList (timestamp.text 'T') ++ "'") := rfl
      refine exists_literal_of_unsigned written rfl ?_
      simp [isNumeric]

/-- A quiet text starts with no sign. -/
theorem QuietText.head?_ne {text : List Char} (quiet : QuietText text) :
    text.head? ≠ some '-' := by
  obtain ⟨found, read, -, noRuns, -⟩ := quiet
  cases text with
  | nil => exact nofun
  | cons c rest =>
      rintro ⟨⟩
      rw [Dialect.scan, Dialect.scanFrom] at read
      obtain ⟨others, -, rfl⟩ := Option.map_eq_some_iff.1 read
      exact Bool.false_ne_true (head_of_runsIn_eq_nil noRuns (.symbol '-') rfl).symm

/-- The written literal starts with a sign exactly if the value is signed. -/
theorem Value.startsWithMinus_literal (value : Value) (tokens : List Token) :
    Dialect.postgres.startsWithMinus (.literal value :: tokens) = value.isSigned := by
  obtain ⟨content, text, written, chars, quiet⟩ := value.exists_literal
  rw [Dialect.startsWithMinus, written]
  show (content.toList.head? == some '-') = value.isSigned
  rw [chars]
  cases value.isSigned with
  | true => rfl
  | false => exact beq_eq_false_iff_ne.2 quiet.head?_ne

/-- The pieces of a literal are quiet, with a sign in front of them if the value is signed. -/
theorem Value.exists_pieces (value : Value) :
    ∃ found, (Token.literal value).pieces .postgres
      = (if value.isSigned then [.symbol '-'] else []) ++ found ∧ Quiet found := by
  obtain ⟨content, text, written, chars, found, read, quiet⟩ := value.exists_literal
  refine ⟨found, ?_, quiet⟩
  rw [Token.pieces, written]
  show (Dialect.postgres.scan content.toList).getD [] = _
  rw [chars]
  cases value.isSigned with
  | true =>
      have signed := Dialect.postgres.scan_minus read
      exact congrArg (Option.getD · []) signed
  | false => exact congrArg (Option.getD · []) read

end CheckedSql
