import CheckedSql.Proofs.Writing.Lexeme
import CheckedSql.Proofs.Writing.Literal

/-!
# Balanced lexemes

Some words hold a union or a join together, and they stand outside of parentheses.  To
find them, a reader must know that every parenthesis is closed where it should be, and
that nothing else holds such a word.  `Balanced stops` says both of a list of lexemes,
with `stops` for the words.

Written values are `Balanced`, whatever the words are (`LiteralText.lexemes`): they are
made of other words, of numbers and of quoted texts.
-/

namespace CheckedSql

/-! ## Levels -/

/-- The words between the selects of a union, and in front of what belongs to all of it. -/
def unionWords : List String := ["UNION", "ORDER", "LIMIT", "OFFSET"]

/-- The words between the tables of a join. -/
def joinWords : List String := ["INNER", "LEFT", "RIGHT", "FULL", "CROSS", "ON"]

/-- What a phrase may hold outside of parentheses. -/
inductive Level where
  /-- No word of a union or a join. -/
  | expression
  /-- No word of a union. -/
  | table
  | query
  deriving DecidableEq

/-- The words that a phrase of a level does without. -/
def Level.stops : Level → List String
  | expression => unionWords ++ joinWords
  | table => unionWords
  | query => []

/-! ## Balanced lexemes -/

namespace Lexeme

/-- Whether the lexeme is one of these words, in any case. -/
def isOneOf (words : List String) : Lexeme → Bool
  | word text => words.contains (asciiUpper text)
  | _ => false

/-- Whether the lexeme is a parenthesis. -/
def isParenthesis : Lexeme → Bool
  | symbol c => c == '(' || c == ')'
  | _ => false

/-- Whether the lexeme is neither a parenthesis nor one of these words. -/
def isFlat (stops : List String) (lexeme : Lexeme) : Bool :=
  !lexeme.isParenthesis && !lexeme.isOneOf stops

theorem isFlat_of_subset {stops fewer : List String} (subset : fewer ⊆ stops) {lexeme : Lexeme}
    (flat : lexeme.isFlat stops = true) : lexeme.isFlat fewer = true := by
  cases lexeme with
  | word text =>
      simp only [isFlat, isParenthesis, isOneOf, Bool.not_false, Bool.true_and,
        Bool.not_eq_true'] at flat ⊢
      rw [← Bool.not_eq_true, List.contains_iff_mem] at flat ⊢
      exact fun mem => flat (subset mem)
  | quoted | placeholder | symbol => exact flat

end Lexeme

/-- The parentheses of lexemes are in pairs, and outside of them there is none of the words. -/
inductive Balanced : List String → List Lexeme → Prop where
  | nil (stops : List String) : Balanced stops []
  | cons {stops : List String} {lexeme : Lexeme} {rest : List Lexeme} :
      lexeme.isFlat stops = true → Balanced stops rest → Balanced stops (lexeme :: rest)
  | group {stops : List String} {inner rest : List Lexeme} :
      Balanced [] inner → Balanced stops rest →
      Balanced stops (.symbol '(' :: (inner ++ .symbol ')' :: rest))

namespace Balanced

variable {stops fewer : List String} {first second found : List Lexeme}

theorem of_isFlat (flat : found.all (Lexeme.isFlat stops) = true) : Balanced stops found := by
  induction found with
  | nil => exact .nil stops
  | cons lexeme rest ih =>
      rw [List.all_cons, Bool.and_eq_true] at flat
      exact .cons flat.1 (ih flat.2)

theorem append (balancedFirst : Balanced stops first) (balancedSecond : Balanced stops second) :
    Balanced stops (first ++ second) := by
  induction balancedFirst with
  | nil => exact balancedSecond
  | cons flat _ ih => exact .cons flat (ih balancedSecond)
  | @group stops inner rest balancedInner _ _ ih =>
      have rest := ih balancedSecond
      rw [List.cons_append, List.append_assoc, List.cons_append]
      exact .group balancedInner rest

theorem weaken (balanced : Balanced stops found) (subset : fewer ⊆ stops) :
    Balanced fewer found := by
  induction balanced with
  | nil => exact .nil fewer
  | cons flat _ ih => exact .cons (Lexeme.isFlat_of_subset subset flat) (ih subset)
  | group inner _ _ ih => exact .group inner (ih subset)

end Balanced

/-! ## Literals -/

theorem isNumeric_toUpper {c : Char} (numeric : isNumeric c = true) :
    isNumeric c.toUpper = true ∨ c.toUpper = 'E' := by
  simp only [isNumeric, Bool.or_eq_true, beq_iff_eq] at numeric
  rcases numeric with ((isDigit | rfl) | rfl) | rfl
  · have notLower : ¬ ('a'.val ≤ c.val ∧ c.val ≤ 'z'.val) := by grind [Char.isDigit]
    have same : c.toUpper = c := dif_neg notLower
    exact .inl (by simp [same, isNumeric, isDigit])
  · exact .inl rfl
  · exact .inl rfl
  · exact .inr rfl

/-- A word made of the characters of numbers holds nothing together. -/
theorem Lexeme.isFlat_of_numeric {chars : List Char} (numeric : Numeric chars) :
    (word (.ofList chars)).isFlat Level.expression.stops = true := by
  have stopsDiffer : (Level.expression.stops.all fun stop =>
      stop.toList.any fun c => !(isNumeric c || c == 'E')) = true := by decide
  simp only [isFlat, isParenthesis, isOneOf, Bool.not_false, Bool.true_and, Bool.not_eq_true']
  rw [← Bool.not_eq_true, List.contains_iff_mem]
  intro mem
  obtain ⟨c, cMem, differs⟩ := List.any_eq_true.1 (List.all_eq_true.1 stopsDiffer _ mem)
  rw [toList_asciiUpper, String.toList_ofList] at cMem
  obtain ⟨lower, lowerMem, rfl⟩ := List.mem_map.1 cMem
  rcases isNumeric_toUpper (numeric lower lowerMem) with isNumeric | isE
  · simp [isNumeric] at differs
  · simp [isE] at differs

namespace Lexing

/-- Nothing but a number has been read. -/
def IsNumeric : Lexing → Prop
  | between => True
  | inWord chars => Numeric chars
  | _ => False

theorem start_of_isNumeric {c : Char} (numeric : isNumeric c = true) :
    (start c).1.all (Lexeme.isFlat Level.expression.stops) = true ∧ (start c).2.IsNumeric := by
  cases isPart : isNamePart c with
  | true =>
      rw [start_of_isNamePart isPart]
      exact ⟨rfl, Numeric.cons_iff.2 ⟨numeric, .nil⟩⟩
  | false =>
      have isSign : c = '-' ∨ c = '.' := by
        simp only [isNumeric, isNamePart, Char.isAlphanum, Bool.or_eq_true, Bool.or_eq_false_iff,
          beq_iff_eq] at numeric isPart
        rcases numeric with ((isDigit | isMinus) | isPoint) | rfl
        · exact absurd isDigit (by simp [isPart])
        · exact .inl isMinus
        · exact .inr isPoint
        · exact absurd isPart (by decide)
      rcases isSign with rfl | rfl <;> exact ⟨rfl, trivial⟩

theorem IsNumeric.step {state : Lexing} (isNumeric : state.IsNumeric) {c : Char}
    (numeric : CheckedSql.isNumeric c = true) :
    (state.step c).1.all (Lexeme.isFlat Level.expression.stops) = true
      ∧ (state.step c).2.IsNumeric := by
  have started := start_of_isNumeric numeric
  cases state with
  | between => exact started
  | inWord chars =>
      cases isPart : isNamePart c with
      | true =>
          simp only [Lexing.step, next?, isPart, if_true]
          exact ⟨rfl, Numeric.append_iff.2 ⟨isNumeric, Numeric.cons_iff.2 ⟨numeric, .nil⟩⟩⟩
      | false =>
          simp only [Lexing.step, next?, isPart, Bool.false_eq_true, if_false, finish?,
            Option.getD_some, List.cons_append, List.nil_append, List.all_cons,
            Lexeme.isFlat_of_numeric isNumeric, Bool.true_and]
          exact started
  | inQuotes | behindQuotes | inPlaceholder => cases isNumeric

theorem IsNumeric.run {state : Lexing} (isNumeric : state.IsNumeric) {text : List Char}
    (numeric : Numeric text) :
    (state.run text).1.all (Lexeme.isFlat Level.expression.stops) = true
      ∧ (state.run text).2.IsNumeric := by
  induction text generalizing state with
  | nil => exact ⟨rfl, isNumeric⟩
  | cons c text ih =>
      obtain ⟨first, others⟩ := Numeric.cons_iff.1 numeric
      obtain ⟨flatFirst, stepped⟩ := isNumeric.step first
      obtain ⟨flatOthers, last⟩ := ih stepped others
      refine ⟨?_, last⟩
      rw [Lexing.run, List.all_append, flatFirst, flatOthers]
      rfl

end Lexing

/-- A number has lexemes, and none of them holds anything together. -/
theorem lexemes_of_numeric {text : List Char} (numeric : Numeric text) :
    ∃ found, lexemes text = some found ∧ Balanced Level.expression.stops found := by
  have start : Lexing.between.IsNumeric := trivial
  obtain ⟨flat, last⟩ := start.run numeric
  cases state : (Lexing.between.run text).2 with
  | between =>
      refine ⟨_, lexemes_eq_some.2 ⟨[], by rw [state]; rfl, rfl⟩, ?_⟩
      rw [List.append_nil]
      exact .of_isFlat flat
  | inWord chars =>
      rw [state] at last
      refine ⟨_, lexemes_eq_some.2 ⟨[.word (.ofList chars)], by rw [state]; rfl, rfl⟩, ?_⟩
      refine (Balanced.of_isFlat flat).append (.cons ?_ (.nil _))
      exact Lexeme.isFlat_of_numeric last
  | inQuotes | behindQuotes | inPlaceholder =>
      rw [state] at last
      cases last

/-- A quoted text between two texts is one lexeme between those of the two. -/
theorem lexemes_framed {front back : List Char} {before behind : List Lexeme} (content : List Char)
    (frontRead : lexemes front = some before)
    (apart : (Lexing.between.run front).2.next? '\'' = none)
    (backRead : lexemes back = some behind) (leads : leadsApart back = true) :
    lexemes (front ++ (quotedBy '\'' content ++ back))
      = some (before ++ .quoted '\'' (.ofList content) :: behind) := by
  have quoted := lexemes_quotedBy (rfl : isDelimiter '\'' = true) content
  have rest := lexemes_append_of_leadsApart quoted backRead leads
  refine lexemes_append frontRead rest ?_
  rintro c ⟨⟩
  exact apart

/-- A written value has lexemes, and none outside of parentheses holds anything together. -/
theorem LiteralText.lexemes {text : List Char} (form : LiteralText text) :
    ∃ found, lexemes text = some found ∧ Balanced Level.expression.stops found := by
  cases form with
  | word mem =>
      simp only [List.mem_cons, List.not_mem_nil, or_false] at mem
      rcases mem with rfl | rfl | rfl
      · exact ⟨[.word "NULL"], by decide, .of_isFlat rfl⟩
      · exact ⟨[.word "true"], by decide, .of_isFlat rfl⟩
      · exact ⟨[.word "false"], by decide, .of_isFlat rfl⟩
  | number number => exact lexemes_of_numeric number.numeric
  | @quoted front back content mem =>
      simp only [literalFrames, List.mem_cons, Prod.mk.injEq, List.not_mem_nil, or_false] at mem
      rcases mem with ⟨rfl, rfl⟩ | ⟨rfl, rfl⟩ | ⟨rfl, rfl⟩ | ⟨rfl, rfl⟩ | ⟨rfl, rfl⟩ | ⟨rfl, rfl⟩
      · exact ⟨_, lexemes_framed content rfl rfl rfl rfl, .of_isFlat rfl⟩
      · exact ⟨_, lexemes_framed content rfl rfl rfl rfl, .of_isFlat rfl⟩
      · exact ⟨_, lexemes_framed content rfl rfl rfl rfl, .of_isFlat rfl⟩
      · exact ⟨_, lexemes_framed content rfl rfl rfl rfl, .of_isFlat rfl⟩
      · have inside : Balanced [] [.quoted '\'' (.ofList content)] := .of_isFlat rfl
        exact ⟨_, lexemes_framed content rfl rfl rfl rfl, .cons rfl (.group inside (.nil _))⟩
      · have inside : Balanced [] [.quoted '\'' "%Y-%m-%d %H:%M:%f", .symbol ',',
            .quoted '\'' (.ofList content)] := .of_isFlat rfl
        have read : CheckedSql.lexemes "STRFTIME('%Y-%m-%d %H:%M:%f', ".toList
            = some [.word "STRFTIME", .symbol '(', .quoted '\'' "%Y-%m-%d %H:%M:%f",
              .symbol ','] := by decide
        exact ⟨_, lexemes_framed content read rfl rfl rfl, .cons rfl (.group inside (.nil _))⟩

end CheckedSql
