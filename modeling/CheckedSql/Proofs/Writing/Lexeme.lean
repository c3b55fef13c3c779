import CheckedSql.Proofs.Writing.Reading

/-!
# Lexemes

An engine reads a statement as words, quoted tokens, placeholders and single symbols.
`lexemes` splits a text into them.  It goes through the text once, character by
character, and `Lexing` is what it remembers: the lexeme that it is in, as far as it has
been read.  A quoted token is complete with its closing delimiter, unless another
delimiter follows at once and makes it a part of the content.

Spaces are not read as anything, they only keep words apart.  A text with a quote that
is not closed has no lexemes.

Two texts can be read one after the other unless the second one goes on with what the
first one ends in (`lexemes_append`).
-/

namespace CheckedSql

/-- A piece of a statement as an engine reads it. -/
inductive Lexeme where
  /-- A run of letters, digits and underscores. -/
  | word (text : String)
  | quoted (delimiter : Char) (content : String)
  /-- A placeholder, whatever its number. -/
  | placeholder
  | symbol (c : Char)
  deriving DecidableEq, Repr

/-- The lexeme that a reader is in, as far as it has been read. -/
inductive Lexing where
  | between
  | inWord (chars : List Char)
  | inQuotes (delimiter : Char) (content : List Char)
  /-- Behind a delimiter that may have closed the quoted token. -/
  | behindQuotes (delimiter : Char) (content : List Char)
  | inPlaceholder
  deriving DecidableEq, Repr

namespace Lexing

/-- What a character is the first one of. -/
def start (c : Char) : List Lexeme × Lexing :=
  if isDelimiter c then ([], inQuotes c [])
  else if isMark c then ([], inPlaceholder)
  else if isNamePart c then ([], inWord [c])
  else if c.isWhitespace then ([], between)
  else ([.symbol c], between)

/-- The lexeme, if a character goes on with it. -/
def next? : Lexing → Char → Option Lexing
  | between, _ => none
  | inWord chars, c => if isNamePart c then some (inWord (chars ++ [c])) else none
  | inQuotes delimiter content, c =>
      if c = delimiter then some (behindQuotes delimiter content)
      else some (inQuotes delimiter (content ++ [c]))
  | behindQuotes delimiter content, c =>
      if c = delimiter then some (inQuotes delimiter (content ++ [c])) else none
  | inPlaceholder, c => if c.isDigit then some inPlaceholder else none

/-- The lexeme that a text ends with, if the text may end there. -/
def finish? : Lexing → Option (List Lexeme)
  | between => some []
  | inWord chars => some [.word (.ofList chars)]
  | inQuotes _ _ => none
  | behindQuotes delimiter content => some [.quoted delimiter (.ofList content)]
  | inPlaceholder => some [.placeholder]

/-- One character: it goes on with the lexeme, or it ends the lexeme and is the first one of the
next. -/
def step (state : Lexing) (c : Char) : List Lexeme × Lexing :=
  match state.next? c with
  | some next => ([], next)
  | none => (state.finish?.getD [] ++ (start c).1, (start c).2)

/-- The lexemes that end in a text, and what is read of the last one. -/
def run : Lexing → List Char → List Lexeme × Lexing
  | state, [] => ([], state)
  | state, c :: rest =>
      ((state.step c).1 ++ ((state.step c).2.run rest).1, ((state.step c).2.run rest).2)

end Lexing

/-- The lexemes of a text. -/
def lexemes (text : List Char) : Option (List Lexeme) :=
  (Lexing.between.run text).2.finish?.map ((Lexing.between.run text).1 ++ ·)

example : lexemes "f.x = '1''2'".toList
    = some [.word "f", .symbol '.', .word "x", .symbol '=', .quoted '\'' "1'2"] := by
  decide

namespace Lexing

theorem run_append (state : Lexing) (first second : List Char) :
    state.run (first ++ second)
      = ((state.run first).1 ++ ((state.run first).2.run second).1,
        ((state.run first).2.run second).2) := by
  induction first generalizing state with
  | nil => simp [run]
  | cons c first ih => simp [run, ih]

/-- A character that does not go on with a lexeme ends it. -/
theorem run_of_next?_eq_none {state : Lexing} {c : Char} (ends : state.next? c = none)
    (rest : List Char) :
    state.run (c :: rest)
      = (state.finish?.getD [] ++ (between.run (c :: rest)).1, (between.run (c :: rest)).2) := by
  have here : state.step c = (state.finish?.getD [] ++ (start c).1, (start c).2) := by
    rw [step, ends]
  have fresh : between.step c = start c := rfl
  simp only [run, here, fresh, List.append_assoc]

/-- Quoted tokens stand between delimiters. -/
def IsProper : Lexing → Prop
  | inQuotes delimiter _ | behindQuotes delimiter _ => isDelimiter delimiter = true
  | _ => True

theorem IsProper.step {state : Lexing} (proper : state.IsProper) (c : Char) :
    (state.step c).2.IsProper := by
  have started : (start c).2.IsProper := by
    unfold start
    split
    · assumption
    · split
      · trivial
      · split
        · trivial
        · split <;> trivial
  unfold Lexing.step
  split
  · next next found =>
      cases state with
      | between => cases found
      | inWord chars =>
          rw [next?, Option.ite_none_right_eq_some] at found
          obtain ⟨-, ⟨⟩⟩ := found
          trivial
      | inQuotes delimiter content =>
          rw [next?] at found
          split at found <;> cases found <;> exact proper
      | behindQuotes delimiter content =>
          rw [next?, Option.ite_none_right_eq_some] at found
          obtain ⟨-, ⟨⟩⟩ := found
          exact proper
      | inPlaceholder =>
          rw [next?, Option.ite_none_right_eq_some] at found
          obtain ⟨-, ⟨⟩⟩ := found
          trivial
  · exact started

theorem IsProper.run {state : Lexing} (proper : state.IsProper) (text : List Char) :
    (state.run text).2.IsProper := by
  induction text generalizing state with
  | nil => exact proper
  | cons c text ih => exact ih (proper.step c)

end Lexing

/-! ## Texts one after the other -/

/-- A text has lexemes exactly if it may end where it does. -/
theorem lexemes_eq_some {text : List Char} {found : List Lexeme} :
    lexemes text = some found
      ↔ ∃ last, (Lexing.between.run text).2.finish? = some last
        ∧ (Lexing.between.run text).1 ++ last = found := by
  simp [lexemes]

/-- Two texts are read one after the other, unless the second one goes on with what the first one
ends in. -/
theorem lexemes_append {first second : List Char} {found others : List Lexeme}
    (firstRead : lexemes first = some found) (secondRead : lexemes second = some others)
    (apart : ∀ c ∈ second.head?, (Lexing.between.run first).2.next? c = none) :
    lexemes (first ++ second) = some (found ++ others) := by
  obtain ⟨firstLast, firstEnds, rfl⟩ := lexemes_eq_some.1 firstRead
  obtain ⟨secondLast, secondEnds, rfl⟩ := lexemes_eq_some.1 secondRead
  refine lexemes_eq_some.2 ?_
  rw [Lexing.run_append]
  cases second with
  | nil =>
      refine ⟨firstLast, firstEnds, ?_⟩
      cases secondEnds
      simp [Lexing.run]
  | cons c rest =>
      rw [Lexing.run_of_next?_eq_none (apart c rfl), firstEnds, Option.getD_some]
      exact ⟨secondLast, secondEnds, by simp⟩

/-- Whether a text goes on with nothing that may stand in front of it. -/
def leadsApart (text : List Char) : Bool :=
  text.head?.all fun c => !isNamePart c && !isDelimiter c

/-- Whether nothing that may stand behind a text goes on with it. -/
def trailsApart (text : List Char) : Bool := (Lexing.between.run text).2 == .between

/-- What leads apart goes on with no lexeme that a text may end with. -/
theorem Lexing.next?_of_leadsApart {state : Lexing} (proper : state.IsProper) {last : List Lexeme}
    (ends : state.finish? = some last) {text : List Char} (leads : leadsApart text = true) :
    ∀ c ∈ text.head?, state.next? c = none := by
  intro c mem
  rw [leadsApart, Option.mem_def.1 mem, Option.all_some, Bool.and_eq_true, Bool.not_eq_true',
    Bool.not_eq_true'] at leads
  cases state with
  | between => rfl
  | inWord chars => simp [next?, leads.1]
  | inQuotes delimiter content => cases ends
  | behindQuotes delimiter content =>
      have differs : c ≠ delimiter := by
        rintro rfl
        exact Bool.false_ne_true (leads.2.symm.trans proper)
      simp [next?, differs]
  | inPlaceholder =>
      have noDigit : c.isDigit = false := by
        have noPart := leads.1
        simp only [isNamePart, Char.isAlphanum, Bool.or_eq_false_iff] at noPart
        exact noPart.1.2
      simp [next?, noDigit]

/-- A text may be read behind any other one if it leads apart. -/
theorem lexemes_append_of_leadsApart {first second : List Char} {found others : List Lexeme}
    (firstRead : lexemes first = some found) (secondRead : lexemes second = some others)
    (leads : leadsApart second = true) :
    lexemes (first ++ second) = some (found ++ others) := by
  obtain ⟨last, ends, -⟩ := lexemes_eq_some.1 firstRead
  have isProper : Lexing.between.IsProper := trivial
  exact lexemes_append firstRead secondRead
    (Lexing.next?_of_leadsApart (isProper.run first) ends leads)

/-- Any text may be read behind one that trails apart. -/
theorem lexemes_append_of_trailsApart {first second : List Char} {found others : List Lexeme}
    (firstRead : lexemes first = some found) (secondRead : lexemes second = some others)
    (trails : trailsApart first = true) :
    lexemes (first ++ second) = some (found ++ others) := by
  refine lexemes_append firstRead secondRead fun c _ => ?_
  rw [eq_of_beq trails]
  rfl

/-! ## Single lexemes -/

/-- A quoted text is one lexeme, which holds the text. -/
theorem lexemes_quotedBy {delimiter : Char} (isDelimiter : isDelimiter delimiter = true)
    (content : List Char) :
    lexemes (quotedBy delimiter content) = some [.quoted delimiter (.ofList content)] := by
  have inside (before : List Char) :
      (Lexing.inQuotes delimiter before).run (doubled delimiter content ++ [delimiter])
        = ([], .behindQuotes delimiter (before ++ content)) := by
    induction content generalizing before with
    | nil => simp [doubled, Lexing.run, Lexing.step, Lexing.next?]
    | cons c content ih =>
        by_cases same : c = delimiter
        · subst same
          simp [doubled, Lexing.run, Lexing.step, Lexing.next?, ih]
        · simp [doubled, Lexing.run, Lexing.step, Lexing.next?, same, ih]
  have opened : Lexing.between.step delimiter = ([], .inQuotes delimiter []) := by
    simp [Lexing.step, Lexing.next?, Lexing.start, Lexing.finish?, isDelimiter]
  rw [lexemes, quotedBy, Lexing.run, opened, inside]
  rfl

/-- A run of letters, digits and underscores is a word. -/
theorem run_inWord {chars : List Char} (allParts : ∀ c ∈ chars, isNamePart c = true)
    (before : List Char) :
    (Lexing.inWord before).run chars = ([], .inWord (before ++ chars)) := by
  induction chars generalizing before with
  | nil => simp [Lexing.run]
  | cons c chars ih =>
      obtain ⟨isPart, others⟩ := List.forall_mem_cons.1 allParts
      simp [Lexing.run, Lexing.step, Lexing.next?, isPart, ih others]

/-- What a character of a name starts is a word. -/
theorem start_of_isNamePart {c : Char} (isPart : isNamePart c = true) :
    Lexing.start c = ([], .inWord [c]) := by
  have harmless : isHarmless c = true := isHarmless_of rfl isPart
  rw [isHarmless, Bool.and_eq_true, Bool.not_eq_true', Bool.not_eq_true'] at harmless
  simp [Lexing.start, harmless.1, harmless.2, isPart]

theorem lexemes_word {c : Char} {chars : List Char} (isPart : isNamePart c = true)
    (others : ∀ other ∈ chars, isNamePart other = true) :
    lexemes (c :: chars) = some [.word (.ofList (c :: chars))] := by
  have first : Lexing.between.step c = ([], .inWord [c]) := start_of_isNamePart isPart
  rw [lexemes, Lexing.run, first, run_inWord others]
  rfl

/-- A mark with digits behind it is a placeholder. -/
theorem lexemes_placeholder {mark : Char} {digits : List Char} (isMark : isMark mark = true)
    (allDigits : ∀ c ∈ digits, c.isDigit = true) :
    lexemes (mark :: digits) = some [.placeholder] := by
  have first : Lexing.between.step mark = ([], .inPlaceholder) := by
    have noDelimiter : isDelimiter mark = false := by
      rw [CheckedSql.isMark, Bool.or_eq_true, beq_iff_eq, beq_iff_eq] at isMark
      rcases isMark with rfl | rfl <;> rfl
    simp [Lexing.step, Lexing.next?, Lexing.start, Lexing.finish?, noDelimiter, isMark]
  have others : Lexing.inPlaceholder.run digits = ([], .inPlaceholder) := by
    induction digits with
    | nil => rfl
    | cons c digits ih =>
        obtain ⟨isDigit, rest⟩ := List.forall_mem_cons.1 allDigits
        simp [Lexing.run, Lexing.step, Lexing.next?, isDigit, ih rest]
  rw [lexemes, Lexing.run, first, others]
  rfl

end CheckedSql
