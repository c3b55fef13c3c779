import CheckedSql.Proofs.Writing.Balanced

/-!
# Scanning a written text

A scanner of a dialect knows which of the characters of a text stand in quoted tokens.  A
single quote opens a text, the delimiter of the dialect opens a name, and any other
character is no delimiter.  `Dialect.scan` is that scanner.  Outside of quoted tokens it
keeps every character, blanks too, so it shows which symbols stand side by side.

A scanned text is scanned alike in front of any text that leads apart
(`Dialect.scanFrom_append`).  A scanner that skips blanks and knows more delimiters finds
the same, if none of these is found outside of quoted tokens (`Dialect.lexemes_of_scan`).
-/

namespace CheckedSql

namespace Dialect

variable (dialect : Dialect)

/-- Whether a character opens a text or a name. -/
def opens (c : Char) : Bool := c == '\'' || c == dialect.nameDelimiter

/-- What a character is the first one of, and what is complete with it. -/
def scanStart (c : Char) : List Lexeme × Lexing :=
  if dialect.opens c then ([], .inQuotes c [])
  else if isMark c then ([], .inPlaceholder)
  else if isNamePart c then ([], .inWord [c])
  else ([.symbol c], .between)

/-- What is found in a text, if a lexeme is being read.  Nothing is found if the text ends inside of
a quoted token. -/
def scanFrom : Lexing → List Char → Option (List Lexeme)
  | state, [] => state.finish?
  | state, c :: rest =>
      match state.next? c with
      | some next => scanFrom next rest
      | none => (scanFrom (dialect.scanStart c).2 rest).map
          (state.finish?.getD [] ++ (dialect.scanStart c).1 ++ ·)

/-- What is found in a text. -/
def scan (text : List Char) : Option (List Lexeme) := dialect.scanFrom .between text

example : mysql.scan "\x60a--\x60 = '\"'".toList
    = some [.quoted '\x60' "a--", .symbol ' ', .symbol '=', .symbol ' ', .quoted '\'' "\""] := by
  decide

variable {dialect}

theorem isDelimiter_of_opens {c : Char} (opens : dialect.opens c = true) :
    isDelimiter c = true := by
  rw [Dialect.opens, Bool.or_eq_true, beq_iff_eq, beq_iff_eq] at opens
  rcases opens with rfl | rfl
  · rfl
  · cases dialect <;> rfl

theorem isProper_scanStart (c : Char) : (dialect.scanStart c).2.IsProper := by
  unfold scanStart
  split
  · next opens => exact isDelimiter_of_opens opens
  · split
    · trivial
    · split <;> trivial

/-! ## Texts one after the other -/

/-- A lexeme ends with a text that does not go on with it. -/
theorem scanFrom_of_ends {state : Lexing} {last : List Lexeme} (ends : state.finish? = some last)
    {after : List Char} (apart : ∀ c ∈ after.head?, state.next? c = none) :
    dialect.scanFrom state after = (dialect.scan after).map (last ++ ·) := by
  have fresh : Lexing.between.finish? = some [] := rfl
  cases after with
  | nil => simp [scan, scanFrom, ends, fresh]
  | cons c rest =>
      have starts : Lexing.between.next? c = none := rfl
      simp only [scan, scanFrom, apart c rfl, starts, ends, fresh, Option.getD_some,
        List.nil_append, Option.map_map, Function.comp_def, List.append_assoc]

/-- What is found in a text is found in it too if a text follows that leads apart. -/
theorem scanFrom_append {state : Lexing} (proper : state.IsProper) {first after : List Char}
    {found : List Lexeme} (read : dialect.scanFrom state first = some found)
    (leads : leadsApart after = true) :
    dialect.scanFrom state (first ++ after) = (dialect.scan after).map (found ++ ·) := by
  induction first generalizing state found with
  | nil => exact scanFrom_of_ends read (Lexing.next?_of_leadsApart proper read leads)
  | cons c first ih =>
      rw [List.cons_append]
      rw [scanFrom] at read ⊢
      split at read
      · next next isNext =>
          have properNext : next.IsProper := by
            have proper := proper.step c
            rwa [Lexing.step, isNext] at proper
          exact ih properNext read
      · obtain ⟨others, othersRead, rfl⟩ := Option.map_eq_some_iff.1 read
        rw [ih (isProper_scanStart c) othersRead, Option.map_map]
        simp only [Function.comp_def, List.append_assoc]

theorem scan_append {first second : List Char} {found others : List Lexeme}
    (firstRead : dialect.scan first = some found) (secondRead : dialect.scan second = some others)
    (leads : leadsApart second = true) :
    dialect.scan (first ++ second) = some (found ++ others) := by
  have proper : Lexing.between.IsProper := trivial
  rw [scan, scanFrom_append proper firstRead leads, secondRead]
  rfl

/-! ## Single pieces -/

/-- A quoted text is one lexeme, which holds the text. -/
theorem scan_quotedBy {delimiter : Char} (opens : dialect.opens delimiter = true)
    (content : List Char) :
    dialect.scan (quotedBy delimiter content) = some [.quoted delimiter (.ofList content)] := by
  have inside (before : List Char) :
      dialect.scanFrom (.inQuotes delimiter before) (doubled delimiter content ++ [delimiter])
        = some [.quoted delimiter (.ofList (before ++ content))] := by
    induction content generalizing before with
    | nil => simp [doubled, scanFrom, Lexing.next?, Lexing.finish?]
    | cons c content ih =>
        by_cases same : c = delimiter
        · subst same
          simp [doubled, scanFrom, Lexing.next?, ih]
        · simp [doubled, scanFrom, Lexing.next?, same, ih]
  simp [scan, quotedBy, scanFrom, Lexing.next?, Lexing.finish?, scanStart, opens, inside]

/-- What a harmless character is the first one of. -/
theorem scanStart_of_isHarmless {c : Char} (harmless : isHarmless c = true) :
    dialect.scanStart c
      = if isNamePart c then ([], .inWord [c]) else ([.symbol c], .between) := by
  rw [isHarmless, Bool.and_eq_true, Bool.not_eq_true', Bool.not_eq_true'] at harmless
  have closed : dialect.opens c = false :=
    Bool.eq_false_iff.2 fun opens => by simp [isDelimiter_of_opens opens] at harmless
  simp [scanStart, closed, harmless.2]

/-- A run of letters, digits and underscores is a word. -/
theorem scan_word {c : Char} {chars : List Char} (isPart : isNamePart c = true)
    (others : ∀ other ∈ chars, isNamePart other = true) :
    dialect.scan (c :: chars) = some [.word (.ofList (c :: chars))] := by
  have inside (before : List Char) :
      dialect.scanFrom (.inWord before) chars = some [.word (.ofList (before ++ chars))] := by
    induction chars generalizing before with
    | nil => simp [scanFrom, Lexing.finish?]
    | cons other chars ih =>
        obtain ⟨first, rest⟩ := List.forall_mem_cons.1 others
        simp [scanFrom, Lexing.next?, first, ih rest]
  have harmless : isHarmless c = true := isHarmless_of rfl isPart
  simp [scan, scanFrom, Lexing.next?, Lexing.finish?, scanStart_of_isHarmless harmless, isPart,
    inside]

/-- A mark with digits behind it is a placeholder. -/
theorem scan_placeholder {mark : Char} {digits : List Char} (isMark : isMark mark = true)
    (allDigits : ∀ c ∈ digits, c.isDigit = true) :
    dialect.scan (mark :: digits) = some [.placeholder] := by
  have closed : dialect.opens mark = false := by
    rw [CheckedSql.isMark, Bool.or_eq_true, beq_iff_eq, beq_iff_eq] at isMark
    rcases isMark with rfl | rfl <;> cases dialect <;> rfl
  have inside : dialect.scanFrom .inPlaceholder digits = some [.placeholder] := by
    induction digits with
    | nil => rfl
    | cons c digits ih =>
        obtain ⟨isDigit, rest⟩ := List.forall_mem_cons.1 allDigits
        simp [scanFrom, Lexing.next?, isDigit, ih rest]
  simp [scan, scanFrom, Lexing.next?, Lexing.finish?, scanStart, closed, isMark, inside]

end Dialect

/-! ## Texts without quotes and marks -/

/-- Whether neither a quoted token nor a placeholder is being read. -/
def Lexing.IsBare : Lexing → Prop
  | between | inWord _ => True
  | _ => False

namespace Lexeme

/-- A lexeme of a text without quotes and marks: a word, or a symbol, which is a character of the
text. -/
def IsPieceOf (text : List Char) (lexeme : Lexeme) : Prop :=
  (∃ chars, lexeme = .word chars) ∨ ∃ c ∈ text, isNamePart c = false ∧ lexeme = .symbol c

theorem IsPieceOf.cons {text : List Char} {lexeme : Lexeme} (isPiece : lexeme.IsPieceOf text)
    (c : Char) : lexeme.IsPieceOf (c :: text) :=
  isPiece.imp_right fun ⟨other, mem, rest⟩ => ⟨other, .tail _ mem, rest⟩

end Lexeme

namespace Dialect

variable {dialect : Dialect}

variable (dialect) in
theorem isBare_scanStart {c : Char} (harmless : isHarmless c = true) (text : List Char) :
    (dialect.scanStart c).2.IsBare
      ∧ ∀ lexeme ∈ (dialect.scanStart c).1, lexeme.IsPieceOf (c :: text) := by
  rw [scanStart_of_isHarmless harmless]
  cases isPart : isNamePart c with
  | true => exact ⟨trivial, by simp⟩
  | false =>
      refine ⟨trivial, List.forall_mem_singleton.2 (.inr ⟨c, .head _, isPart, rfl⟩)⟩

/-- A harmless text is scanned as words and symbols. -/
theorem scanFrom_of_harmless {state : Lexing} (isBare : state.IsBare) {text : List Char}
    (harmless : Harmless text) :
    ∃ found, dialect.scanFrom state text = some found
      ∧ ∀ lexeme ∈ found, lexeme.IsPieceOf text := by
  have finished {state : Lexing} (isBare : state.IsBare) (text : List Char) :
      ∃ last, state.finish? = some last ∧ ∀ lexeme ∈ last, lexeme.IsPieceOf text := by
    cases state with
    | between => exact ⟨[], rfl, by simp⟩
    | inWord chars => exact ⟨_, rfl, List.forall_mem_singleton.2 (.inl ⟨_, rfl⟩)⟩
    | inQuotes | behindQuotes | inPlaceholder => cases isBare
  induction text generalizing state with
  | nil => exact finished isBare []
  | cons c text ih =>
      obtain ⟨first, rest⟩ := Harmless.cons_iff.1 harmless
      rw [scanFrom]
      split
      · next next isNext =>
          have nextBare : next.IsBare := by
            cases state with
            | inWord chars =>
                rw [Lexing.next?, Option.ite_none_right_eq_some] at isNext
                obtain ⟨-, ⟨⟩⟩ := isNext
                trivial
            | between => cases isNext
            | inQuotes | behindQuotes | inPlaceholder => cases isBare
          obtain ⟨found, read, each⟩ := ih nextBare rest
          exact ⟨found, read, fun lexeme mem => (each lexeme mem).cons c⟩
      · obtain ⟨startBare, symbols⟩ := isBare_scanStart dialect first text
        obtain ⟨found, read, each⟩ := ih startBare rest
        obtain ⟨last, ends, words⟩ := finished isBare (c :: text)
        refine ⟨last ++ (dialect.scanStart c).1 ++ found, by rw [read, ends]; rfl, ?_⟩
        refine List.forall_mem_append.2 ⟨List.forall_mem_append.2 ⟨words, symbols⟩, ?_⟩
        exact fun lexeme mem => (each lexeme mem).cons c

variable (dialect) in
theorem scan_of_harmless {text : List Char} (harmless : Harmless text) :
    ∃ found, dialect.scan text = some found ∧ ∀ lexeme ∈ found, lexeme.IsPieceOf text := by
  have isBare : Lexing.between.IsBare := trivial
  exact scanFrom_of_harmless isBare harmless

/-- All dialects find the same in a harmless text. -/
theorem scan_eq_scan (dialect other : Dialect) {text : List Char} (harmless : Harmless text) :
    dialect.scan text = other.scan text := by
  have scanned (state : Lexing) : dialect.scanFrom state text = other.scanFrom state text := by
    induction text generalizing state with
    | nil => rfl
    | cons c text ih =>
        obtain ⟨first, rest⟩ := Harmless.cons_iff.1 harmless
        simp only [scanFrom, scanStart_of_isHarmless first, ih rest]
  exact scanned .between

/-- A word that is being read is found first. -/
theorem scanFrom_inWord {chars text : List Char} {found : List Lexeme}
    (read : dialect.scanFrom (.inWord chars) text = some found) :
    ∃ more rest, found = .word (.ofList (chars ++ more)) :: rest := by
  induction text generalizing chars with
  | nil =>
      cases read
      exact ⟨[], [], by simp⟩
  | cons c text ih =>
      rw [scanFrom] at read
      split at read
      · next next isNext =>
          rw [Lexing.next?, Option.ite_none_right_eq_some] at isNext
          obtain ⟨-, ⟨⟩⟩ := isNext
          obtain ⟨more, rest, rfl⟩ := ih read
          exact ⟨c :: more, rest, by simp⟩
      · obtain ⟨others, -, rfl⟩ := Option.map_eq_some_iff.1 read
        exact ⟨[], _, by simp [Lexing.finish?]; rfl⟩

/-- A text that trails apart ends in no word. -/
theorem exists_of_trailsApart {text : List Char} (trails : trailsApart text = true) :
    text = [] ∨ ∃ before c, text = before ++ [c] ∧ isNamePart c = false := by
  rcases List.eq_nil_or_concat text with rfl | ⟨before, c, rfl⟩
  · exact .inl rfl
  · refine .inr ⟨before, c, List.concat_eq_append, Bool.eq_false_iff.2 fun isPart => ?_⟩
    rw [trailsApart, List.concat_eq_append, Lexing.run_append, beq_iff_eq] at trails
    simp only [Lexing.run, Lexing.step] at trails
    split at trails
    · next next isNext =>
        simp only at trails
        subst trails
        cases state : (Lexing.between.run before).2 <;> rw [state, Lexing.next?] at isNext <;>
          first | cases isNext | (split at isNext <;> cases isNext)
    · rw [start_of_isNamePart isPart] at trails
      cases trails

/-- Any text may follow a harmless one that trails apart. -/
theorem scan_append_of_trailsApart {first second : List Char} {found others : List Lexeme}
    (harmless : Harmless first) (trails : trailsApart first = true)
    (firstRead : dialect.scan first = some found) (secondRead : dialect.scan second = some others) :
    dialect.scan (first ++ second) = some (found ++ others) := by
  rcases exists_of_trailsApart trails with rfl | ⟨before, c, rfl, notPart⟩
  · obtain rfl := Option.some.inj firstRead
    exact secondRead
  · obtain ⟨harmlessBefore, harmlessLast⟩ := Harmless.append_iff.1 harmless
    have lastHarmless := harmlessLast c (.head _)
    obtain ⟨start, startRead, -⟩ := scan_of_harmless dialect harmlessBefore
    have proper : Lexing.between.IsProper := trivial
    -- The last character is a symbol, which leads apart and is complete at once.
    have symbol (after : List Char) :
        dialect.scan (before ++ c :: after)
          = (dialect.scan after).map (start ++ .symbol c :: ·) := by
      have leads : leadsApart (c :: after) = true := by
        rw [isHarmless, Bool.and_eq_true, Bool.not_eq_true'] at lastHarmless
        simp [leadsApart, notPart, lastHarmless.1]
      rw [scan, scanFrom_append proper startRead leads]
      simp [scan, scanFrom, Lexing.next?, Lexing.finish?, scanStart_of_isHarmless lastHarmless,
        notPart, Function.comp_def]
    have alone := symbol []
    rw [firstRead] at alone
    obtain rfl := Option.some.inj alone
    rw [List.append_assoc, List.cons_append, List.nil_append, symbol second, secondRead]
    simp

end Dialect

/-! ## Blanks and other delimiters -/

/-- Whether a lexeme is a blank. -/
def Lexeme.isBlank : Lexeme → Bool
  | symbol c => c.isWhitespace
  | _ => false

namespace Dialect

variable {dialect : Dialect}

theorem filter_finish? {state : Lexing} {last : List Lexeme} (ends : state.finish? = some last) :
    last.filter (fun lexeme => !lexeme.isBlank) = last := by
  cases state <;> cases ends <;> rfl

variable (dialect) in
/-- The two scanners start alike, but for blanks, at a character that is no other delimiter. -/
theorem scanStart_eq {c : Char}
    (other : .symbol c ∈ (dialect.scanStart c).1 → isDelimiter c = false) :
    (dialect.scanStart c).2 = (Lexing.start c).2
      ∧ (dialect.scanStart c).1.filter (fun lexeme => !lexeme.isBlank) = (Lexing.start c).1 := by
  by_cases opens : dialect.opens c = true
  · simp [scanStart, Lexing.start, opens, isDelimiter_of_opens opens]
  · have closed : isDelimiter c = false := by
      by_cases isMark : CheckedSql.isMark c = true
      · rw [CheckedSql.isMark, Bool.or_eq_true, beq_iff_eq, beq_iff_eq] at isMark
        rcases isMark with rfl | rfl <;> rfl
      · by_cases isPart : isNamePart c = true
        · have harmless : isHarmless c = true := isHarmless_of rfl isPart
          simp only [isHarmless, Bool.and_eq_true, Bool.not_eq_true'] at harmless
          exact harmless.1
        · exact other (by simp [scanStart, opens, isMark, isPart])
    simp only [scanStart, Lexing.start, opens, closed, Bool.false_eq_true, if_false]
    by_cases isMark : CheckedSql.isMark c = true
    · simp [isMark]
    · by_cases isPart : isNamePart c = true
      · simp [isMark, isPart]
      · by_cases blank : c.isWhitespace = true <;>
          simp [isMark, isPart, blank, Lexeme.isBlank]

/-- If no delimiter is found outside of quoted tokens, the lexemes of the text are what is found in
it, without the blanks. -/
theorem lexemes_of_scanFrom {state : Lexing} {text : List Char} {found : List Lexeme}
    (read : dialect.scanFrom state text = some found)
    (symbols : ∀ c, .symbol c ∈ found → isDelimiter c = false) :
    (state.run text).2.finish?.map ((state.run text).1 ++ ·)
      = some (found.filter fun lexeme => !lexeme.isBlank) := by
  induction text generalizing state found with
  | nil =>
      rw [scanFrom] at read
      rw [filter_finish? read]
      simpa [Lexing.run] using read
  | cons c text ih =>
      rw [scanFrom] at read
      rw [Lexing.run]
      split at read
      · next next isNext =>
          have stepped : state.step c = ([], next) := by rw [Lexing.step, isNext]
          simpa [stepped] using ih read symbols
      · next isNext =>
          have stepped : state.step c
              = (state.finish?.getD [] ++ (Lexing.start c).1, (Lexing.start c).2) := by
            rw [Lexing.step, isNext]
          obtain ⟨others, othersRead, rfl⟩ := Option.map_eq_some_iff.1 read
          obtain ⟨sameState, sameFound⟩ := scanStart_eq dialect fun mem =>
            symbols c (List.mem_append_left _ (List.mem_append_right _ mem))
          have rest := ih othersRead fun other mem => symbols other (List.mem_append_right _ mem)
          have last : (state.finish?.getD []).filter (fun lexeme => !lexeme.isBlank)
              = state.finish?.getD [] := by
            cases ends : state.finish? with
            | none => rfl
            | some last => exact filter_finish? ends
          rw [sameState] at rest
          simpa [stepped, last, sameFound, Option.map_eq_some_iff] using rest

theorem lexemes_of_scan {text : List Char} {found : List Lexeme}
    (read : dialect.scan text = some found)
    (symbols : ∀ c, .symbol c ∈ found → isDelimiter c = false) :
    lexemes text = some (found.filter fun lexeme => !lexeme.isBlank) :=
  lexemes_of_scanFrom read symbols

end Dialect

/-! ## Spelling -/

/-- The characters of a lexeme.  The number of a placeholder is not known. -/
def Lexeme.spell : Lexeme → List Char
  | word text => text.toList
  | quoted delimiter content => quotedBy delimiter content.toList
  | placeholder => ['?']
  | symbol c => [c]

/-- The characters of the lexeme that is being read. -/
def Lexing.read : Lexing → List Char
  | between | inPlaceholder => []
  | inWord chars => chars
  | inQuotes delimiter content => delimiter :: doubled delimiter content
  | behindQuotes delimiter content => quotedBy delimiter content

theorem doubled_append (delimiter : Char) (first second : List Char) :
    doubled delimiter (first ++ second) = doubled delimiter first ++ doubled delimiter second := by
  induction first with
  | nil => rfl
  | cons c first ih =>
      rw [List.cons_append, doubled, doubled, ih]
      split <;> rfl

namespace Dialect

variable {dialect : Dialect}

/-- A placeholder that is being read is found. -/
theorem placeholder_mem_of_scanFrom {text : List Char} {found : List Lexeme}
    (read : dialect.scanFrom .inPlaceholder text = some found) : .placeholder ∈ found := by
  induction text with
  | nil =>
      cases read
      exact .head _
  | cons c text ih =>
      rw [scanFrom, Lexing.next?] at read
      split at read
      · next next isNext =>
          rw [Option.ite_none_right_eq_some] at isNext
          obtain ⟨-, ⟨⟩⟩ := isNext
          exact ih read
      · obtain ⟨others, -, rfl⟩ := Option.map_eq_some_iff.1 read
        exact .head _

/-- A lexeme that is read on has one more character. -/
theorem read_of_next? {state next : Lexing} {c : Char} (isNext : state.next? c = some next)
    (notPlaceholder : state ≠ .inPlaceholder) : next.read = state.read ++ [c] := by
  cases state with
  | between => cases isNext
  | inWord chars =>
      rw [Lexing.next?, Option.ite_none_right_eq_some] at isNext
      obtain ⟨-, ⟨⟩⟩ := isNext
      rfl
  | inQuotes delimiter content =>
      rw [Lexing.next?] at isNext
      split at isNext
      · next same =>
          cases isNext
          simp [Lexing.read, quotedBy, same]
      · next differs =>
          cases isNext
          simp [Lexing.read, doubled_append, doubled, differs]
  | behindQuotes delimiter content =>
      rw [Lexing.next?, Option.ite_none_right_eq_some] at isNext
      obtain ⟨same, ⟨⟩⟩ := isNext
      simp [Lexing.read, quotedBy, doubled_append, doubled, same]
  | inPlaceholder => exact absurd rfl notPlaceholder

/-- Only quotes that are open have no end, and they are always read on. -/
theorem exists_finish? {state : Lexing} {c : Char} (ends : state.next? c = none) :
    ∃ last, state.finish? = some last := by
  cases state with
  | inQuotes delimiter content =>
      rw [Lexing.next?] at ends
      split at ends <;> cases ends
  | between | inWord | behindQuotes | inPlaceholder => exact ⟨_, rfl⟩

/-- A lexeme that ends is found with all of its characters. -/
theorem spell_of_finish? {state : Lexing} {last : List Lexeme}
    (ended : state.finish? = some last) (notPlaceholder : state ≠ .inPlaceholder) :
    last.flatMap Lexeme.spell = state.read := by
  cases state with
  | inQuotes => cases ended
  | inPlaceholder => exact absurd rfl notPlaceholder
  | between | inWord | behindQuotes =>
      cases ended
      simp [Lexing.read, Lexeme.spell]

/-- A character is found at once, or a lexeme starts with it. -/
theorem spell_of_scanStart {c : Char} (notPlaceholder : (dialect.scanStart c).2 ≠ .inPlaceholder) :
    (dialect.scanStart c).1.flatMap Lexeme.spell ++ (dialect.scanStart c).2.read = [c] := by
  unfold scanStart at notPlaceholder ⊢
  split
  · rfl
  · next closed =>
      split
      · next isMark =>
          rw [if_neg closed, if_pos isMark] at notPlaceholder
          exact absurd rfl notPlaceholder
      · split <;> rfl

/-- What is found in a text without placeholders spells the text. -/
theorem spell_of_scanFrom {state : Lexing} {text : List Char} {found : List Lexeme}
    (read : dialect.scanFrom state text = some found) (noPlaceholder : .placeholder ∉ found) :
    found.flatMap Lexeme.spell = state.read ++ text := by
  have notIn {state : Lexing} {text : List Char} {found : List Lexeme}
      (read : dialect.scanFrom state text = some found) (noPlaceholder : .placeholder ∉ found) :
      state ≠ .inPlaceholder := by
    rintro rfl
    exact noPlaceholder (placeholder_mem_of_scanFrom read)
  induction text generalizing state found with
  | nil =>
      rw [List.append_nil]
      exact spell_of_finish? read (notIn read noPlaceholder)
  | cons c text ih =>
      have notPlaceholder := notIn read noPlaceholder
      rw [scanFrom] at read
      split at read
      · next next isNext =>
          rw [ih read noPlaceholder, read_of_next? isNext notPlaceholder, List.append_assoc]
          rfl
      · next isNext =>
          obtain ⟨others, othersRead, rfl⟩ := Option.map_eq_some_iff.1 read
          have fresh : .placeholder ∉ others := fun mem =>
            noPlaceholder (List.mem_append_right _ mem)
          have start := spell_of_scanStart (notIn othersRead fresh)
          obtain ⟨last, ended⟩ := exists_finish? isNext
          rw [ended, Option.getD_some, List.flatMap_append, List.flatMap_append,
            spell_of_finish? ended notPlaceholder, ih othersRead fresh, List.append_assoc,
            ← List.append_assoc _ _ text, start]
          rfl

theorem spell_of_scan {text : List Char} {found : List Lexeme}
    (read : dialect.scan text = some found) (noPlaceholder : .placeholder ∉ found) :
    found.flatMap Lexeme.spell = text :=
  spell_of_scanFrom read noPlaceholder

end Dialect

/-! ## Balanced lexemes with blanks -/

namespace Balanced

variable {stops : List String} {found : List Lexeme}

theorem of_blanks (blanks : ∀ lexeme ∈ found, ¬ (!lexeme.isBlank) = true) :
    Balanced stops found := by
  refine .of_isFlat (List.all_eq_true.2 fun lexeme mem => ?_)
  have blank := blanks lexeme mem
  cases lexeme with
  | symbol c =>
      have differs (other : Char) (visible : other.isWhitespace = false) : c ≠ other := by
        rintro rfl
        simp [Lexeme.isBlank, visible] at blank
      simp [Lexeme.isFlat, Lexeme.isParenthesis, Lexeme.isOneOf, differs '(' rfl, differs ')' rfl]
  | word | quoted | placeholder => exact absurd rfl blank

/-- Blanks do not change whether lexemes are balanced. -/
theorem of_filter (balanced : Balanced stops (found.filter fun lexeme => !lexeme.isBlank)) :
    Balanced stops found := by
  generalize same : found.filter (fun lexeme => !lexeme.isBlank) = visible at balanced
  induction balanced generalizing found with
  | nil => exact of_blanks (List.filter_eq_nil_iff.1 same)
  | cons flat _ ih =>
      obtain ⟨before, behind, rfl, blanks, -, rest⟩ := List.filter_eq_cons_iff.1 same
      exact (of_blanks blanks).append (.cons flat (ih rest))
  | @group stops inner rest _ _ innerIh restIh =>
      obtain ⟨before, behind, rfl, blanks, -, others⟩ := List.filter_eq_cons_iff.1 same
      obtain ⟨first, second, rfl, sameInner, closed⟩ := List.filter_eq_append_iff.1 others
      obtain ⟨last, after, rfl, lastBlanks, -, sameRest⟩ := List.filter_eq_cons_iff.1 closed
      have noneVisible := List.filter_eq_nil_iff.2 lastBlanks
      have inside : Balanced [] (first ++ last) := by
        refine innerIh ?_
        rw [List.filter_append, sameInner, noneVisible, List.append_nil]
      have grouped := (of_blanks blanks).append (.group inside (restIh sameRest))
      rwa [List.append_assoc] at grouped

end Balanced

end CheckedSql
