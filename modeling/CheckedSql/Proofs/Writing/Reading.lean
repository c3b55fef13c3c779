import CheckedSql.Dialect.Quoting

/-!
# Reading placeholders

How an engine finds the placeholders of a written statement: it goes through the
text from left to right, skips what stands between quotes, and takes a `?` or a `$`
together with the digits that follow.  Inside of quotes the delimiter is written
twice, and a backslash has no meaning.  `placeholdersIn` is that reader.  It is the
same for all dialects, and it fails on a text with a quote that is not closed.

What a reader makes of a piece of text may depend on what follows it.  A quoted
token goes on if its delimiter follows at once, and a placeholder goes on if a digit
follows.  `StartsApart` excludes both.
-/

namespace CheckedSql

/-- Whether a character opens a quoted token. -/
def isDelimiter (c : Char) : Bool := c == '\'' || c == '"' || c == '\x60'

/-- Whether a character starts a placeholder. -/
def isMark (c : Char) : Bool := c == '?' || c == '$'

/-- The rest after a quoted token is shorter than the text. -/
theorem length_lt_of_readQuotedRest? {delimiter : Char} {chars content after : List Char}
    (h : readQuotedRest? delimiter chars = some (content, after)) :
    after.length < chars.length := by
  induction chars using readQuotedRest?.induct delimiter generalizing content with
  | case1 => cases h
  | case2 =>
      simp only [readQuotedRest?, if_true, Option.some.injEq, Prod.mk.injEq] at h
      rw [← h.2]
      exact Nat.zero_lt_one
  | case3 c differs => simp [readQuotedRest?, differs] at h
  | case4 rest ih =>
      simp only [readQuotedRest?, if_true, Option.map_eq_some_iff, Prod.exists, Prod.mk.injEq] at h
      obtain ⟨content, after, read, -, rfl⟩ := h
      have := ih read
      simp
      omega
  | case5 next rest differs =>
      simp only [readQuotedRest?, if_true, if_neg differs, Option.some.injEq, Prod.mk.injEq] at h
      rw [← h.2]
      simp
  | case6 c next rest differs ih =>
      simp only [readQuotedRest?, if_neg differs, Option.map_eq_some_iff, Prod.exists,
        Prod.mk.injEq] at h
      obtain ⟨content, after, read, -, rfl⟩ := h
      have := ih read
      simp at this ⊢
      omega

/-- The placeholders of a text outside of quotes, in their order. -/
def placeholdersIn : List Char → Option (List String)
  | [] => some []
  | c :: rest =>
      if isDelimiter c then
        match _closed : readQuotedRest? c rest with
        | none => none
        | some (_, after) => placeholdersIn after
      else if isMark c then
        (placeholdersIn (rest.dropWhile Char.isDigit)).map
          (String.ofList (c :: rest.takeWhile Char.isDigit) :: ·)
      else placeholdersIn rest
termination_by chars => chars.length
decreasing_by
  · have := length_lt_of_readQuotedRest? _closed
    simp
    omega
  · have := (List.dropWhile_suffix (p := Char.isDigit) (l := rest)).length_le
    simp
    omega
  · simp

/-! ## Pieces of a text -/

/-- Whether a character has no meaning for the reader. -/
def isHarmless (c : Char) : Bool := !isDelimiter c && !isMark c

/-- What no character with a meaning fulfils makes a character harmless. -/
theorem isHarmless_of {p : Char → Bool} (special : ['\'', '"', '\x60', '?', '$'].any p = false)
    {c : Char} (h : p c = true) : isHarmless c = true := by
  have differs (d : Char) (mem : d ∈ ['\'', '"', '\x60', '?', '$']) : (c == d) = false := by
    rw [beq_eq_false_iff_ne]
    rintro rfl
    exact List.any_eq_false.1 special c mem h
  simp only [List.forall_mem_cons] at differs
  obtain ⟨text, name, backtick, question, dollar, -⟩ := differs
  simp only [isHarmless, isDelimiter, isMark, text, name, backtick, question, dollar]
  rfl

/-- A piece of a text whose characters are harmless. -/
def Harmless (piece : List Char) : Prop := ∀ c ∈ piece, isHarmless c = true

namespace Harmless

instance (piece : List Char) : Decidable (Harmless piece) :=
  decidable_of_iff (piece.all isHarmless = true) List.all_eq_true

@[simp] theorem nil : Harmless [] := by
  simp [Harmless]

@[simp] theorem cons_iff {c : Char} {piece : List Char} :
    Harmless (c :: piece) ↔ isHarmless c = true ∧ Harmless piece := List.forall_mem_cons

@[simp] theorem append_iff {first second : List Char} :
    Harmless (first ++ second) ↔ Harmless first ∧ Harmless second := List.forall_mem_append

end Harmless

/-- Nothing at the start of a text goes on with what is in front of it. -/
def StartsApart (text : List Char) : Prop :=
  ∀ c ∈ text.head?, isDelimiter c = false ∧ c.isDigit = false

theorem StartsApart.of_cons {c : Char} (rest : List Char) (noDelimiter : isDelimiter c = false)
    (noDigit : c.isDigit = false) : StartsApart (c :: rest) := by
  rintro d ⟨⟩
  exact ⟨noDelimiter, noDigit⟩

instance : (text : List Char) → Decidable (StartsApart text)
  | [] => isTrue fun _ mem => nomatch mem
  | c :: rest =>
      decidable_of_iff (isDelimiter c = false ∧ c.isDigit = false)
        ⟨fun both => .of_cons rest both.1 both.2, fun apart => apart c rfl⟩

theorem StartsApart.append {first second : List Char} (apartFirst : StartsApart first)
    (apartSecond : StartsApart second) : StartsApart (first ++ second) := by
  cases first with
  | nil => exact apartSecond
  | cons c first => exact apartFirst

/-- A piece of a text without placeholders, unless what follows goes on with it. -/
def Skipped (piece : List Char) : Prop :=
  ∀ after, StartsApart after → placeholdersIn (piece ++ after) = placeholdersIn after

/-- Harmless characters are skipped, whatever follows. -/
theorem placeholdersIn_harmless {piece : List Char} (harmless : Harmless piece)
    (after : List Char) : placeholdersIn (piece ++ after) = placeholdersIn after := by
  induction piece with
  | nil => rfl
  | cons c piece ih =>
      obtain ⟨first, others⟩ := Harmless.cons_iff.1 harmless
      rw [isHarmless, Bool.and_eq_true, Bool.not_eq_true', Bool.not_eq_true'] at first
      rw [List.cons_append, placeholdersIn]
      simp only [first.1, first.2, Bool.false_eq_true, if_false]
      exact ih others

/-- A quoted token is skipped, unless its delimiter follows at once. -/
theorem placeholdersIn_quotedBy {delimiter : Char} (isDelimiter : isDelimiter delimiter = true)
    (content : List Char) {after : List Char} (apart : ∀ rest, after ≠ delimiter :: rest) :
    placeholdersIn (quotedBy delimiter content ++ after) = placeholdersIn after := by
  have read := readQuoted?_quotedBy delimiter content after apart
  rw [quotedBy, List.cons_append] at read ⊢
  rw [readQuoted?, if_pos rfl] at read
  rw [placeholdersIn, if_pos isDelimiter]
  split
  · next failed =>
      rw [read] at failed
      cases failed
  · next content' after' found =>
      rw [read, Option.some.injEq, Prod.mk.injEq] at found
      rw [found.2]

/-- A mark is read with the digits behind it, unless a further digit follows. -/
theorem placeholdersIn_mark {mark : Char} (isMark : isMark mark = true) {digits after : List Char}
    (allDigits : ∀ c ∈ digits, c.isDigit = true) (apart : StartsApart after) :
    placeholdersIn (mark :: digits ++ after)
      = (placeholdersIn after).map (String.ofList (mark :: digits) :: ·) := by
  have noDelimiter : isDelimiter mark = false := by
    rw [CheckedSql.isMark, Bool.or_eq_true, beq_iff_eq, beq_iff_eq] at isMark
    rcases isMark with rfl | rfl <;> rfl
  have noDigits : after.takeWhile Char.isDigit = [] ∧ after.dropWhile Char.isDigit = after := by
    cases after with
    | nil => exact ⟨rfl, rfl⟩
    | cons c rest => simp [(apart c rfl).2]
  rw [List.cons_append, placeholdersIn]
  simp only [noDelimiter, isMark, Bool.false_eq_true, if_false, if_true]
  rw [List.takeWhile_append_of_pos allDigits, List.dropWhile_append_of_pos allDigits, noDigits.1,
    noDigits.2, List.append_nil]

namespace Skipped

theorem of_harmless {piece : List Char} (harmless : Harmless piece) : Skipped piece :=
  fun after _ => placeholdersIn_harmless harmless after

theorem quotedBy {delimiter : Char} (isDelimiter : isDelimiter delimiter = true)
    (content : List Char) : Skipped (quotedBy delimiter content) := by
  intro after apart
  refine placeholdersIn_quotedBy isDelimiter content fun rest same => ?_
  rw [same] at apart
  rw [(apart delimiter rfl).1] at isDelimiter
  cases isDelimiter

/-- A harmless piece may stand before any other one. -/
theorem harmless_append {first second : List Char} (harmless : Harmless first)
    (skipped : Skipped second) : Skipped (first ++ second) := by
  intro after apart
  rw [List.append_assoc, placeholdersIn_harmless harmless]
  exact skipped after apart

/-- A piece that starts apart may stand behind any other one. -/
theorem append {first second : List Char} (skippedFirst : Skipped first)
    (apart : StartsApart second) (skippedSecond : Skipped second) : Skipped (first ++ second) := by
  intro after follows
  rw [List.append_assoc, skippedFirst _ (apart.append follows)]
  exact skippedSecond after follows

end Skipped

end CheckedSql
