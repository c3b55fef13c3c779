import CheckedSql.Proofs.Writing.Literal
import CheckedSql.Token

/-!
# Separated tokens

Two names, values or placeholders never stand side by side.  A text without a digit,
a quote or a mark stands between them, so that a reader can tell them apart.
`Separated pending tokens` says so, and `pending` says that something stands in front
of the tokens that needs such a text behind it.  A text may be empty, and then it is
still needed after it.

The written form of separated tokens has exactly the placeholders of the tokens, in
their order (`Dialect.placeholdersIn_writeFrom`).
-/

namespace CheckedSql

/-- Whether a text is made of characters that neither have a meaning for a reader nor go on with
what stands in front of them. -/
def isPlain (text : String) : Bool := text.toList.all fun c => isHarmless c && !c.isDigit

/-- Whether a text keeps apart what stands in front of it and behind it. -/
def isSeparator (text : String) : Bool := isPlain text && !text.isEmpty

/-- Between any two names, values and placeholders there is a text that keeps them apart. -/
def Separated : Bool → List Token → Prop
  | _, [] => True
  | pending, .text text :: tokens =>
      isPlain text = true ∧ Separated (pending && text.isEmpty) tokens
  | pending, _ :: tokens => pending = false ∧ Separated true tokens

namespace Separated

/-- Where a text is needed, there may be one. -/
theorem weaken {tokens : List Token} (separated : Separated true tokens) (pending : Bool) :
    Separated pending tokens := by
  induction tokens with
  | nil => trivial
  | cons token tokens ih =>
      cases pending with
      | true => exact separated
      | false =>
          cases token with
          | text text =>
              refine ⟨separated.1, ?_⟩
              have rest := separated.2
              cases isEmpty : text.isEmpty with
              | false => simpa [isEmpty] using rest
              | true => exact ih (by simpa [isEmpty] using rest)
          | identifier | literal | placeholder => cases separated.1

/-- Separated tokens may be followed by tokens that start with a text that keeps them apart. -/
theorem append {pending : Bool} {left right : List Token} (first : Separated pending left)
    (second : Separated true right) : Separated pending (left ++ right) := by
  induction left generalizing pending with
  | nil => exact second.weaken pending
  | cons token left ih =>
      cases token with
      | text text => exact ⟨first.1, ih first.2⟩
      | identifier | literal | placeholder => exact ⟨first.1, ih first.2⟩

end Separated

/-! ## Reading written tokens -/

theorem harmless_of_isPlain {text : String} (plain : isPlain text = true) :
    Harmless text.toList := by
  intro c mem
  have both := List.all_eq_true.1 plain c mem
  exact (Bool.and_eq_true _ _ ▸ both).1

theorem startsApart_of_isPlain {text : String} (plain : isPlain text = true)
    (nonempty : text.isEmpty = false) (after : List Char) : StartsApart (text.toList ++ after) := by
  cases chars : text.toList with
  | nil =>
      rw [String.toList_eq_nil_iff.1 chars] at nonempty
      cases nonempty
  | cons c rest =>
      have both := List.all_eq_true.1 plain c (by simp [chars])
      simp only [isHarmless, Bool.and_eq_true, Bool.not_eq_true'] at both
      exact .of_cons _ both.1.1 both.2

namespace Dialect

/-- A placeholder is a mark with digits. -/
theorem toList_placeholder (dialect : Dialect) (position : Nat) :
    ∃ mark digits, (dialect.placeholder position).toList = mark :: digits
      ∧ isMark mark = true ∧ ∀ c ∈ digits, c.isDigit = true := by
  cases dialect with
  | postgres =>
      refine ⟨'$', Nat.toDigits 10 position, ?_, rfl, ?_⟩
      · simp [placeholder]
      · intro c mem
        exact Nat.isDigit_of_mem_toDigits (by decide) (by decide) mem
  | generic | mysql | sqlite => exact ⟨'?', [], by simp [placeholder], rfl, by simp⟩

/-- The written forms of separated tokens have the placeholders of the tokens, numbered from
`position` on, and where a text is needed in front of other tokens, they start apart. -/
theorem placeholdersIn_writeFrom {dialect : Dialect} {tokens : List Token} {pending : Bool}
    {position : Nat} {sql : String} (separated : Separated pending tokens)
    (written : dialect.writeFrom position tokens = .ok sql) :
    placeholdersIn sql.toList
        = some ((List.range' position (parametersOf tokens).length).map dialect.placeholder)
      ∧ (pending = true → StartsApart sql.toList) := by
  induction tokens generalizing pending position sql with
  | nil =>
      obtain rfl := Except.ok.inj written
      refine ⟨by simp [placeholdersIn, parametersOf], fun _ => ?_⟩
      simp [StartsApart]
  | cons token tokens ih =>
      obtain ⟨piece, pieceWritten, rest⟩ := bind_eq_ok.1 written
      obtain ⟨after, afterWritten, same⟩ := bind_eq_ok.1 rest
      obtain rfl := pure_eq_ok.1 same
      rw [String.toList_append]
      cases token with
      | text text =>
          obtain rfl := Except.ok.inj pieceWritten
          obtain ⟨plain, restSeparated⟩ := separated
          obtain ⟨read, apart⟩ := ih restSeparated afterWritten
          refine ⟨?_, fun isPending => ?_⟩
          · rw [placeholdersIn_harmless (harmless_of_isPlain plain)]
            exact read
          · cases isEmpty : text.isEmpty with
            | false => exact startsApart_of_isPlain plain isEmpty _
            | true =>
                rw [String.isEmpty_iff.1 isEmpty]
                exact apart (by rw [isPending, isEmpty]; rfl)
      | identifier name =>
          obtain rfl := Except.ok.inj pieceWritten
          obtain ⟨rfl, restSeparated⟩ := separated
          obtain ⟨read, apart⟩ := ih restSeparated afterWritten
          refine ⟨?_, (absurd · Bool.false_ne_true)⟩
          rw [skipped_quoteName dialect name _ (apart rfl)]
          exact read
      | literal value =>
          obtain ⟨rfl, restSeparated⟩ := separated
          obtain ⟨read, apart⟩ := ih restSeparated afterWritten
          refine ⟨?_, (absurd · Bool.false_ne_true)⟩
          rw [skipped_literal pieceWritten _ (apart rfl)]
          exact read
      | placeholder parameter =>
          obtain rfl := Except.ok.inj pieceWritten
          obtain ⟨rfl, restSeparated⟩ := separated
          obtain ⟨read, apart⟩ := ih restSeparated afterWritten
          refine ⟨?_, (absurd · Bool.false_ne_true)⟩
          obtain ⟨mark, digits, chars, isMark, allDigits⟩ := dialect.toList_placeholder position
          have spelled : String.ofList (mark :: digits) = dialect.placeholder position := by
            rw [← chars, String.ofList_toList]
          rw [chars, placeholdersIn_mark isMark allDigits (apart rfl), read, spelled]
          simp only [parametersOf, Token.parameter?, List.filterMap_cons, Option.map_some,
            List.length_cons, List.range'_succ, List.map_cons, Option.isSome_some, if_true]

end Dialect

end CheckedSql
