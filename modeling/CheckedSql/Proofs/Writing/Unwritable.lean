import CheckedSql.Proofs.Writing.Placeholder

/-!
# What cannot be written

Everything but a value has a text in every dialect.  So writing fails exactly if the dialect
lacks a literal for one of the values in the tokens, and the first of them gives the error
(`Dialect.exists_literal_of_writeFrom`).  These values stand in the parts that are written,
except for truth values, which every dialect can write (`Part.canWrite_iff`).  A value in an
inactive part, or before an empty list, does no harm.
-/

namespace CheckedSql

/-! ## Values without a literal -/

/-- The dialect has no literal for the value.  NaN and the infinities are words of their own, which
two dialects do not know, and SQLite has no integers beyond the signed ones. -/
def Dialect.Lacks : Dialect → Value → Prop
  | generic, .float number | mysql, .float number => number.isNaN ∨ number.isInfinite
  | sqlite, .uint number => 0x8000000000000000 ≤ number.toNat
  | _, _ => False

namespace Dialect

variable {dialect : Dialect} {value : Value}

theorem not_lacks_postgres : ¬ postgres.Lacks value := nofun

theorem not_lacks_bool (truth : Bool) : ¬ dialect.Lacks (.bool truth) := by
  cases dialect <;> exact nofun

theorem exists_floatLiteral_iff {number : Binary64} :
    (∃ text, dialect.floatLiteral number = .ok text) ↔ ¬ dialect.Lacks (.float number) := by
  cases isNaN : number.isNaN <;> cases isInfinite : number.isInfinite <;>
    cases isNegative : number.isNegative <;> cases dialect <;>
    simp [floatLiteral, Lacks, orUnsupported, nanLiteral?, infinityLiteral?, *]

theorem exists_unsignedLiteral_iff {number : UInt64} :
    (∃ text, dialect.unsignedLiteral number = .ok text) ↔ ¬ dialect.Lacks (.uint number) := by
  by_cases beyond : 0x8000000000000000 ≤ number.toNat <;> cases dialect <;>
    simp [unsignedLiteral, Lacks, beyond]

/-- A value has a literal exactly if the dialect does not lack one. -/
theorem exists_literal_iff :
    (∃ text, dialect.literal value = .ok text) ↔ ¬ dialect.Lacks value := by
  cases value with
  | float number => exact exists_floatLiteral_iff
  | uint number => exact exists_unsignedLiteral_iff
  | _ => cases dialect <;> simp [literal, Lacks]

/-- A missing literal is a problem of the text. -/
theorem sqlGeneration_of_literal {error : Error} (failed : dialect.literal value = .error error) :
    ∃ message, error = .sqlGeneration message := by
  have unsupported {what : String} {text? : Option String}
      (failed : orUnsupported what text? = .error error) :
      ∃ message, error = .sqlGeneration message := by
    cases text? with
    | none => exact ⟨_, (Except.error.inj failed).symm⟩
    | some text => cases failed
  cases value with
  | float number =>
      rw [literal, floatLiteral] at failed
      split at failed
      · exact unsupported failed
      · split at failed
        · exact unsupported failed
        · cases failed
  | uint number =>
      rw [literal, unsignedLiteral] at failed
      split at failed
      · exact ⟨_, (Except.error.inj failed).symm⟩
      · cases failed
  | _ => cases failed

end Dialect

/-! ## Tokens that can be written -/

/-- Each value in the tokens has a literal. -/
def Dialect.CanWrite (dialect : Dialect) (tokens : List Token) : Prop :=
  ∀ value, .literal value ∈ tokens → ∃ text, dialect.literal value = .ok text

namespace Dialect

variable {dialect : Dialect} {tokens : List Token}

theorem canWrite_of_writeFrom {position : Nat} {sql : String}
    (written : dialect.writeFrom position tokens = .ok sql) : dialect.CanWrite tokens := by
  induction tokens generalizing position sql with
  | nil => exact fun _ mem => absurd mem List.not_mem_nil
  | cons token tokens ih =>
      obtain ⟨text, textWritten, rest⟩ := bind_eq_ok.1 written
      obtain ⟨behind, behindWritten, -⟩ := bind_eq_ok.1 rest
      intro value mem
      rcases List.mem_cons.1 mem with rfl | later
      · exact ⟨text, textWritten⟩
      · exact ih behindWritten value later

theorem CanWrite.exists_writeFrom (canWrite : dialect.CanWrite tokens) (position : Nat) :
    ∃ sql, dialect.writeFrom position tokens = .ok sql := by
  induction tokens generalizing position with
  | nil => exact ⟨"", rfl⟩
  | cons token tokens ih =>
      have first : ∃ text, dialect.writeToken position token = .ok text := by
        cases token with
        | literal value => exact canWrite value (.head _)
        | text content => exact ⟨content, rfl⟩
        | identifier name => exact ⟨dialect.quoteName name, rfl⟩
        | placeholder parameter => exact ⟨dialect.placeholder position, rfl⟩
      obtain ⟨text, textWritten⟩ := first
      have others (next : Nat) : ∃ behind, dialect.writeFrom next tokens = .ok behind :=
        ih (fun value mem => canWrite value (.tail _ mem)) next
      obtain ⟨behind, behindWritten⟩ :=
        others (if token.parameter?.isSome then position + 1 else position)
      refine ⟨text ++ behind, ?_⟩
      rw [writeFrom]
      exact bind_eq_ok.2 ⟨text, textWritten, bind_eq_ok.2 ⟨behind, behindWritten, rfl⟩⟩

/-- Writing fails at the first token that cannot be written. -/
theorem writeFrom_cons_eq_error {position : Nat} {token : Token} {error : Error} :
    dialect.writeFrom position (token :: tokens) = .error error
      ↔ dialect.writeToken position token = .error error
        ∨ (∃ text, dialect.writeToken position token = .ok text)
          ∧ dialect.writeFrom (if token.parameter?.isSome then position + 1 else position) tokens
            = .error error := by
  rw [writeFrom, bind_eq_error]
  simp only [bind_eq_error, reduceCtorEq, and_false, exists_false, or_false, exists_and_right,
    pure, Except.pure]

/-- An error is that of a value without a literal. -/
theorem exists_literal_of_writeFrom {position : Nat} {error : Error}
    (failed : dialect.writeFrom position tokens = .error error) :
    ∃ value, .literal value ∈ tokens ∧ dialect.literal value = .error error := by
  induction tokens generalizing position with
  | nil => cases failed
  | cons token tokens ih =>
      rcases writeFrom_cons_eq_error.1 failed with here | ⟨-, later⟩
      · cases token with
        | literal value => exact ⟨value, .head _, here⟩
        | text | identifier | placeholder => cases here
      · obtain ⟨value, mem, missing⟩ := ih later
        exact ⟨value, .tail _ mem, missing⟩

end Dialect

/-! ## Values in written parts -/

namespace Part

variable {dialect : Dialect} {part child : Part}

/-- The other part is written as the part or within it, at some depth. -/
def Writes : Part → Part → Prop :=
  Relation.ReflTransGen fun part child => child ∈ part.written

/-- The tokens of what is written of a part are among its tokens. -/
theorem tokens_subset_of_mem_written (mem : child ∈ part.written) :
    child.tokens dialect ⊆ part.tokens dialect := by
  have notLiteral : ∀ expr, part = .expr expr → expr.isLiteral = false := by
    rintro expr rfl
    cases expr with
    | value | parameter => cases mem
    | _ => rfl
  exact (part.layout dialect notLiteral).subset mem

theorem Writes.tokens_subset (writes : part.Writes child) :
    child.tokens dialect ⊆ part.tokens dialect := by
  induction writes with
  | refl => exact List.Subset.refl _
  | tail _ mem ih => exact List.Subset.trans (tokens_subset_of_mem_written mem) ih

/-- What is written of a part that can be written can be written, too. -/
theorem canWrite_of_mem_written (canWrite : dialect.CanWrite (part.tokens dialect))
    (mem : child ∈ part.written) : dialect.CanWrite (child.tokens dialect) :=
  fun value valueMem => canWrite value (tokens_subset_of_mem_written mem valueMem)

/-- A value in the tokens is a truth value, or it is written. -/
theorem writes_of_literal_mem {value : Value} (mem : .literal value ∈ part.tokens dialect) :
    (∃ truth, value = .bool truth) ∨ part.Writes (.expr (.value value)) := by
  induction part using Part.induction with
  | step part ih =>
      -- a value and a parameter are the only parts whose tokens are not laid out around their parts
      by_cases notLiteral : ∀ expr, part = .expr expr → expr.isLiteral = false
      · rcases (part.layout dialect notLiteral).literal_mem mem with
          isBool | ⟨child, written, inside⟩
        · exact .inl isBool
        · exact (ih child (part.written_sublist.subset written) inside).imp_right (.head written)
      · obtain ⟨expr, rfl, isLiteral⟩ : ∃ expr, part = .expr expr ∧ expr.isLiteral = true := by
          simpa using notLiteral
        cases expr with
        | value other =>
            obtain rfl := Token.literal.inj (List.mem_singleton.1 mem)
            exact .inr .refl
        | parameter parameter => cases List.mem_singleton.1 mem
        | _ => cases isLiteral

/-- A part can be written if the dialect lacks no literal for what is written of it. -/
theorem canWrite_iff :
    dialect.CanWrite (part.tokens dialect)
      ↔ ∀ value, part.Writes (.expr (.value value)) → ¬ dialect.Lacks value := by
  constructor
  · intro canWrite value writes
    exact Dialect.exists_literal_iff.1 (canWrite value (writes.tokens_subset (.head _)))
  · intro known value mem
    rw [Dialect.exists_literal_iff]
    rcases writes_of_literal_mem mem with ⟨truth, rfl⟩ | writes
    · exact Dialect.not_lacks_bool truth
    · exact known value writes

end Part

/-! ## Statements that cannot be written -/

namespace Statement

variable {statement : Statement} {dialect : Dialect}

theorem serialize_eq_error {error : Error} (consistent : statement.checkConsistency = .ok ()) :
    statement.serialize dialect = .error error
      ↔ dialect.write (statement.tokens dialect) = .error error := by
  rw [serialize, consistent]
  show (dialect.write (statement.tokens dialect) >>= _) = _ ↔ _
  simp only [bind_eq_error, pure, Except.pure, reduceCtorEq, and_false, exists_false, or_false]

/-- A consistent statement is written unless the dialect lacks a literal. -/
theorem exists_serialize_iff (consistent : statement.checkConsistency = .ok ()) :
    (∃ written, statement.serialize dialect = .ok written)
      ↔ ∀ value, (Part.statement statement).Writes (.expr (.value value))
        → ¬ dialect.Lacks value := by
  rw [← Part.canWrite_iff]
  constructor
  · rintro ⟨written, serialized⟩
    exact Dialect.canWrite_of_writeFrom (serialize_eq_ok.1 serialized).2.1
  · intro canWrite
    obtain ⟨sql, written⟩ := canWrite.exists_writeFrom 1
    exact ⟨⟨sql, _⟩, serialize_eq_ok.2 ⟨consistent, written, rfl⟩⟩

/-- Writing a consistent statement fails exactly if the dialect lacks a literal for a value that is
written, the error is about the text, and in PostgreSQL it never fails. -/
theorem serialize_fails_iff (consistent : statement.checkConsistency = .ok ())
    (dialect : Dialect) :
    ((∃ error, statement.serialize dialect = .error error)
        ↔ ∃ value, (Part.statement statement).Writes (.expr (.value value)) ∧ dialect.Lacks value)
      ∧ (∀ error, statement.serialize dialect = .error error →
        ∃ message, error = .sqlGeneration message)
      ∧ ∃ written, statement.serialize .postgres = .ok written := by
  refine ⟨?_, ?_, ?_⟩
  · have known := not_congr (@exists_serialize_iff statement dialect consistent)
    have fails : (∃ error, statement.serialize dialect = .error error)
        ↔ ¬ ∃ written, statement.serialize dialect = .ok written := by
      cases statement.serialize dialect <;> simp
    rw [fails, known]
    simp
  · intro error failed
    obtain ⟨value, -, missing⟩ :=
      Dialect.exists_literal_of_writeFrom ((serialize_eq_error consistent).1 failed)
    exact Dialect.sqlGeneration_of_literal missing
  · exact (exists_serialize_iff consistent).2 fun value _ => Dialect.not_lacks_postgres

/-- A deletion with a comparison to NaN, active or not, and an integer that SQLite does not have,
which is looked for in an empty list. -/
def nanDeletion (active : Bool) : Statement :=
  let compared : Expr := .binary .eq (.column ⟨"foo", .new "ratio" .floatingPoint⟩)
    (.value (.float (.nan false))) (.of .boolean)
  let nowhere : Expr := .within false (.value (.uint 0x8000000000000000)) []
  .delete ⟨[.target .deleteFrom (.new "foo" [.new "ratio" .floatingPoint]),
    .where (some (.static (.chain .or [.dynamic active compared, .static nowhere])))]⟩

/-- MySQL has no NaN, SQLite need not write the integer, and nobody an inactive comparison. -/
theorem nanDeletion_fails :
    (∃ message, (nanDeletion true).serialize .mysql = .error (.sqlGeneration message))
      ∧ (∃ written, (nanDeletion true).serialize .sqlite = .ok written)
      ∧ ∃ written, (nanDeletion false).serialize .mysql = .ok written := by
  have consistent : (nanDeletion true).checkConsistency = .ok () := by rfl
  have writes : (Part.statement (nanDeletion true)).Writes (.expr (.value (.float (.nan false)))) :=
    .tail (.tail (.single (.head _)) (.head _)) (.tail _ (.head _))
  obtain ⟨fails, aboutText, -⟩ := serialize_fails_iff consistent .mysql
  obtain ⟨error, failed⟩ := fails.2 ⟨_, writes, .inl rfl⟩
  obtain ⟨message, rfl⟩ := aboutText error failed
  exact ⟨⟨message, failed⟩,
    ⟨⟨"DELETE FROM foo WHERE (foo.ratio = 'NaN') OR (0)", []⟩, by rfl⟩,
    ⟨⟨"DELETE FROM foo WHERE 0", []⟩, by rfl⟩⟩

end Statement

end CheckedSql
