import CheckedSql.Proofs.Writing.PartSpelled
import CheckedSql.Proofs.Writing.Unwritable

/-!
# Operators read back

`Part.operators` lists the operators of a tree from left to right, and PostgreSQL should read
exactly these in the written text.

It does, unless a bitwise negation stands directly in front of a negative number: there it
reads `~-`, which is no operator of the tree.  `Part.SignsApart` says that this is nowhere the
case in what is written.  Then the runs of the part are its operators (`Part.signsApart_iff`),
and otherwise a tilde in front of a minus sign is the only thing in the text that goes wrong
(`Expr.operators_read_iff`).
-/

namespace CheckedSql

namespace Part

/-- The operators of a part, from left to right. -/
def operators : Part → List String := operatorsBy fun operator _ behind => operator.sign ++ behind

/-- No bitwise negation that is written of a part stands in front of a signed number. -/
def SignsApart (part : Part) : Prop :=
  ∀ operand, part.Writes (.expr (.unary .bitNot operand)) → operand.isSigned = false

theorem SignsApart.of_mem {part child : Part} (apart : part.SignsApart)
    (mem : child ∈ part.written) : child.SignsApart :=
  fun operand writes => apart operand (.head mem writes)

/-- The runs of a part are its operators if no sign fuses with a bitwise negation. -/
theorem SignsApart.runs_eq {part : Part} (apart : part.SignsApart) :
    part.runs = part.operators := by
  induction part using operatorInduction with
  | value | aggregateAll => rw [runs, operators, operatorsBy, operatorsBy]
  | unary operator operand ih =>
      have signs : ¬ (operator = .bitNot ∧ operand.isSigned = true) := by
        rintro ⟨rfl, signed⟩
        exact Bool.false_ne_true ((apart operand .refl).symm.trans signed)
      rw [runs, operators, operatorsBy, operatorsBy, UnaryOperator.fused, if_neg signs]
      exact congrArg (operator.sign ++ ·) (ih (apart.of_mem (.head _)))
  | binary operator left right type leftIh rightIh =>
      have leftSame := leftIh (apart.of_mem (.head _))
      have rightSame := rightIh (apart.of_mem (.tail _ (.head _)))
      rw [runs, operators, operatorsBy, operatorsBy]
      exact congr (congrArg (· ++ ·) leftSame) (congrArg (operator.spelling ++ ·) rightSame)
  | plain part isPlain ih =>
      rw [runs, operators, operatorsBy_eq isPlain, operatorsBy_eq isPlain]
      exact List.flatMap_congr fun child mem => ih child mem (apart.of_mem mem)

/-- A property holds of the operators of a part if it holds of the spellings and if prefixed
operators keep it. -/
theorem forall_mem_operatorsBy {P : String → Prop}
    {prefixed : UnaryOperator → Expr → List String → List String}
    (spelling : ∀ operator : Operator, P operator.symbol)
    (prefixes : ∀ operator operand behind, (∀ text ∈ behind, P text) →
      ∀ text ∈ prefixed operator operand behind, P text) (part : Part) :
    ∀ text ∈ part.operatorsBy prefixed, P text := by
  induction part using operatorInduction with
  | value value =>
      rw [operatorsBy]
      split
      · exact List.forall_mem_singleton.2 (spelling .sub)
      · exact List.forall_mem_nil _
  | unary operator operand ih =>
      rw [operatorsBy]
      exact prefixes operator operand _ ih
  | binary operator left right type leftIh rightIh =>
      rw [operatorsBy, List.forall_mem_append, List.forall_mem_append, Operator.spelling]
      refine ⟨leftIh, ?_, rightIh⟩
      split
      · exact List.forall_mem_singleton.2 (spelling operator)
      · exact List.forall_mem_nil _
  | aggregateAll call =>
      rw [operatorsBy]
      exact List.forall_mem_singleton.2 (spelling .mul)
  | plain part isPlain ih =>
      rw [operatorsBy_eq isPlain]
      exact List.forall_mem_flatMap.2 ih

theorem mem_runs_of_mem_written {part child : Part} (mem : child ∈ part.written)
    (fuses : "~-" ∈ child.runs) : "~-" ∈ part.runs := by
  induction part using operatorInduction with
  | value | aggregateAll => cases mem
  | unary operator operand =>
      obtain rfl := List.mem_singleton.1 mem
      rw [runs, operatorsBy, UnaryOperator.fused]
      split
      · exact .head _
      · exact List.mem_append_right _ fuses
  | binary operator left right type =>
      rw [runs, operatorsBy]
      rcases List.mem_cons.1 mem with rfl | isRight
      · exact List.mem_append_left _ fuses
      · obtain rfl := List.mem_singleton.1 isRight
        exact List.mem_append_right _ (List.mem_append_right _ fuses)
  | plain part isPlain =>
      rw [runs, operatorsBy_eq isPlain]
      exact List.mem_flatMap.2 ⟨child, mem, fuses⟩

/-- A bitwise negation that fuses with a sign fuses in every part that it is written in. -/
theorem mem_runs_of_writes {part child : Part} (writes : part.Writes child)
    (fuses : "~-" ∈ child.runs) : "~-" ∈ part.runs := by
  induction writes using Relation.ReflTransGen.head_induction_on with
  | refl => exact fuses
  | head mem _ ih => exact mem_runs_of_mem_written mem ih

/-- A minus sign or a tilde in an operator is all of it. -/
def SignsAlone (text : String) : Prop :=
  ∀ c ∈ text.toList, c = '-' ∨ c = '~' → text.toList = [c]

instance (text : String) : Decidable (SignsAlone text) :=
  List.decidableBAll (fun c => c = '-' ∨ c = '~' → text.toList = [c]) text.toList

theorem signsAlone_symbol (operator : Operator) : SignsAlone operator.symbol := by
  cases operator <;> decide

theorem signsAlone_sign (operator : UnaryOperator) :
    ∀ text ∈ operator.sign, SignsAlone text := by
  cases operator <;> decide

/-- No operator of a tree has a sign among other characters. -/
theorem signsAlone_of_mem_operators {part : Part} : ∀ text ∈ part.operators, SignsAlone text :=
  forall_mem_operatorsBy signsAlone_symbol (fun operator _ _ known =>
    List.forall_mem_append.2 ⟨signsAlone_sign operator, known⟩) part

/-- Signs are read with other characters only if one fuses with a bitwise negation. -/
theorem signsAlone_of_mem_runs {part : Part} :
    ∀ text ∈ part.runs, text = "~-" ∨ SignsAlone text := by
  refine forall_mem_operatorsBy (fun operator => .inr (signsAlone_symbol operator)) ?_ part
  intro operator operand behind known
  rw [UnaryOperator.fused]
  split
  · exact List.forall_mem_singleton.2 (.inl rfl)
  · exact List.forall_mem_append.2 ⟨fun text mem => .inr (signsAlone_sign operator text mem), known⟩

/-- Each run of a part is read as one operator. -/
theorem splitRun_of_mem_runs {part : Part} : ∀ text ∈ part.runs, splitRun text = [text] := by
  refine forall_mem_operatorsBy (fun operator => ?_) ?_ part
  · cases operator <;> decide
  · intro operator operand behind known
    rw [UnaryOperator.fused]
    split
    · exact List.forall_mem_singleton.2 (by decide)
    · refine List.forall_mem_append.2 ⟨?_, known⟩
      cases operator <;> decide

theorem not_mem_operators (part : Part) : "~-" ∉ part.operators := fun mem =>
  absurd (signsAlone_of_mem_operators "~-" mem '~' (by decide) (.inr rfl)) (by decide)

/-- The signs in a part stand apart exactly if none fuses with a bitwise negation. -/
theorem signsApart_iff {part : Part} : part.SignsApart ↔ "~-" ∉ part.runs := by
  constructor
  · intro apart fuses
    rw [apart.runs_eq] at fuses
    exact part.not_mem_operators fuses
  · intro apart operand writes
    refine Bool.eq_false_iff.2 fun signed => apart (mem_runs_of_writes writes ?_)
    rw [runs, operatorsBy, UnaryOperator.fused, if_pos ⟨rfl, signed⟩]
    exact .head _

/-- What stands behind a sign in a run fuses with it. -/
theorem eq_of_adjacent_mem_runs {part : Part} {text : String} (mem : text ∈ part.runs)
    {sign next : Char} (isSign : sign = '-' ∨ sign = '~')
    (adjacent : [sign, next] <:+: text.toList) : text = "~-" ∧ sign = '~' ∧ next = '-' := by
  rcases signsAlone_of_mem_runs text mem with rfl | alone
  · have same : [sign, next] = ['~', '-'] := adjacent.eq_of_length rfl
    simpa using same
  · rw [alone sign (adjacent.subset (.head _)) isSign] at adjacent
    exact absurd adjacent.length_le (Nat.not_succ_le_self 1)

end Part

/-! ## Operators in the text -/

namespace Expr

/-- PostgreSQL can write every built expression.  In the text a minus sign or a tilde stands in
front of another operator character only where a tilde stands in front of a minus sign.  This is so
exactly if a bitwise negation is written in front of a signed number, and otherwise PostgreSQL reads
exactly the operators of the tree. -/
theorem operators_read_iff {expr : Expr} (built : (Part.expr expr).Built) :
    ∃ sql found, Dialect.postgres.write (expr.tokens .postgres) = .ok sql
      ∧ Dialect.postgres.scan sql.toList = some found
      ∧ (∀ sign next, sign = '-' ∨ sign = '~' → isOperatorChar next = true →
        [.symbol sign, .symbol next] <:+: found → sign = '~' ∧ next = '-')
      ∧ (¬ [.symbol '~', .symbol '-'] <:+: found ↔ (Part.expr expr).SignsApart)
      ∧ (operatorsIn found = (Part.expr expr).operators ↔ (Part.expr expr).SignsApart) := by
  have canWrite : Dialect.postgres.CanWrite ((Part.expr expr).tokens .postgres) :=
    Part.canWrite_iff.2 fun _ _ => Dialect.not_lacks_postgres
  obtain ⟨sql, written⟩ := canWrite.exists_writeFrom 1
  have phrase : Phrase .postgres .expression (expr.tokens .postgres) := built.phrase
  have spelled : (Part.expr expr).IsSpelled := built.spelled nofun
  have runs : runsIn (Dialect.postgres.pieces (expr.tokens .postgres)) = (Part.expr expr).runs :=
    spelled.runs
  have fused {sign next : Char} (isSign : sign = '-' ∨ sign = '~')
      (isNext : isOperatorChar next = true)
      (adjacent : [.symbol sign, .symbol next]
        <:+: Dialect.postgres.pieces (expr.tokens .postgres)) :
      "~-" ∈ (Part.expr expr).runs ∧ sign = '~' ∧ next = '-' := by
    have isOperator : isOperatorChar sign = true := by rcases isSign with rfl | rfl <;> rfl
    obtain ⟨text, mem, inside⟩ := exists_run_of_adjacent isOperator isNext adjacent
    rw [runs] at mem
    obtain ⟨rfl, both⟩ := Part.eq_of_adjacent_mem_runs mem isSign inside
    exact ⟨mem, both⟩
  refine ⟨sql, _, written, phrase.scan_writeFrom written, ?_, ?_, ?_⟩
  · exact fun sign next isSign isNext adjacent => (fused isSign isNext adjacent).2
  · rw [Part.signsApart_iff, ← runs]
    refine not_congr ⟨fun adjacent => ?_, adjacent_of_mem_runsIn⟩
    rw [runs]
    exact (fused (.inr rfl) rfl adjacent).1
  · rw [operatorsIn_of_runsIn runs Part.splitRun_of_mem_runs, Part.signsApart_iff]
    constructor
    · intro same fuses
      rw [same] at fuses
      exact Part.not_mem_operators _ fuses
    · exact fun apart => (Part.signsApart_iff.2 apart).runs_eq

/-- A unary operator on a negative number. -/
def onMinusFive (operator : UnaryOperator) : Expr := .unary operator (.value (.int (-5)))

theorem onMinusFive_built (operator : UnaryOperator)
    (made : mkUnary operator (.value (.int (-5))) = .ok (onMinusFive operator)) :
    (Part.expr (onMinusFive operator)).Built := by
  refine .made (.unary made) (List.forall_mem_singleton.2 ?_)
  exact .made (.value (.int (-5))) nofun

theorem onMinusFive_operators (operator : UnaryOperator) :
    (Part.expr (onMinusFive operator)).operators = operator.sign ++ ["-"] := by
  rw [onMinusFive, Part.operators, Part.operatorsBy, Part.operatorsBy]
  rfl

/-- Negation puts the number between parentheses, so PostgreSQL reads both signs. -/
theorem minusMinusFive_read :
    (Part.expr (onMinusFive .negate)).Built ∧ (Part.expr (onMinusFive .negate)).SignsApart
      ∧ Dialect.postgres.write ((onMinusFive .negate).tokens .postgres) = .ok "-(-5)"
      ∧ ∃ found, Dialect.postgres.scan "-(-5)".toList = some found
        ∧ operatorsIn found = ["-", "-"] := by
  have built : (Part.expr (onMinusFive .negate)).Built := onMinusFive_built .negate rfl
  have text : Dialect.postgres.write ((onMinusFive .negate).tokens .postgres) = .ok "-(-5)" := by
    rfl
  have apart : (Part.expr (onMinusFive .negate)).SignsApart := by
    rw [Part.signsApart_iff, onMinusFive, Part.runs, Part.operatorsBy, Part.operatorsBy]
    decide
  obtain ⟨sql, found, written, read, -, -, iff⟩ := operators_read_iff built
  obtain rfl := Except.ok.inj (text.symm.trans written)
  exact ⟨built, apart, text, found, read, (iff.2 apart).trans (onMinusFive_operators .negate)⟩

/-- Bitwise negation does not, and PostgreSQL reads one operator, which it does not know. -/
theorem notMinusFive_fused :
    (Part.expr (onMinusFive .bitNot)).Built
      ∧ Dialect.postgres.write ((onMinusFive .bitNot).tokens .postgres) = .ok "~-5"
      ∧ Dialect.postgres.scan "~-5".toList = some [.symbol '~', .symbol '-', .word "5"]
      ∧ operatorsIn [.symbol '~', .symbol '-', .word "5"] = ["~-"]
      ∧ (Part.expr (onMinusFive .bitNot)).operators = ["~", "-"] :=
  ⟨onMinusFive_built .bitNot rfl, by rfl, by decide, by decide, onMinusFive_operators .bitNot⟩

end Expr

end CheckedSql
