import CheckedSql.Proofs.Verdict
import CheckedSql.Proofs.Writing.PartLayout
import Mathlib.Data.List.Basic

/-!
# Placeholders and parameters

A written statement comes with a list of parameters, and its text has placeholders.
The two belong together by position alone, so they must agree: the list has the
parameters of what is written, in the order of the tree (`Part.parameters`), and the
text has as many placeholders, numbered from 1.

The proof is one induction over parts.  A part that is no value or parameter is laid out
with its written parts, so its tokens have the parameters of these parts
(`Part.parametersOf_tokens`), and names, values and placeholders stay apart
(`Part.separated_tokens`).  Neither depends on the dialect, although the texts do.
-/

namespace CheckedSql

namespace Part

/-- The parameters in what is written of a part, from left to right. -/
def parameters : Part → List Parameter
  | .expr (.parameter parameter) => [parameter]
  | part => part.written.attach.flatMap fun child => parameters child.val
termination_by part => part.weight
decreasing_by exact weight_lt (part.written_sublist.subset child.property)

theorem parameters_parameter (parameter : Parameter) :
    (Part.expr (.parameter parameter)).parameters = [parameter] := by
  rw [parameters]

theorem parameters_eq {part : Part}
    (notParameter : ∀ parameter, part ≠ .expr (.parameter parameter)) :
    part.parameters = part.written.flatMap parameters := by
  rw [parameters]
  · simp
  · exact notParameter

variable (dialect : Dialect)

/-- The tokens of a part have the parameters of the part. -/
theorem parametersOf_tokens (part : Part) :
    parametersOf (part.tokens dialect) = part.parameters := by
  induction part using Part.induction with
  | step part ih =>
      by_cases notLiteral : ∀ expr, part = .expr expr → expr.isLiteral = false
      · have notParameter : ∀ parameter, part ≠ .expr (.parameter parameter) := by
          rintro parameter rfl
          cases notLiteral _ rfl
        rw [(Part.layout dialect notLiteral).parametersOf_eq, parameters_eq notParameter]
        refine List.flatMap_congr fun child mem => ih child ?_
        exact part.written_sublist.subset mem
      · obtain ⟨expr, rfl, isLiteral⟩ : ∃ expr, part = .expr expr ∧ expr.isLiteral = true := by
          simpa using notLiteral
        cases expr with
        | value value =>
            rw [parameters_eq (by rintro _ ⟨⟩)]
            rfl
        | parameter parameter =>
            rw [parameters_parameter]
            rfl
        | _ => cases isLiteral

/-- The tokens of a part are separated. -/
theorem separated_tokens (part : Part) : Separated false (part.tokens dialect) := by
  induction part using Part.induction with
  | step part ih =>
      by_cases notLiteral : ∀ expr, part = .expr expr → expr.isLiteral = false
      · refine (Part.layout dialect notLiteral).separated fun child mem => ih child ?_
        exact part.written_sublist.subset mem
      · obtain ⟨expr, rfl, isLiteral⟩ : ∃ expr, part = .expr expr ∧ expr.isLiteral = true := by
          simpa using notLiteral
        cases expr with
        | value | parameter => exact ⟨rfl, trivial⟩
        | _ => cases isLiteral

end Part

namespace Statement

variable {statement : Statement} {dialect : Dialect} {written : Written}

theorem serialize_eq_ok :
    statement.serialize dialect = .ok written ↔
      statement.checkConsistency = .ok ()
        ∧ dialect.write (statement.tokens dialect) = .ok written.sql
        ∧ written.parameters = parametersOf (statement.tokens dialect) := by
  obtain ⟨sql, parameters⟩ := written
  rw [serialize, bind_eq_ok]
  constructor
  · rintro ⟨⟨⟩, consistent, rest⟩
    obtain ⟨text, textWritten, same⟩ := bind_eq_ok.1 rest
    cases pure_eq_ok.1 same
    exact ⟨consistent, textWritten, rfl⟩
  · rintro ⟨consistent, textWritten, rfl⟩
    exact ⟨(), consistent, bind_eq_ok.2 ⟨sql, textWritten, rfl⟩⟩

/-- The parameters of a written statement are those of what is written of it, its text has their
placeholders in this order, and another dialect gives the same parameters. -/
theorem placeholders_agree (serialized : statement.serialize dialect = .ok written) :
    written.parameters = (Part.statement statement).parameters
      ∧ placeholdersIn written.sql.toList
        = some ((List.range' 1 written.parameters.length).map dialect.placeholder)
      ∧ ∀ other otherWritten, statement.serialize other = .ok otherWritten →
        otherWritten.parameters = written.parameters := by
  obtain ⟨-, textWritten, sameParameters⟩ := serialize_eq_ok.1 serialized
  have inTree : written.parameters = (Part.statement statement).parameters := by
    rw [sameParameters]
    exact (Part.statement statement).parametersOf_tokens dialect
  refine ⟨inTree, ?_, ?_⟩
  · have separated := (Part.statement statement).separated_tokens dialect
    rw [sameParameters]
    exact (dialect.placeholdersIn_writeFrom separated textWritten).1
  · intro other otherWritten otherSerialized
    obtain ⟨-, -, otherParameters⟩ := serialize_eq_ok.1 otherSerialized
    rw [inTree, otherParameters]
    exact (Part.statement statement).parametersOf_tokens other

/-- A comparison of a column with a parameter. -/
def comparedWith (name : String) : Expr :=
  .binary .eq (.column ⟨"foo", .new "id" .integral⟩) (.parameter ⟨name, .of .integral⟩)
    (.of .boolean)

/-- A deletion with three parameters, the second of which is left out. -/
def deletion : Delete where
  clauses :=
    [.target .deleteFrom (.new "foo" [.new "id" .integral]),
      .where (some (.static (.chain .or [.static (comparedWith "a"),
        .dynamic false (comparedWith "b"), .static (comparedWith "c")])))]

theorem deletion_placeholders :
    ∃ written, (delete deletion).serialize .postgres = .ok written
      ∧ written.parameters = [⟨"a", .of .integral⟩, ⟨"c", .of .integral⟩]
      ∧ placeholdersIn written.sql.toList = some ["$1", "$2"] := by
  let written : Written :=
    ⟨"DELETE FROM foo WHERE (foo.id = $1) OR (foo.id = $2)",
      [⟨"a", .of .integral⟩, ⟨"c", .of .integral⟩]⟩
  have serialized : (delete deletion).serialize .postgres = .ok written := by rfl
  exact ⟨written, serialized, rfl, (placeholders_agree serialized).2.1⟩

end Statement

end CheckedSql
