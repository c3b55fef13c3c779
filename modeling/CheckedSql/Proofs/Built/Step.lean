import CheckedSql.Proofs.Building
import CheckedSql.Proofs.Built.Basic

/-!
# Steps of a statement

Many calls make a statement, but they do only three things to its clauses.  A call
starts a statement with a first clause, behind the definitions of `WITH` if there are
some, or it appends a clause, or it replaces the last clause by one of the same place.
`Statement.Step` says so, with what each of them checks on the way.
-/

namespace CheckedSql

/-- Whether a clause may stand in statements of this kind.  A row count is a literal or a
placeholder. -/
def Statement.allows : Statement → Clause → Bool
  | _, .with _ => true
  | select _, .columns _ _ => true
  | select _, .source .from _ => true
  | select _, .where _ => true
  | select _, .groupBy _ => true
  | select _, .having _ => true
  | select _, .union _ _ => true
  | select _, .orderBy _ => true
  | select _, .limit _ count => count.isLiteral
  | insert _, .target .insertInto _ => true
  | insert _, .values _ => true
  | insert _, .onConflict _ _ => true
  | insert _, .returning _ => true
  | update _, .target .update _ => true
  | update _, .set _ => true
  | update _, .where _ => true
  | update _, .returning _ => true
  | delete _, .target .deleteFrom _ => true
  | delete _, .source .using _ => true
  | delete _, .where _ => true
  | delete _, .returning _ => true
  | _, _ => false

/-- A call starts a statement, appends a clause to one, or replaces the last clause of one. -/
inductive Statement.Step (arguments : List Part) (result : Statement) : Prop where
  | start {definitions : Option With} {head : Clause} (defined : With.AreMade definitions)
      (rank : head.rank = 1) (allowed : result.allows head = true)
      (clauses : result.clauses = With.clauses definitions ++ [head])
      (given : ∀ part ∈ With.parts definitions ++ head.parts, part ∈ arguments)
  | append {old : Statement} {clause : Clause} (mem : .statement old ∈ arguments)
      (kind : result.kind = old.kind) (allowed : result.allows clause = true)
      (rank : ∀ last ∈ old.clauses.getLast?, last.rank < clause.rank)
      (clauses : result.clauses = old.clauses ++ [clause])
      (given : ∀ part ∈ clause.parts, part ∈ arguments)
  | replace {old : Statement} {earlier : List Clause} {last clause : Clause}
      (mem : .statement old ∈ arguments) (kind : result.kind = old.kind)
      (allowed : result.allows clause = true) (rank : clause.rank = last.rank)
      (before : old.clauses = earlier ++ [last]) (clauses : result.clauses = earlier ++ [clause])
      (given : ∀ part ∈ clause.parts, part ∈ last.parts ∨ part ∈ arguments)

/-- Replacing the last clause keeps the earlier ones. -/
theorem replaceLast_append (earlier : List Clause) (last clause : Clause) :
    replaceLast (earlier ++ [last]) clause = earlier ++ [clause] := by
  rw [replaceLast, List.dropLast_concat]

namespace Statement

theorem Step.of_replaceLast {arguments : List Part} {result : Statement} {last clause : Clause}
    (old : Statement) (found : old.clauses.getLast? = some last)
    (clauses : result.clauses = replaceLast old.clauses clause)
    (mem : .statement old ∈ arguments) (kind : result.kind = old.kind)
    (allowed : result.allows clause = true) (rank : clause.rank = last.rank)
    (given : ∀ part ∈ clause.parts, part ∈ last.parts ∨ part ∈ arguments) :
    Step arguments result := by
  obtain ⟨earlier, before⟩ := List.getLast?_eq_some_iff.1 found
  rw [before, replaceLast_append] at clauses
  exact .replace mem kind allowed rank before clauses given

theorem Step.of_appendClause {arguments : List Part} {old result : Statement} {clause : Clause}
    (mem : .statement old ∈ arguments)
    (appended : appendClause old.clauses clause = .ok result.clauses)
    (kind : result.kind = old.kind) (allowed : result.allows clause = true)
    (given : ∀ part ∈ clause.parts, part ∈ arguments) : Step arguments result := by
  obtain ⟨rank, clauses⟩ := appendClause_eq_ok_iff.1 appended
  exact .append mem kind allowed rank clauses given

end Statement

end CheckedSql
