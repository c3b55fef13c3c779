import CheckedSql.Proofs.Built.Checked
import Mathlib.Data.List.Nodup

/-!
# The order of clauses

The clauses of a built statement are of its kind, no two have the same place in the
order of SQL, and one of them starts the statement.  Each step keeps that
(`Statement.Step.ordered`), so it holds of every built statement
(`Statement.ordered_of_built`).
-/

namespace CheckedSql

namespace Statement

/-- The clauses of a statement are of its kind and in the order of SQL, and one of them starts
it. -/
structure Ordered (statement : Statement) : Prop where
  allowed : ∀ clause ∈ statement.clauses, statement.allows clause = true
  increasing : statement.clauses.Pairwise fun earlier later => earlier.rank < later.rank
  headed : ∃ clause ∈ statement.clauses, clause.rank = 1

/-- The clauses of an ordered statement: definitions, if there are some, the clause that starts the
statement, and the clauses behind it. -/
theorem Ordered.split {statement : Statement} (ordered : statement.Ordered) :
    ∃ definitions head others, statement.clauses = definitions ++ head :: others
      ∧ (definitions = [] ∨ ∃ ctes, definitions = [.with ctes]) ∧ head.rank = 1
      ∧ ∀ clause ∈ others, 2 ≤ clause.rank := by
  obtain ⟨head, headMem, rank⟩ := ordered.headed
  obtain ⟨definitions, others, clauses⟩ := List.append_of_mem headMem
  have increasing := ordered.increasing
  rw [clauses, List.pairwise_append, List.pairwise_cons] at increasing
  obtain ⟨before, ⟨behindHead, -⟩, beforeHead⟩ := increasing
  have lowest : ∀ clause ∈ definitions, clause.rank = 0 := fun clause mem => by
    have below := beforeHead clause mem head (.head _)
    rw [rank] at below
    exact Nat.lt_one_iff.1 below
  refine ⟨definitions, head, others, clauses, ?_, rank, fun clause mem => ?_⟩
  · cases definitions with
    | nil => exact .inl rfl
    | cons first rest =>
        refine .inr ?_
        cases rest with
        | nil =>
            have isLowest := lowest first (.head _)
            cases first with
            | «with» ctes => exact ⟨ctes, rfl⟩
            | limit kind count => cases kind <;> cases isLowest
            | _ => cases isLowest
        | cons second rest =>
            -- two clauses cannot have the same place
            have below := (List.pairwise_cons.1 before).1 second (.head _)
            rw [lowest second (.tail _ (.head _))] at below
            cases below
  · have above := behindHead clause mem
    rwa [rank] at above

/-- No two clauses of an ordered statement have the same place. -/
theorem Ordered.eq_of_rank_eq {statement : Statement} (ordered : statement.Ordered)
    {first second : Clause} (firstMem : first ∈ statement.clauses)
    (secondMem : second ∈ statement.clauses) (same : first.rank = second.rank) :
    first = second := by
  have distinct : (statement.clauses.map Clause.rank).Nodup :=
    List.pairwise_map.2 (ordered.increasing.imp Nat.ne_of_lt)
  exact List.inj_on_of_nodup_map distinct firstMem secondMem same

/-- The table of the target clause is the target of the scope. -/
theorem Ordered.target?_scope {statement : Statement} (ordered : statement.Ordered)
    {change : TargetKind} {target : Table} (mem : .target change target ∈ statement.clauses) :
    statement.scope.target? = some target := by
  have inTargets : target ∈ statement.clauses.filterMap Clause.target? :=
    List.mem_filterMap.2 ⟨_, mem, rfl⟩
  have last : statement.scope.target? = (statement.clauses.filterMap Clause.target?).getLast? := rfl
  cases found : (statement.clauses.filterMap Clause.target?).getLast? with
  | none =>
      rw [List.getLast?_eq_none_iff.1 found] at inTargets
      cases inTargets
  | some other =>
      obtain ⟨clause, clauseMem, isTarget⟩ :=
        List.mem_filterMap.1 (List.mem_of_getLast? found)
      cases clause with
      | target change' other' =>
          have same := ordered.eq_of_rank_eq clauseMem mem rfl
          obtain ⟨-, rfl⟩ := Clause.target.inj same
          rw [last, found, ← isTarget]
          rfl
      | _ => cases isTarget

/-- Clauses in the order of SQL are those in front of some place and those from there on. -/
theorem exists_split_of_increasing {clauses : List Clause}
    (increasing : clauses.Pairwise fun earlier later => earlier.rank < later.rank) (place : Nat) :
    ∃ earlier later, clauses = earlier ++ later ∧ (∀ clause ∈ earlier, clause.rank < place)
      ∧ ∀ clause ∈ later, place ≤ clause.rank := by
  induction clauses with
  | nil => exact ⟨[], [], rfl, nofun, nofun⟩
  | cons first rest ih =>
      obtain ⟨above, restIncreasing⟩ := List.pairwise_cons.1 increasing
      rcases Nat.lt_or_ge first.rank place with isEarlier | isLater
      · obtain ⟨earlier, later, rfl, below, notBelow⟩ := ih restIncreasing
        exact ⟨first :: earlier, later, rfl, List.forall_mem_cons.2 ⟨isEarlier, below⟩, notBelow⟩
      · refine ⟨[], first :: rest, rfl, nofun, List.forall_mem_cons.2 ⟨isLater, ?_⟩⟩
        exact fun clause mem => Nat.le_of_lt (Nat.lt_of_le_of_lt isLater (above clause mem))

/-- Which clauses a statement allows depends on its kind. -/
theorem allows_eq_of_kind {first second : Statement} (same : first.kind = second.kind)
    (clause : Clause) : first.allows clause = second.allows clause := by
  cases first <;> cases second <;> simp only [kind, String.reduceEq] at same
  all_goals
    cases clause with
    | target kind table => cases kind <;> rfl
    | source kind table => cases kind <;> rfl
    | _ => rfl

/-- The clause of `WITH` comes first and is allowed everywhere. -/
theorem clauses_with {definitions : Option With} {clause : Clause}
    (mem : clause ∈ With.clauses definitions) : ∃ ctes, clause = .with ctes := by
  cases definitions with
  | none => cases mem
  | some given => exact ⟨given.ctes, List.mem_singleton.1 mem⟩

/-- In an increasing list, a rank above the last one is above all of them. -/
theorem rank_lt_of_last {clauses : List Clause} {clause earlier : Clause}
    (increasing : clauses.Pairwise fun earlier later => earlier.rank < later.rank)
    (rank : ∀ last ∈ clauses.getLast?, last.rank < clause.rank) (mem : earlier ∈ clauses) :
    earlier.rank < clause.rank := by
  rcases List.eq_nil_or_concat clauses with rfl | ⟨init, last, rfl⟩
  · cases mem
  · rw [List.concat_eq_append] at mem increasing
    have lastRank : last.rank < clause.rank := rank last (by simp)
    rcases List.mem_append.1 mem with inInit | isLast
    · have below := (List.pairwise_append.1 increasing).2.2 earlier inInit last (.head _)
      exact Nat.lt_trans below lastRank
    · rwa [List.mem_singleton.1 isLast]

section Steps

variable {old result : Statement} {clause : Clause}

/-- A statement that is opened with its head is in order. -/
theorem Ordered.of_start {definitions : Option With} {head : Clause} (rank : head.rank = 1)
    (allowed : result.allows head = true)
    (clauses : result.clauses = With.clauses definitions ++ [head]) : result.Ordered := by
  refine ⟨?_, ?_, head, by simp [clauses], rank⟩
  · intro clause mem
    rw [clauses] at mem
    rcases List.mem_append.1 mem with isWith | isHead
    · obtain ⟨ctes, rfl⟩ := clauses_with isWith
      cases result <;> rfl
    · rwa [List.mem_singleton.1 isHead]
  · rw [clauses, List.pairwise_append]
    refine ⟨?_, List.pairwise_singleton _ _, ?_⟩
    · cases definitions with
      | none => exact .nil
      | some given => exact List.pairwise_singleton _ _
    · intro first isWith second isHead
      obtain ⟨ctes, rfl⟩ := clauses_with isWith
      rw [List.mem_singleton.1 isHead, rank]
      exact Nat.zero_lt_one

/-- A clause of a higher place keeps the order. -/
theorem Ordered.of_append (ordered : old.Ordered) (kind : result.kind = old.kind)
    (allowed : result.allows clause = true)
    (rank : ∀ last ∈ old.clauses.getLast?, last.rank < clause.rank)
    (clauses : result.clauses = old.clauses ++ [clause]) : result.Ordered := by
  obtain ⟨oldAllowed, increasing, head, headMem, headRank⟩ := ordered
  refine ⟨?_, ?_, head, by simp [clauses, headMem], headRank⟩
  · intro other otherMem
    rw [clauses] at otherMem
    rcases List.mem_append.1 otherMem with inOld | isNew
    · rw [allows_eq_of_kind kind]
      exact oldAllowed other inOld
    · rwa [List.mem_singleton.1 isNew]
  · rw [clauses, List.pairwise_append]
    refine ⟨increasing, List.pairwise_singleton _ _, ?_⟩
    intro first inOld second isNew
    rw [List.mem_singleton.1 isNew]
    exact rank_lt_of_last increasing rank inOld

/-- Another last clause of the same place keeps the order. -/
theorem Ordered.of_replace {earlier : List Clause} {last : Clause} (ordered : old.Ordered)
    (kind : result.kind = old.kind) (allowed : result.allows clause = true)
    (rank : clause.rank = last.rank) (before : old.clauses = earlier ++ [last])
    (clauses : result.clauses = earlier ++ [clause]) : result.Ordered := by
  obtain ⟨oldAllowed, increasing, head, headMem, headRank⟩ := ordered
  rw [before] at oldAllowed increasing headMem
  obtain ⟨initIncreasing, -, below⟩ := List.pairwise_append.1 increasing
  refine ⟨?_, ?_, ?_⟩
  · intro other otherMem
    rw [clauses] at otherMem
    rcases List.mem_append.1 otherMem with inOld | isNew
    · rw [allows_eq_of_kind kind]
      exact oldAllowed other (List.mem_append_left _ inOld)
    · rwa [List.mem_singleton.1 isNew]
  · rw [clauses, List.pairwise_append]
    refine ⟨initIncreasing, List.pairwise_singleton _ _, ?_⟩
    intro first inOld second isNew
    rw [List.mem_singleton.1 isNew, rank]
    exact below first inOld last (.head _)
  · rcases List.mem_append.1 headMem with inOld | isLast
    · exact ⟨head, by simp [clauses, inOld], headRank⟩
    · refine ⟨clause, by simp [clauses], ?_⟩
      rw [rank, ← List.mem_singleton.1 isLast, headRank]

end Steps

/-- A call keeps the clauses of a statement in order. -/
theorem Step.ordered {arguments : List Part} {result : Statement} (step : Step arguments result)
    (before : ∀ old, .statement old ∈ arguments → old.Ordered) : result.Ordered := by
  cases step with
  | start defined rank allowed clauses => exact .of_start rank allowed clauses
  | append mem kind allowed rank clauses => exact (before _ mem).of_append kind allowed rank clauses
  | replace mem kind allowed rank same clauses =>
      exact (before _ mem).of_replace kind allowed rank same clauses

/-- The clauses of a built statement are in order. -/
theorem ordered_of_built {statement : Statement} (built : (Part.statement statement).Built) :
    statement.Ordered :=
  built_induction (fun made before => made.step.ordered before) built

end Statement

end CheckedSql
