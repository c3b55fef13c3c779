import CheckedSql.Proofs.Built.Children
import CheckedSql.Proofs.Built.Order
import CheckedSql.Proofs.Writing.PartLayout
import CheckedSql.Proofs.Writing.PhraseShape

/-!
# Phrases of parts

The tokens of every built part are a phrase (`Part.Built.phrase`).  An expression and a
common table expression hold no word of a union or a join outside of parentheses, a table
reference holds no word of a union, and a statement may hold all of them.

There is one lemma for each type of the syntax.  A clause other than the first ones starts
with a space, so it may stand behind other clauses (`Clause.tail`).
-/

namespace CheckedSql

/-- What a part may hold outside of parentheses. -/
def Part.level : Part → Level
  | expr _ | cte _ => .expression
  | tableRef _ => .table
  | statement _ => .query

/-- The tokens of a part are a phrase. -/
def Part.IsPhrase (dialect : Dialect) (part : Part) : Prop :=
  Phrase dialect part.level (part.tokens dialect)

section Parts

variable {dialect : Dialect}

theorem Part.IsPhrase.select {select : Select} (phrase : (Part.select select).IsPhrase dialect) :
    Phrase dialect .query (select.tokens dialect) := by
  cases select
  exact phrase

theorem Expr.phrase_branches {branches : List (Expr × Expr)}
    (phrases : ∀ branch ∈ branches, Phrase dialect .expression (branch.1.tokens dialect)
      ∧ Phrase dialect .expression (branch.2.tokens dialect)) :
    Tail dialect .expression (Expr.branchTokens dialect branches) := by
  induction branches with
  | nil => exact .nil dialect _
  | cons branch branches ih =>
      obtain ⟨⟨condition, result⟩, others⟩ := List.forall_mem_cons.1 phrases
      exact .joint rfl (.around rfl condition (result.behind (ih others)))

/-- What is no compound starts with a minus sign only if it is a literal that does. -/
theorem Expr.startsUnsigned_of_not_isCompound (expr : Expr) (notCompound : expr.isCompound = false)
    (notMinus : dialect.startsWithMinus (expr.tokens dialect) = false) :
    dialect.startsUnsigned (expr.tokens dialect) = true := by
  cases expr with
  | value value => simp [Expr.tokens, Dialect.startsUnsigned, notMinus] at notMinus ⊢
  | groupKey inner => exact startsUnsigned_of_not_isCompound inner notCompound notMinus
  | aggregate call argument? =>
      obtain ⟨function, distinct, overAll⟩ := call
      have keyword : (function.keyword ++ if distinct then "(DISTINCT " else "(").toList.head?.any
          (· != '-') = true := by
        cases function <;> cases distinct <;> decide
      cases argument? <;> exact keyword
  | column | parameter | cases | existsIn | subquery => rfl
  | unary | binary | concat | chain | within | between => cases notCompound

theorem Expr.startsUnsigned_operand (expr : Expr) :
    dialect.startsWithMinus (Token.operand expr.isCompound (expr.tokens dialect)) = false →
      dialect.startsUnsigned (Token.operand expr.isCompound (expr.tokens dialect)) = true := by
  cases compound : expr.isCompound with
  | false => exact expr.startsUnsigned_of_not_isCompound compound
  | true => exact fun _ => rfl

/-- The tokens of an expression are a phrase if those of its parts are. -/
theorem Expr.phrase {expr : Expr} (parts : ∀ part ∈ expr.parts, part.IsPhrase dialect) :
    Phrase dialect .expression (expr.tokens dialect) := by
  have inner {child : Expr} (mem : child ∈ expr.children) :
      Phrase dialect .expression (child.tokens dialect) :=
    parts _ (List.mem_append_left _ (List.mem_map_of_mem mem))
  have operand {child : Expr} (mem : child ∈ expr.children) :=
    (inner mem).operand child.isCompound
  have nested {select : Select} (found : expr.select? = some select) :
      Phrase dialect .query (select.tokens dialect) :=
    (parts _ (Expr.mem_children_of_select? found)).select
  cases expr with
  | column column => exact .column column
  | value value => exact .single rfl
  | parameter parameter => exact .single rfl
  | unary operator child => exact .unary operator (operand (.head _)) child.startsUnsigned_operand
  | binary operator left right type =>
      exact .binary operator (operand (.head _)) (operand (.tail _ (.head _)))
  | concat left right => exact .concat (operand (.head _)) (operand (.tail _ (.head _)))
  | chain connective operands =>
      refine .chain connective fun piece mem => ?_
      rw [Expr.activeTokens_eq] at mem
      obtain ⟨child, childMem, rfl⟩ := List.mem_map.1 mem
      exact inner ((activeValues_sublist operands).subset childMem)
  | within negated tested items =>
      refine .membership negated (operand (.head _)) fun item mem => ?_
      rw [Expr.listTokens_eq] at mem
      obtain ⟨child, childMem, rfl⟩ := List.mem_map.1 mem
      exact inner (.tail _ childMem)
  | between tested low high =>
      exact .between (operand (.head _)) (operand (.tail _ (.head _)))
        (operand (.tail _ (.tail _ (.head _))))
  | cases branches otherwise type =>
      have branchTail : Tail dialect .expression (Expr.branchTokens dialect branches) :=
        Expr.phrase_branches fun branch mem => by
          have both : ∀ child ∈ [branch.1, branch.2],
              child ∈ (Expr.cases branches otherwise type).children := fun child childMem =>
            List.mem_append_left _ (List.mem_flatMap.2 ⟨branch, mem, childMem⟩)
          exact ⟨inner (both _ (.head _)), inner (both _ (.tail _ (.head _)))⟩
      have last : Phrase dialect .expression (otherwise.tokens dialect) :=
        inner (List.mem_append_right _ (.head _))
      have closed : Phrase dialect .expression (otherwise.tokens dialect ++ [Token.text " END"]) :=
        last.followed rfl rfl
      have otherwiseTail : Tail dialect .expression
          (Token.text " ELSE " :: (otherwise.tokens dialect ++ [Token.text " END"])) :=
        .joint rfl closed
      have start : Phrase dialect .expression [.text "CASE"] := .word rfl
      exact start.behind (branchTail.append otherwiseTail)
  | aggregate call argument? =>
      cases argument? with
      | none => exact .aggregate call (.word rfl)
      | some argument => exact .aggregate call (inner (.head _))
  | groupKey child => exact @inner child (.head _)
  | existsIn select => exact .leading rfl rfl ((nested rfl).parenthesized _)
  | subquery select => exact (nested rfl).parenthesized _

theorem SelectColumn.phrase {column : SelectColumn}
    (phrase : Phrase dialect .expression (column.expr.tokens dialect)) :
    Phrase dialect .expression (column.tokens dialect) := by
  obtain ⟨expr, name, aliased⟩ := column
  cases aliased with
  | false => exact phrase
  | true => exact (phrase.operand expr.isCompound).named name

theorem SelectColumn.phrase_list {columns : List (Entry SelectColumn)}
    (phrases : ∀ column ∈ columns, Phrase dialect .expression (column.value.expr.tokens dialect)) :
    Phrase dialect .expression
      (Token.withCommas (SelectColumn.listTokens dialect columns)) := by
  refine .withCommas fun piece mem => ?_
  rw [SelectColumn.listTokens_eq] at mem
  obtain ⟨column, columnMem, rfl⟩ := List.mem_map.1 mem
  cases column.isActive with
  | false => exact (Phrase.word rfl).named column.value.name
  | true => exact SelectColumn.phrase (phrases column columnMem)

theorem SortOrder.phrase {order : SortOrder}
    (phrase : Phrase dialect .expression (order.expr.tokens dialect)) :
    Phrase dialect .expression (order.tokens dialect) := by
  obtain ⟨expr, direction, nulls?⟩ := order
  exact .sorted direction nulls? (phrase.operand expr.isCompound)

/-- The active sort orders are phrases. -/
theorem SortOrder.phrase_active {orders : List (Entry SortOrder)}
    (phrases : ∀ order ∈ orders, Phrase dialect .expression (order.value.expr.tokens dialect)) :
    ∀ piece ∈ SortOrder.activeTokens dialect orders, Phrase dialect .expression piece := by
  intro piece mem
  rw [SortOrder.activeTokens_eq] at mem
  obtain ⟨order, orderMem, rfl⟩ := List.mem_map.1 mem
  obtain ⟨entry, entryMem, rfl⟩ := List.mem_map.1 ((activeValues_sublist orders).subset orderMem)
  exact SortOrder.phrase (phrases entry entryMem)

/-- The written values of assignments are phrases. -/
theorem Assignment.phrase_values {assignments : List (Entry Assignment)}
    (parts : ∀ part ∈ Assignment.entriesParts assignments, part.IsPhrase dialect) :
    ∀ pair ∈ Assignment.activeTokens dialect assignments,
      Phrase dialect .expression pair.2 := by
  intro pair mem
  rw [Assignment.activeTokens_eq] at mem
  obtain ⟨assignment, assignmentMem, rfl⟩ := List.mem_map.1 mem
  obtain ⟨entry, entryMem, rfl⟩ :=
    List.mem_map.1 ((activeValues_sublist assignments).subset assignmentMem)
  obtain ⟨presence, column, value?⟩ := entry
  cases value? with
  | none => exact .word rfl
  | some value => exact parts (.expr value) (List.mem_flatMap.2 ⟨_, entryMem, .head _⟩)

theorem InsertValues.tail {content : InsertValues}
    (parts : ∀ part ∈ content.parts, part.IsPhrase dialect) :
    Tail dialect .expression (content.tokens dialect) := by
  cases content with
  | defaultValues => exact .text rfl rfl
  | set assignments => exact .inserted (Assignment.phrase_values parts)
  | rows columns given =>
      refine .joint rfl (.around rfl (.columnList _ _) (.withCommas fun piece mem => ?_))
      rw [Expr.rowTokens_eq] at mem
      obtain ⟨row, rowMem, rfl⟩ := List.mem_map.1 mem
      have items : Phrase dialect .expression
          (Token.withCommas (row.map (Expr.tokens dialect))) :=
        .withCommas fun item itemMem => by
          obtain ⟨expr, exprMem, rfl⟩ := List.mem_map.1 itemMem
          exact parts (.expr expr) (List.mem_flatMap.2 ⟨row, rowMem, List.mem_map_of_mem exprMem⟩)
      exact items.toQuery.parenthesized _

theorem Expr.tail_condition {level : Level} {keyword : String} {condition? : Option (Entry Expr)}
    (joint : isJoint level.stops keyword = true)
    (parts : ∀ condition ∈ condition?, (Part.expr condition.value).IsPhrase dialect) :
    Tail dialect level (conditionTokens keyword (Expr.optionEntryTokens? dialect condition?)) := by
  refine .condition joint fun condition mem => ?_
  cases condition? with
  | none => cases mem
  | some entry =>
      obtain ⟨presence, value⟩ := entry
      rw [Expr.optionEntryTokens?, Expr.entryTokens?, Option.mem_def] at mem
      split at mem
      · cases mem
        exact parts _ rfl
      · cases mem

theorem ConflictAction.tail {action : ConflictAction}
    (parts : ∀ part ∈ action.parts, part.IsPhrase dialect) :
    Tail dialect .expression (action.tokens dialect) := by
  cases action with
  | doNothing => exact .text rfl rfl
  | doUpdate assignments condition? =>
      have assigned : Phrase dialect .expression
          (assignmentTokens (Assignment.activeTokens dialect assignments)) :=
        .assignments (Assignment.phrase_values fun part mem =>
          parts part (List.mem_append_left _ mem))
      refine .joint rfl (assigned.behind (Expr.tail_condition rfl fun condition mem => ?_))
      refine parts _ (List.mem_append_right _ (List.mem_map_of_mem ?_))
      exact Option.mem_toList.2 mem

theorem Cte.tail_arms {arms : List CteArm}
    (phrases : ∀ arm ∈ arms, Phrase dialect .query (arm.select.value.tokens dialect)) :
    Tail dialect .query (CteArm.activeTokens dialect arms) := by
  induction arms with
  | nil => exact .nil dialect _
  | cons arm arms ih =>
      obtain ⟨first, others⟩ := List.forall_mem_cons.1 phrases
      obtain ⟨distinct, ⟨presence, select⟩, readsSelf⟩ := arm
      rw [CteArm.activeTokens]
      split
      · exact (Tail.union distinct first).append (ih others)
      · exact ih others

theorem Cte.phrase {cte : Cte}
    (phrases : ∀ select ∈ cte.selects, Phrase dialect .query (select.tokens dialect)) :
    Phrase dialect .expression (cte.tokens dialect) := by
  obtain ⟨name, base, arms, fields⟩ := cte
  have united : Tail dialect .query (CteArm.activeTokens dialect arms) :=
    Cte.tail_arms fun arm mem => phrases _ (.tail _ (List.mem_map.2 ⟨arm, mem, rfl⟩))
  have body := (phrases base (.head _)).behind united
  exact .around rfl (.name name) (body.parenthesized _)

/-- What is no join holds no word of a join outside of parentheses. -/
theorem TableRef.phrase_of_not_join {table : TableRef}
    (notJoin : ∀ left kind right condition?, table ≠ .join left kind right condition?)
    (parts : ∀ part ∈ table.parts, part.IsPhrase dialect) :
    Phrase dialect .expression (table.tokens dialect) := by
  cases table with
  | table table => exact .aliasedName table.name table.alias?
  | cte reference => exact .aliasedName reference.name reference.alias?
  | subSelect derived =>
      have select := (parts (.select derived.select) (.head _)).select
      obtain ⟨_, name, fields⟩ := derived
      exact (select.parenthesized _).named name
  | join left kind right condition? => exact absurd rfl (notJoin left kind right condition?)

theorem TableRef.phrase {table : TableRef} (parts : ∀ part ∈ table.parts, part.IsPhrase dialect) :
    Phrase dialect .table (table.tokens dialect) := by
  cases table with
  | join left kind right condition? =>
      have leftPhrase : Phrase dialect .table (left.tokens dialect) := parts _ (.head _)
      have rightPhrase : Phrase dialect .table (right.value.tokens dialect) :=
        parts _ (.tail _ (.head _))
      refine leftPhrase.behind (.ifActive _ (.join kind rightPhrase fun condition mem => ?_))
      cases condition? with
      | none => cases mem
      | some expr =>
          cases mem
          exact parts (.expr expr) (.tail _ (.tail _ (.head _)))
  | table | cte | subSelect =>
      refine (TableRef.phrase_of_not_join ?_ parts).weaken (by decide)
      exact nofun

/-! ### Clauses and statements -/

/-- What a clause may hold outside of parentheses. -/
def Clause.level : Clause → Level
  | .union _ _ | .orderBy _ | .limit _ _ => .query
  | _ => .table

/-- A clause that starts a statement. -/
theorem Clause.phrase_head {clause : Clause} (rank : clause.rank = 1)
    (parts : ∀ part ∈ clause.parts, part.IsPhrase dialect) :
    Phrase dialect .expression (clause.tokens dialect) := by
  cases clause with
  | columns distinct columns =>
      refine .leading ?_ ?_ (SelectColumn.phrase_list fun column mem => ?_)
      · cases distinct <;> rfl
      · cases distinct <;> rfl
      · exact parts _ (List.mem_map_of_mem mem)
  | target kind table =>
      refine .leading ?_ ?_ (.aliasedName table.name table.alias?)
      · cases kind <;> rfl
      · cases kind <;> rfl
  | limit kind count => cases kind <;> cases rank
  | _ => cases rank

/-- A clause that stands behind others. -/
theorem Clause.tail {clause : Clause} (rank : 2 ≤ clause.rank)
    (parts : ∀ part ∈ clause.parts, part.IsPhrase dialect) :
    Tail dialect clause.level (clause.tokens dialect) := by
  cases clause with
  | «with» | columns | target => simp [Clause.rank] at rank
  | set assignments =>
      have assigned : Phrase dialect .expression
          (assignmentTokens (Assignment.activeTokens dialect assignments)) :=
        .assignments (Assignment.phrase_values parts)
      exact (Tail.joint rfl assigned).weaken (Level.stops_subset _)
  | values content => exact (InsertValues.tail parts).weaken (Level.stops_subset _)
  | source kind table =>
      refine .joint ?_ (parts (.tableRef table) (.head _))
      cases kind <;> rfl
  | «where» condition? =>
      refine Expr.tail_condition rfl fun condition mem => parts _ ?_
      exact List.mem_map_of_mem (Option.mem_toList.2 mem)
  | groupBy entries =>
      refine .listClause rfl fun piece mem => ?_
      rw [Expr.activeTokens_eq, List.map_map] at mem
      obtain ⟨expr, exprMem, rfl⟩ := List.mem_map.1 mem
      obtain ⟨entry, entryMem, rfl⟩ :=
        List.mem_map.1 ((activeValues_sublist entries).subset exprMem)
      exact parts _ (List.mem_map_of_mem entryMem)
  | having condition =>
      have isThere : ∀ other ∈ some condition, (Part.expr other.value).IsPhrase dialect := by
        rintro _ ⟨⟩
        exact parts _ (.head _)
      have tail : Tail dialect .table (conditionTokens " HAVING "
          (Expr.optionEntryTokens? dialect (some condition))) := Expr.tail_condition rfl isThere
      exact tail
  | union distinct arm =>
      exact .ifActive _ (.union distinct (parts (.select arm.value) (.head _)).select)
  | orderBy orders =>
      exact .listClause rfl (SortOrder.phrase_active fun order mem =>
        parts _ (List.mem_map_of_mem mem))
  | limit kind count =>
      refine .joint ?_ (Phrase.toQuery (parts (.expr count) (.head _)))
      cases kind <;> rfl
  | onConflict columns action =>
      have keyword : Tail dialect .table [.text " ON CONFLICT"] := .text rfl rfl
      have keys : Tail dialect .table (if columns.isEmpty then []
          else .text " " :: columnListTokens (columns.map Column.name)) := by
        split
        · exact .nil dialect _
        · exact .joint rfl (.columnList _ _)
      exact keyword.append (keys.append ((ConflictAction.tail parts).weaken (by decide)))
  | returning columns =>
      have selected : Phrase dialect .expression
          (Token.withCommas (SelectColumn.listTokens dialect columns)) :=
        SelectColumn.phrase_list fun column mem => parts _ (List.mem_map_of_mem mem)
      exact (Tail.joint rfl selected).weaken (Level.stops_subset _)

/-- Clauses that stand behind others, one after the other. -/
theorem Clause.tail_list {level : Level} {clauses : List Clause}
    (ranks : ∀ clause ∈ clauses, 2 ≤ clause.rank)
    (levels : ∀ clause ∈ clauses, level.stops ⊆ clause.level.stops)
    (parts : ∀ part ∈ clauses.flatMap Clause.parts, part.IsPhrase dialect) :
    Tail dialect level (Clause.listTokens dialect clauses) := by
  induction clauses with
  | nil => exact .nil dialect level
  | cons clause clauses ih =>
      obtain ⟨firstParts, otherParts⟩ := List.forall_mem_append.1 parts
      obtain ⟨rank, otherRanks⟩ := List.forall_mem_cons.1 ranks
      obtain ⟨first, others⟩ := List.forall_mem_cons.1 levels
      exact ((Clause.tail rank firstParts).weaken first).append (ih otherRanks others otherParts)

/-- Anything may stand behind definitions. -/
theorem Phrase.with (recursive : Bool) {level : Level} {definitions : List (List Token)}
    {tokens : List Token}
    (phrases : ∀ definition ∈ definitions, Phrase dialect .expression definition)
    (phrase : Phrase dialect level tokens) :
    Phrase dialect level (withTokens recursive definitions ++ tokens) := by
  unfold withTokens
  split
  · exact phrase
  · have list : Phrase dialect level (Token.withCommas definitions) :=
      (withCommas phrases).weaken level.stops_subset
    have space : isJoint level.stops " " = true := by cases level <;> rfl
    rw [List.cons_append, List.append_assoc]
    refine .leading ?_ ?_ (list.around space phrase)
    · cases level <;> cases recursive <;> decide
    · cases recursive <;> rfl

/-- The clauses of a statement, or those in front of some place. -/
theorem Clause.phrase_list {level : Level} {definitions others : List Clause} {head : Clause}
    (defined : definitions = [] ∨ ∃ ctes, definitions = [.with ctes]) (rank : head.rank = 1)
    (ranks : ∀ clause ∈ others, 2 ≤ clause.rank)
    (levels : ∀ clause ∈ others, level.stops ⊆ clause.level.stops)
    (parts : ∀ part ∈ (definitions ++ head :: others).flatMap Clause.parts,
      part.IsPhrase dialect) :
    Phrase dialect level (Clause.listTokens dialect (definitions ++ head :: others)) := by
  rw [List.flatMap_append, List.forall_mem_append, List.flatMap_cons,
    List.forall_mem_append] at parts
  obtain ⟨withParts, headParts, otherParts⟩ := parts
  have rest : Phrase dialect level (head.tokens dialect ++ Clause.listTokens dialect others) :=
    ((Clause.phrase_head rank headParts).weaken level.stops_subset).behind
      (Clause.tail_list ranks levels otherParts)
  rcases defined with rfl | ⟨ctes, rfl⟩
  · exact rest
  · refine .with _ (fun definition mem => ?_) rest
    rw [Cte.activeTokens_eq] at mem
    obtain ⟨cte, cteMem, rfl⟩ := List.mem_map.1 mem
    obtain ⟨entry, entryMem, rfl⟩ := List.mem_map.1 ((activeValues_sublist ctes).subset cteMem)
    have partMem : Part.cte entry.value ∈ (Clause.with ctes).parts := List.mem_map_of_mem entryMem
    exact withParts _ (List.mem_flatMap.2 ⟨_, .head _, partMem⟩)

/-- The tokens of a built part are a phrase. -/
theorem Part.Built.phrase {part : Part} (built : part.Built) : part.IsPhrase dialect := by
  induction part using Part.induction with
  | step part ih =>
      have parts : ∀ child ∈ part.children, child.IsPhrase dialect := fun child mem =>
        ih child mem (built.of_mem_children mem)
      cases part with
      | expr expr => exact Expr.phrase parts
      | tableRef table => exact TableRef.phrase parts
      | cte definition =>
          exact Cte.phrase fun select mem => (parts _ (List.mem_map_of_mem mem)).select
      | statement statement =>
          obtain ⟨definitions, head, others, clauses, defined, rank, ranks⟩ :=
            (Statement.ordered_of_built built).split
          rw [Part.children, clauses] at parts
          rw [Part.IsPhrase, Part.tokens, Statement.tokens, clauses]
          exact Clause.phrase_list defined rank ranks (fun _ _ => List.nil_subset _) parts

end Parts

end CheckedSql
