import CheckedSql.Proofs.Activity.Switched

/-!
# Equality and activity

`==` compares the presence of entries with the entries, so it can tell an expression from
the same expression with other dynamic operands active.  It cannot do so next to an
expression without dynamic operands.  A *plain* expression equals another one exactly if
it equals the other one switched (`Expr.beq_switched`), because a dynamic operand differs
from a static one whether it is active or not.

`GROUP BY` finds its entries with `==`.  As long as they are plain, it finds the same
ones whatever is active (`OrderedSet.contains_switched`).
-/

namespace CheckedSql

/-- An expression without dynamic parts at any depth: switching leaves it as it is. -/
def Expr.IsPlain (expr : Expr) : Prop := ∀ active, expr.switched active true = expr

variable {active : Bool}

/-- A presence that switching leaves as it is does not see the difference. -/
theorem Presence.beq_switched {key : Presence} (plain : ∀ active, key.switched active = key)
    (presence : Presence) : (key == presence.switched active) = (key == presence) := by
  cases key with
  | static => cases presence <;> rfl
  | dynamic isActive =>
      have flipped := Presence.dynamic.inj (plain !isActive)
      cases isActive <;> cases flipped

mutual

/-- A plain expression equals another one exactly if it equals the other one switched. -/
theorem Expr.beq_switched : (key expr : Expr) → key.IsPlain →
    Expr.beq key (expr.switched active true) = Expr.beq key expr
  | .column _, expr, _ | .value _, expr, _ | .parameter _, expr, _ => by cases expr <;> rfl
  | .unary _ key, expr, plain => by
      cases expr with
      | unary _ operand =>
          simp only [Expr.switched, Expr.beq,
            Expr.beq_switched key operand fun active => (Expr.unary.inj (plain active)).2]
      | _ => rfl
  | .binary _ first second _, expr, plain => by
      cases expr with
      | binary _ left right _ =>
          simp only [Expr.switched, Expr.beq,
            Expr.beq_switched first left fun active => (Expr.binary.inj (plain active)).2.1,
            Expr.beq_switched second right fun active => (Expr.binary.inj (plain active)).2.2.1]
      | _ => rfl
  | .concat first second, expr, plain => by
      cases expr with
      | concat left right =>
          simp only [Expr.switched, Expr.beq,
            Expr.beq_switched first left fun active => (Expr.concat.inj (plain active)).1,
            Expr.beq_switched second right fun active => (Expr.concat.inj (plain active)).2]
      | _ => rfl
  | .chain _ keys, expr, plain => by
      cases expr with
      | chain _ operands =>
          simp only [Expr.switched, Expr.beq, Expr.beqEntries_switched keys operands
            fun active => (Expr.chain.inj (plain active)).2]
      | _ => rfl
  | .within _ key keys, expr, plain => by
      cases expr with
      | within _ tested items =>
          simp only [Expr.switched, Expr.beq,
            Expr.beq_switched key tested fun active => (Expr.within.inj (plain active)).2.1,
            Expr.beqList_switched keys items fun active => (Expr.within.inj (plain active)).2.2]
      | _ => rfl
  | .between first second third, expr, plain => by
      cases expr with
      | between tested low high =>
          simp only [Expr.switched, Expr.beq,
            Expr.beq_switched first tested fun active => (Expr.between.inj (plain active)).1,
            Expr.beq_switched second low fun active => (Expr.between.inj (plain active)).2.1,
            Expr.beq_switched third high fun active => (Expr.between.inj (plain active)).2.2]
      | _ => rfl
  | .cases keys key _, expr, plain => by
      cases expr with
      | cases branches otherwise _ =>
          simp only [Expr.switched, Expr.beq,
            Expr.beqBranches_switched keys branches
              fun active => (Expr.cases.inj (plain active)).1,
            Expr.beq_switched key otherwise fun active => (Expr.cases.inj (plain active)).2.1]
      | _ => rfl
  | .aggregate _ key?, expr, plain => by
      cases expr with
      | aggregate _ argument? =>
          simp only [Expr.switched, Expr.beq, Expr.beqOption_switched key? argument?
            fun active => (Expr.aggregate.inj (plain active)).2]
      | _ => rfl
  | .groupKey key, expr, plain => by
      cases expr with
      | groupKey inner =>
          simp only [Expr.switched, Expr.beq,
            Expr.beq_switched key inner fun active => Expr.groupKey.inj (plain active)]
      | _ => rfl
  | .existsIn key, expr, plain => by
      cases expr with
      | existsIn select =>
          simp only [Expr.switched, Expr.beq,
            Select.beq_switched key select fun active => Expr.existsIn.inj (plain active)]
      | _ => rfl
  | .subquery key, expr, plain => by
      cases expr with
      | subquery select =>
          simp only [Expr.switched, Expr.beq,
            Select.beq_switched key select fun active => Expr.subquery.inj (plain active)]
      | _ => rfl
termination_by structural key => key

theorem Expr.beqOption_switched : (key? expr? : Option Expr) →
    (∀ active, Expr.optionSwitched active true key? = key?) →
    Expr.beqOption key? (Expr.optionSwitched active true expr?) = Expr.beqOption key? expr?
  | none, expr?, _ => by cases expr? <;> rfl
  | some _, none, _ => rfl
  | some key, some expr, plain =>
      Expr.beq_switched key expr fun active => Option.some.inj (plain active)
termination_by structural key => key

theorem Expr.beqList_switched : (keys exprs : List Expr) →
    (∀ active, Expr.listSwitched active true keys = keys) →
    Expr.beqList keys (Expr.listSwitched active true exprs) = Expr.beqList keys exprs
  | [], exprs, _ => by cases exprs <;> rfl
  | _ :: _, [], _ => rfl
  | key :: keys, expr :: exprs, plain => by
      simp only [Expr.listSwitched, Expr.beqList,
        Expr.beq_switched key expr fun active => (List.cons.inj (plain active)).1,
        Expr.beqList_switched keys exprs fun active => (List.cons.inj (plain active)).2]
termination_by structural key => key

theorem Expr.beqRows_switched : (keys rows : List (List Expr)) →
    (∀ active, Expr.rowsSwitched active true keys = keys) →
    Expr.beqRows keys (Expr.rowsSwitched active true rows) = Expr.beqRows keys rows
  | [], rows, _ => by cases rows <;> rfl
  | _ :: _, [], _ => rfl
  | key :: keys, row :: rows, plain => by
      simp only [Expr.rowsSwitched, Expr.beqRows,
        Expr.beqList_switched key row fun active => (List.cons.inj (plain active)).1,
        Expr.beqRows_switched keys rows fun active => (List.cons.inj (plain active)).2]
termination_by structural key => key

theorem Expr.beqBranches_switched : (keys branches : List (Expr × Expr)) →
    (∀ active, Expr.branchesSwitched active true keys = keys) →
    Expr.beqBranches keys (Expr.branchesSwitched active true branches)
      = Expr.beqBranches keys branches
  | [], branches, _ => by cases branches <;> rfl
  | (_, _) :: _, [], _ => rfl
  | (first, second) :: keys, (condition, result) :: branches, plain => by
      have heads active := Prod.mk.inj (List.cons.inj (plain active)).1
      simp only [Expr.branchesSwitched, Expr.beqBranches,
        Expr.beq_switched first condition fun active => (heads active).1,
        Expr.beq_switched second result fun active => (heads active).2,
        Expr.beqBranches_switched keys branches fun active => (List.cons.inj (plain active)).2]
termination_by structural key => key

theorem Expr.beqEntry_switched : (key entry : Entry Expr) →
    (∀ active, Expr.entrySwitched active true key = key) →
    Expr.beqEntry key (Expr.entrySwitched active true entry) = Expr.beqEntry key entry
  | ⟨always, key⟩, ⟨presence, expr⟩, plain => by
      simp only [Expr.entrySwitched, Expr.beqEntry,
        Presence.beq_switched fun active => (Entry.mk.inj (plain active)).1,
        Expr.beq_switched key expr fun active => (Entry.mk.inj (plain active)).2]
termination_by structural key => key

theorem Expr.beqEntryOption_switched : (key? condition? : Option (Entry Expr)) →
    (∀ active, Expr.entryOptionSwitched active true key? = key?) →
    Expr.beqEntryOption key? (Expr.entryOptionSwitched active true condition?)
      = Expr.beqEntryOption key? condition?
  | none, condition?, _ => by cases condition? <;> rfl
  | some _, none, _ => rfl
  | some key, some entry, plain =>
      Expr.beqEntry_switched key entry fun active => Option.some.inj (plain active)
termination_by structural key => key

theorem Expr.beqEntries_switched : (keys entries : List (Entry Expr)) →
    (∀ active, Expr.entriesSwitched active true keys = keys) →
    Expr.beqEntries keys (Expr.entriesSwitched active true entries)
      = Expr.beqEntries keys entries
  | [], entries, _ => by cases entries <;> rfl
  | _ :: _, [], _ => rfl
  | key :: keys, entry :: entries, plain => by
      simp only [Expr.entriesSwitched, Expr.beqEntries,
        Expr.beqEntry_switched key entry fun active => (List.cons.inj (plain active)).1,
        Expr.beqEntries_switched keys entries fun active => (List.cons.inj (plain active)).2]
termination_by structural key => key

theorem Select.beq_switched : (key select : Select) →
    (∀ active, key.switched active true = key) →
    Select.beq key (select.switched active true) = Select.beq key select
  | ⟨keys⟩, ⟨clauses⟩, plain =>
      Clause.beqList_switched keys clauses fun active => Select.mk.inj (plain active)
termination_by structural key => key

theorem Select.beqEntry_switched : (key entry : Entry Select) →
    (∀ active, Select.entrySwitched active true key = key) →
    Select.beqEntry key (Select.entrySwitched active true entry) = Select.beqEntry key entry
  | ⟨_, key⟩, ⟨_, select⟩, plain => by
      simp only [Select.entrySwitched, Select.beqEntry,
        Presence.beq_switched fun active => (Entry.mk.inj (plain active)).1,
        Select.beq_switched key select fun active => (Entry.mk.inj (plain active)).2]
termination_by structural key => key

theorem SelectColumn.beqEntries_switched : (keys columns : List (Entry SelectColumn)) →
    (∀ active, SelectColumn.entriesSwitched active true keys = keys) →
    SelectColumn.beqEntries keys (SelectColumn.entriesSwitched active true columns)
      = SelectColumn.beqEntries keys columns
  | [], [], _ | [], ⟨_, ⟨_, _, _⟩⟩ :: _, _ | ⟨_, ⟨_, _, _⟩⟩ :: _, [], _ => rfl
  | ⟨always, ⟨key, _, _⟩⟩ :: keys, ⟨presence, ⟨expr, _, _⟩⟩ :: columns, plain => by
      have heads active := Entry.mk.inj (List.cons.inj (plain active)).1
      simp only [SelectColumn.entriesSwitched, SelectColumn.beqEntries,
        Presence.beq_switched fun active => (heads active).1,
        Expr.beq_switched key expr fun active => (SelectColumn.mk.inj (heads active).2).1,
        SelectColumn.beqEntries_switched keys columns
          fun active => (List.cons.inj (plain active)).2]
termination_by structural key => key

theorem Assignment.beqEntries_switched : (keys assignments : List (Entry Assignment)) →
    (∀ active, Assignment.entriesSwitched active true keys = keys) →
    Assignment.beqEntries keys (Assignment.entriesSwitched active true assignments)
      = Assignment.beqEntries keys assignments
  | [], [], _ | [], ⟨_, ⟨_, _⟩⟩ :: _, _ | ⟨_, ⟨_, _⟩⟩ :: _, [], _ => rfl
  | ⟨always, ⟨_, key?⟩⟩ :: keys, ⟨presence, ⟨_, value?⟩⟩ :: assignments, plain => by
      have heads active := Entry.mk.inj (List.cons.inj (plain active)).1
      simp only [Assignment.entriesSwitched, Assignment.beqEntries,
        Presence.beq_switched fun active => (heads active).1,
        Expr.beqOption_switched key? value? fun active => (Assignment.mk.inj (heads active).2).2,
        Assignment.beqEntries_switched keys assignments
          fun active => (List.cons.inj (plain active)).2]
termination_by structural key => key

theorem SortOrder.beqEntries_switched : (keys orders : List (Entry SortOrder)) →
    (∀ active, SortOrder.entriesSwitched active true keys = keys) →
    SortOrder.beqEntries keys (SortOrder.entriesSwitched active true orders)
      = SortOrder.beqEntries keys orders
  | [], [], _ | [], ⟨_, ⟨_, _, _⟩⟩ :: _, _ | ⟨_, ⟨_, _, _⟩⟩ :: _, [], _ => rfl
  | ⟨always, ⟨key, _, _⟩⟩ :: keys, ⟨presence, ⟨expr, _, _⟩⟩ :: orders, plain => by
      have heads active := Entry.mk.inj (List.cons.inj (plain active)).1
      simp only [SortOrder.entriesSwitched, SortOrder.beqEntries,
        Presence.beq_switched fun active => (heads active).1,
        Expr.beq_switched key expr fun active => (SortOrder.mk.inj (heads active).2).1,
        SortOrder.beqEntries_switched keys orders fun active => (List.cons.inj (plain active)).2]
termination_by structural key => key

theorem InsertValues.beq_switched : (key content : InsertValues) →
    (∀ active, key.switched active true = key) →
    InsertValues.beq key (content.switched active true) = InsertValues.beq key content
  | .defaultValues, content, _ => by cases content <;> rfl
  | .set keys, content, plain => by
      cases content with
      | set assignments =>
          simp only [InsertValues.switched, InsertValues.beq,
            Assignment.beqEntries_switched keys assignments
              fun active => InsertValues.set.inj (plain active)]
      | _ => rfl
  | .rows _ keys, content, plain => by
      cases content with
      | rows _ rows =>
          simp only [InsertValues.switched, InsertValues.beq, Expr.beqRows_switched keys rows
            fun active => (InsertValues.rows.inj (plain active)).2]
      | _ => rfl
termination_by structural key => key

theorem ConflictAction.beq_switched : (key action : ConflictAction) →
    (∀ active, key.switched active true = key) →
    ConflictAction.beq key (action.switched active true) = ConflictAction.beq key action
  | .doNothing, action, _ => by cases action <;> rfl
  | .doUpdate keys key?, action, plain => by
      cases action with
      | doUpdate assignments condition? =>
          simp only [ConflictAction.switched, ConflictAction.beq,
            Assignment.beqEntries_switched keys assignments
              fun active => (ConflictAction.doUpdate.inj (plain active)).1,
            Expr.beqEntryOption_switched key? condition?
              fun active => (ConflictAction.doUpdate.inj (plain active)).2]
      | _ => rfl
termination_by structural key => key

theorem Clause.beq_switched : (key clause : Clause) →
    (∀ active, key.switched active true = key) →
    Clause.beq key (clause.switched active true) = Clause.beq key clause
  | .with keys, clause, plain => by
      cases clause with
      | «with» ctes =>
          simp only [Clause.switched, Clause.beq,
            Cte.beqEntries_switched keys ctes fun active => Clause.with.inj (plain active)]
      | _ => rfl
  | .columns _ keys, clause, plain => by
      cases clause with
      | columns _ columns =>
          simp only [Clause.switched, Clause.beq, SelectColumn.beqEntries_switched keys columns
            fun active => (Clause.columns.inj (plain active)).2]
      | _ => rfl
  | .target _ _, clause, _ => by cases clause <;> rfl
  | .set keys, clause, plain => by
      cases clause with
      | set assignments =>
          simp only [Clause.switched, Clause.beq, Assignment.beqEntries_switched keys assignments
            fun active => Clause.set.inj (plain active)]
      | _ => rfl
  | .values key, clause, plain => by
      cases clause with
      | values content =>
          simp only [Clause.switched, Clause.beq, InsertValues.beq_switched key content
            fun active => Clause.values.inj (plain active)]
      | _ => rfl
  | .source _ key, clause, plain => by
      cases clause with
      | source _ table =>
          simp only [Clause.switched, Clause.beq,
            TableRef.beq_switched key table fun active => (Clause.source.inj (plain active)).2]
      | _ => rfl
  | .where key?, clause, plain => by
      cases clause with
      | «where» condition? =>
          simp only [Clause.switched, Clause.beq, Expr.beqEntryOption_switched key? condition?
            fun active => Clause.where.inj (plain active)]
      | _ => rfl
  | .groupBy keys, clause, plain => by
      cases clause with
      | groupBy entries =>
          simp only [Clause.switched, Clause.beq, Expr.beqEntries_switched keys entries
            fun active => Clause.groupBy.inj (plain active)]
      | _ => rfl
  | .having key, clause, plain => by
      cases clause with
      | having condition =>
          simp only [Clause.switched, Clause.beq, Expr.beqEntry_switched key condition
            fun active => Clause.having.inj (plain active)]
      | _ => rfl
  | .union _ key, clause, plain => by
      cases clause with
      | union _ arm =>
          have armPlain active := (Clause.union.inj (plain active)).2
          simp only [Clause.switched, Clause.beq, Select.beqEntry_switched key arm armPlain]
      | _ => rfl
  | .orderBy keys, clause, plain => by
      cases clause with
      | orderBy orders =>
          simp only [Clause.switched, Clause.beq, SortOrder.beqEntries_switched keys orders
            fun active => Clause.orderBy.inj (plain active)]
      | _ => rfl
  | .limit _ key, clause, plain => by
      cases clause with
      | limit _ count =>
          simp only [Clause.switched, Clause.beq,
            Expr.beq_switched key count fun active => (Clause.limit.inj (plain active)).2]
      | _ => rfl
  | .onConflict _ key, clause, plain => by
      cases clause with
      | onConflict _ action =>
          simp only [Clause.switched, Clause.beq, ConflictAction.beq_switched key action
            fun active => (Clause.onConflict.inj (plain active)).2]
      | _ => rfl
  | .returning keys, clause, plain => by
      cases clause with
      | returning columns =>
          simp only [Clause.switched, Clause.beq, SelectColumn.beqEntries_switched keys columns
            fun active => Clause.returning.inj (plain active)]
      | _ => rfl
termination_by structural key => key

theorem Clause.beqList_switched : (keys clauses : List Clause) →
    (∀ active, Clause.listSwitched active true keys = keys) →
    Clause.beqList keys (Clause.listSwitched active true clauses) = Clause.beqList keys clauses
  | [], clauses, _ => by cases clauses <;> rfl
  | _ :: _, [], _ => rfl
  | key :: keys, clause :: clauses, plain => by
      simp only [Clause.listSwitched, Clause.beqList,
        Clause.beq_switched key clause fun active => (List.cons.inj (plain active)).1,
        Clause.beqList_switched keys clauses fun active => (List.cons.inj (plain active)).2]
termination_by structural key => key

theorem TableRef.beq_switched : (key table : TableRef) →
    (∀ active, key.switched active true = key) →
    TableRef.beq key (table.switched active true) = TableRef.beq key table
  | .table _, table, _ | .cte _, table, _ => by cases table <;> rfl
  | .subSelect key, table, plain => by
      cases table with
      | subSelect derived =>
          exact SubSelect.beq_switched key derived fun active =>
            TableRef.subSelect.inj (plain active)
      | _ => rfl
  | .join first _ second key?, table, plain => by
      cases table with
      | join left _ right condition? =>
          have parts active := TableRef.join.inj (plain active)
          simp only [TableRef.switched, TableRef.beq,
            TableRef.beq_switched first left fun active => (parts active).1,
            TableRef.beqEntry_switched second right fun active => (parts active).2.2.1,
            Expr.beqOption_switched key? condition? fun active => (parts active).2.2.2]
      | _ => rfl
termination_by structural key => key

theorem TableRef.beqEntry_switched : (key entry : Entry TableRef) →
    (∀ active, TableRef.entrySwitched active true key = key) →
    TableRef.beqEntry key (TableRef.entrySwitched active true entry)
      = TableRef.beqEntry key entry
  | ⟨_, key⟩, ⟨_, table⟩, plain => by
      simp only [TableRef.entrySwitched, TableRef.beqEntry,
        Presence.beq_switched fun active => (Entry.mk.inj (plain active)).1,
        TableRef.beq_switched key table fun active => (Entry.mk.inj (plain active)).2]
termination_by structural key => key

theorem SubSelect.beq_switched : (key derived : SubSelect) →
    (∀ active, key.switched active true = key) →
    SubSelect.beq key (derived.switched active true) = SubSelect.beq key derived
  | ⟨key, _, _⟩, ⟨select, _, _⟩, plain => by
      simp only [SubSelect.switched, SubSelect.beq,
        Select.beq_switched key select fun active => (SubSelect.mk.inj (plain active)).1]
termination_by structural key => key

theorem Cte.beq_switched : (key cte : Cte) → (∀ active, key.switched active true = key) →
    Cte.beq key (cte.switched active true) = Cte.beq key cte
  | ⟨_, key, keys, _⟩, ⟨_, base, arms, _⟩, plain => by
      simp only [Cte.switched, Cte.beq,
        Select.beq_switched key base fun active => (Cte.mk.inj (plain active)).2.1,
        CteArm.beqList_switched keys arms fun active => (Cte.mk.inj (plain active)).2.2.1]
termination_by structural key => key

theorem Cte.beqEntries_switched : (keys ctes : List (Entry Cte)) →
    (∀ active, Cte.entriesSwitched active true keys = keys) →
    Cte.beqEntries keys (Cte.entriesSwitched active true ctes) = Cte.beqEntries keys ctes
  | [], ctes, _ => by cases ctes <;> rfl
  | ⟨_, _⟩ :: _, [], _ => rfl
  | ⟨_, key⟩ :: keys, ⟨_, cte⟩ :: ctes, plain => by
      have heads active := Entry.mk.inj (List.cons.inj (plain active)).1
      simp only [Cte.entriesSwitched, Cte.beqEntries,
        Presence.beq_switched fun active => (heads active).1,
        Cte.beq_switched key cte fun active => (heads active).2,
        Cte.beqEntries_switched keys ctes fun active => (List.cons.inj (plain active)).2]
termination_by structural key => key

theorem CteArm.beqList_switched : (keys arms : List CteArm) →
    (∀ active, CteArm.listSwitched active true keys = keys) →
    CteArm.beqList keys (CteArm.listSwitched active true arms) = CteArm.beqList keys arms
  | [], [], _ | [], ⟨_, _, _⟩ :: _, _ | ⟨_, _, _⟩ :: _, [], _ => rfl
  | ⟨_, key, _⟩ :: keys, ⟨_, select, _⟩ :: arms, plain => by
      have heads active := CteArm.mk.inj (List.cons.inj (plain active)).1
      simp only [CteArm.listSwitched, CteArm.beqList,
        Select.beqEntry_switched key select fun active => (heads active).2.1,
        CteArm.beqList_switched keys arms fun active => (List.cons.inj (plain active)).2]
termination_by structural key => key

end

/-- A set of plain expressions has an expression exactly if it has it switched. -/
theorem OrderedSet.contains_switched {known : OrderedSet Expr}
    (plain : ∀ key ∈ known.toList, key.IsPlain) (active : Bool) (expr : Expr) :
    known.contains (expr.switched active true) = known.contains expr := by
  rw [Bool.eq_iff_iff, contains, contains, List.any_eq_true, List.any_eq_true]
  refine exists_congr fun key => and_congr_right fun mem => ?_
  rw [← Bool.eq_iff_iff]
  exact Expr.beq_switched key expr (plain key mem)

end CheckedSql
