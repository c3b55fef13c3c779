import CheckedSql.Building.Clause
import CheckedSql.Proofs.Writing.Layout
import CheckedSql.Proofs.Writing.Written

/-!
# Layouts of parts

Except for a value and a parameter, the tokens of a part are those of its written parts,
in their order, with texts, names and truth values around them (`Part.layout`).  There is
one lemma for each type of the syntax.

The functions that write lists take the active entries and write one after the other.
They are a mutual family with the functions that write a single tree, so each of them
is first read as a map over a list.
-/

namespace CheckedSql

/-! ## Tokens of lists -/

theorem mem_activeValues {α : Type} {entry : Entry α} {entries : List (Entry α)}
    (mem : entry ∈ entries) (active : entry.isActive = true) :
    entry.value ∈ activeValues entries :=
  List.mem_map_of_mem (List.mem_filter.2 ⟨mem, active⟩)

theorem flatMap_activeValues {α β : Type} (entries : List (Entry α)) (f : α → List β) :
    (activeValues entries).flatMap f
      = entries.flatMap fun entry => if entry.isActive then f entry.value else [] := by
  induction entries with
  | nil => rfl
  | cons entry entries ih =>
      rw [activeValues_cons, List.flatMap_cons, ← ih]
      cases entry.isActive <;> rfl

theorem flatMap_activeValues_singleton {α β : Type} (entry : Entry α) (f : α → List β) :
    (activeValues [entry]).flatMap f = if entry.isActive then f entry.value else [] := by
  rw [flatMap_activeValues, List.flatMap_singleton]

section Lists

variable (dialect : Dialect)

/-- What goes through entries and takes the active ones maps their values. -/
theorem map_activeValues {α β : Type} {spell : List (Entry α) → List β} {f : α → β}
    (nil : spell [] = [])
    (cons : ∀ presence value entries, spell (⟨presence, value⟩ :: entries)
      = if presence.isActive then f value :: spell entries else spell entries)
    (entries : List (Entry α)) : spell entries = (activeValues entries).map f := by
  induction entries with
  | nil => exact nil
  | cons entry entries ih =>
      obtain ⟨presence, value⟩ := entry
      rw [cons, ih, activeValues_cons]
      cases active : presence.isActive <;> simp [Entry.isActive, active]

theorem Expr.listTokens_eq (exprs : List Expr) :
    Expr.listTokens dialect exprs = exprs.map (Expr.tokens dialect) := by
  induction exprs with
  | nil => rfl
  | cons expr exprs ih => rw [Expr.listTokens, ih, List.map_cons]

theorem Expr.rowTokens_eq (rows : List (List Expr)) :
    Expr.rowTokens dialect rows = rows.map fun row =>
      Token.parenthesized (Token.withCommas (row.map (Expr.tokens dialect))) := by
  induction rows with
  | nil => rfl
  | cons row rows ih => rw [Expr.rowTokens, ih, Expr.listTokens_eq, List.map_cons]

theorem Expr.activeTokens_eq (operands : List (Entry Expr)) :
    Expr.activeTokens dialect operands
      = (activeValues operands).map fun operand => (operand.isCompound, operand.tokens dialect) :=
  map_activeValues rfl (fun _ _ _ => rfl) operands

theorem Assignment.activeTokens_eq (assignments : List (Entry Assignment)) :
    Assignment.activeTokens dialect assignments
      = (activeValues assignments).map fun assignment =>
        (assignment.column.name, assignment.valueTokens dialect) :=
  map_activeValues rfl (fun _ _ _ => rfl) assignments

theorem SortOrder.activeTokens_eq (orders : List (Entry SortOrder)) :
    SortOrder.activeTokens dialect orders
      = (activeValues orders).map (SortOrder.tokens dialect) :=
  map_activeValues rfl (fun _ _ _ => rfl) orders

theorem Cte.activeTokens_eq (ctes : List (Entry Cte)) :
    Cte.activeTokens dialect ctes = (activeValues ctes).map (Cte.tokens dialect) :=
  map_activeValues rfl (fun _ _ _ => rfl) ctes

theorem SelectColumn.listTokens_eq (columns : List (Entry SelectColumn)) :
    SelectColumn.listTokens dialect columns = columns.map fun column =>
      if column.isActive then column.value.tokens dialect
      else namedTokens [.text "NULL"] column.value.name := by
  induction columns with
  | nil => rfl
  | cons column columns ih =>
      rw [SelectColumn.listTokens, ih, List.map_cons]
      rfl

end Lists

/-! ## Layouts of parts -/

/-- The tokens of a part. -/
def Part.tokens (dialect : Dialect) : Part → List Token
  | expr e => e.tokens dialect
  | statement s => s.tokens dialect
  | tableRef table => table.tokens dialect
  | cte definition => definition.tokens dialect

section Layouts

variable (dialect : Dialect)

theorem Expr.layout_single (expr : Expr) :
    Layout (Part.tokens dialect) false [.expr expr] (expr.tokens dialect) :=
  .single (Part.expr expr)

theorem Expr.layout_operand (expr : Expr) :
    Layout (Part.tokens dialect) false [.expr expr]
      (Token.operand expr.isCompound (expr.tokens dialect)) :=
  (expr.layout_single dialect).operand expr.isCompound

theorem Select.layout_single (select : Select) :
    Layout (Part.tokens dialect) false [.select select] (select.tokens dialect) := by
  cases select with
  | mk clauses => exact .single (Part.select ⟨clauses⟩)

theorem Expr.layout_branches (branches : List (Expr × Expr)) :
    Layout (Part.tokens dialect) true
      (branches.flatMap fun (condition, result) => [.expr condition, .expr result])
      (Expr.branchTokens dialect branches) := by
  induction branches with
  | nil => exact .nil true
  | cons branch branches ih =>
      obtain ⟨condition, result⟩ := branch
      have starts : isSeparator " WHEN " = true := rfl
      have between : isSeparator " THEN " = true := rfl
      have rest := (result.layout_single dialect).append ih
      have layout := (condition.layout_single dialect).around between rest
      exact Layout.separator starts layout

/-- Except for a value and a parameter, the tokens of an expression are those of its written parts
with texts, names and truth values around them. -/
theorem Expr.layout {expr : Expr} (notLiteral : expr.isLiteral = false) :
    Layout (Part.tokens dialect) false expr.written (expr.tokens dialect) := by
  cases expr with
  | column column => exact .column column
  | value | parameter => cases notLiteral
  | unary operator inner => exact .unary operator (inner.layout_operand dialect)
  | binary operator left right type =>
      have layout := Layout.binary operator (left.layout_operand dialect)
        (right.layout_operand dialect)
      exact layout
  | concat left right =>
      have layout := Layout.concat dialect (left.layout_operand dialect)
        (right.layout_operand dialect)
      exact layout
  | chain connective operands =>
      rw [Expr.tokens, Expr.activeTokens_eq, Expr.written, List.map_eq_flatMap]
      exact .chain connective fun operand _ => operand.layout_single dialect
  | within negated tested items =>
      cases items with
      | nil => exact .literal (.nil true)
      | cons item items =>
          have opening : isSeparator (if negated then " NOT IN (" else " IN (") = true := by
            cases negated <;> rfl
          have closing : isSeparator ")" = true := rfl
          have list : Layout (Part.tokens dialect) false _ _ :=
            .withCommas fun expr (_ : expr ∈ item :: items) => expr.layout_single dialect
          have layout := (tested.layout_operand dialect).around opening (list.followed closing)
          rw [← Expr.listTokens_eq, ← List.map_eq_flatMap] at layout
          simpa [Expr.tokens, membershipTokens, Expr.listTokens, Expr.written, Expr.parts,
            Expr.children, Expr.select?] using layout
  | between tested low high =>
      have first : isSeparator " BETWEEN " = true := rfl
      have second : isSeparator " AND " = true := rfl
      have bounds := (low.layout_operand dialect).around second (high.layout_operand dialect)
      have layout := (tested.layout_operand dialect).around first bounds
      exact layout
  | cases branches otherwise type =>
      have start : isPlain "CASE" = true := rfl
      have between : isSeparator " ELSE " = true := rfl
      have closing : isSeparator " END" = true := rfl
      have last := (otherwise.layout_single dialect).followed closing
      have layout := ((Expr.layout_branches dialect branches).weaken false).around between last
      have all : Layout (Part.tokens dialect) false _ _ := .text start layout
      simpa [Expr.tokens, Expr.written, Expr.parts, Expr.children, Expr.select?,
        List.map_flatMap] using all
  | aggregate call argument? =>
      cases argument? with
      | none => exact .aggregate call (.text rfl (.nil _))
      | some argument => exact .aggregate call (argument.layout_single dialect)
  | groupKey inner => exact inner.layout_single dialect
  | existsIn select =>
      exact .separator rfl (select.layout_single dialect).parenthesized
  | subquery select => exact (select.layout_single dialect).parenthesized

theorem SelectColumn.layout (column : SelectColumn) :
    Layout (Part.tokens dialect) false [.expr column.expr] (column.tokens dialect) := by
  obtain ⟨expr, name, aliased⟩ := column
  cases aliased with
  | false => exact expr.layout_single dialect
  | true => exact (expr.layout_operand dialect).named name

/-- An inactive result column keeps its place, but its expression is not written. -/
theorem SelectColumn.layout_list (columns : List (Entry SelectColumn)) :
    Layout (Part.tokens dialect) false ((activeValues columns).map fun column => .expr column.expr)
      (Token.withCommas (SelectColumn.listTokens dialect columns)) := by
  rw [SelectColumn.listTokens_eq, List.map_eq_flatMap, flatMap_activeValues]
  refine .withCommas fun column _ => ?_
  cases column.isActive with
  | false => exact (Layout.ofSeparator rfl).named column.value.name
  | true => exact column.value.layout dialect

theorem SortOrder.layout (order : SortOrder) :
    Layout (Part.tokens dialect) false [.expr order.expr] (order.tokens dialect) := by
  obtain ⟨expr, direction, nulls?⟩ := order
  exact .sorted direction nulls? (expr.layout_operand dialect)

theorem Assignment.layout_value (assignment : Assignment) :
    Layout (Part.tokens dialect) false (assignment.value?.toList.map .expr)
      (assignment.valueTokens dialect) := by
  obtain ⟨column, value?⟩ := assignment
  cases value? with
  | none => exact .ofSeparator rfl
  | some value => exact value.layout_single dialect

theorem Assignment.layout_list (assignments : List (Entry Assignment)) :
    Layout (Part.tokens dialect) false (Assignment.written assignments)
      (assignmentTokens (Assignment.activeTokens dialect assignments)) := by
  rw [Assignment.activeTokens_eq]
  exact .assignments fun assignment _ => assignment.layout_value dialect

/-- An inactive condition leaves nothing behind. -/
theorem conditionTokens_entry (keyword : String) (condition : Entry Expr) :
    conditionTokens keyword (Expr.entryTokens? dialect condition)
      = if condition.isActive then .text keyword :: condition.value.tokens dialect else [] := by
  rw [Expr.entryTokens?, Entry.isActive]
  split <;> rfl

theorem Expr.layout_condition {keyword : String} (separator : isSeparator keyword = true)
    (condition? : Option (Entry Expr)) :
    Layout (Part.tokens dialect) true ((activeValues condition?.toList).map .expr)
      (conditionTokens keyword (Expr.optionEntryTokens? dialect condition?)) := by
  cases condition? with
  | none => exact .nil true
  | some condition =>
      rw [Expr.optionEntryTokens?, conditionTokens_entry, List.map_eq_flatMap,
        Option.toList_some, flatMap_activeValues_singleton]
      exact .ifActive _ (.separator separator (condition.value.layout_single dialect))

theorem InsertValues.layout (content : InsertValues) :
    Layout (Part.tokens dialect) true content.written (content.tokens dialect) := by
  cases content with
  | defaultValues => exact .ofSeparator rfl
  | set assignments =>
      rw [InsertValues.tokens, Assignment.activeTokens_eq]
      exact .inserted fun assignment _ => assignment.layout_value dialect
  | rows columns given =>
      have leading : isSeparator " " = true := rfl
      have between : isSeparator " VALUES " = true := rfl
      have names : Layout (Part.tokens dialect) false [] _ :=
        .columnList (columns.map Column.name)
      have row (exprs : List Expr) : Layout (Part.tokens dialect) false _ _ :=
        (Layout.withCommas fun expr (_ : expr ∈ exprs) => expr.layout_single dialect).parenthesized
      have rows := Layout.withCommas fun exprs (_ : exprs ∈ given) => row exprs
      have layout : Layout (Part.tokens dialect) true _ _ :=
        .separator leading (names.around between rows)
      simpa [InsertValues.tokens, Expr.rowTokens_eq, InsertValues.written, InsertValues.parts,
        List.map_eq_flatMap] using layout

theorem ConflictAction.layout (action : ConflictAction) :
    Layout (Part.tokens dialect) true action.written (action.tokens dialect) := by
  cases action with
  | doNothing => exact .ofSeparator rfl
  | doUpdate assignments condition? =>
      have leading : isSeparator " DO UPDATE SET " = true := rfl
      have keyword : isSeparator " WHERE " = true := rfl
      have condition := Expr.layout_condition dialect keyword condition?
      exact .separator leading ((Assignment.layout_list dialect assignments).append condition)

theorem Cte.layout_arms (arms : List CteArm) :
    Layout (Part.tokens dialect) true ((activeValues (arms.map CteArm.select)).map .select)
      (CteArm.activeTokens dialect arms) := by
  induction arms with
  | nil => exact .nil true
  | cons arm arms ih =>
      obtain ⟨distinct, ⟨presence, select⟩, readsSelf⟩ := arm
      have written : Layout (Part.tokens dialect) true _ _ :=
        .union dialect distinct (select.layout_single dialect)
      have layout := written.append ih
      cases active : presence.isActive with
      | false => simpa [CteArm.activeTokens, activeValues, Entry.isActive, active] using ih
      | true => simpa [CteArm.activeTokens, activeValues, Entry.isActive, active] using layout

theorem Cte.layout (cte : Cte) :
    Layout (Part.tokens dialect) false cte.written (cte.tokens dialect) := by
  obtain ⟨name, base, arms, fields⟩ := cte
  have between : isSeparator " AS " = true := rfl
  have selects := (base.layout_single dialect).append (Cte.layout_arms dialect arms)
  exact .identifier (.separator between selects.parenthesized)

theorem TableRef.layout_single (table : TableRef) :
    Layout (Part.tokens dialect) false [.tableRef table] (table.tokens dialect) :=
  .single (Part.tableRef table)

theorem TableRef.layout (table : TableRef) :
    Layout (Part.tokens dialect) false table.written (table.tokens dialect) := by
  cases table with
  | table table => exact .aliasedName table.name table.alias?
  | cte reference => exact .aliasedName reference.name reference.alias?
  | subSelect derived =>
      obtain ⟨select, name, fields⟩ := derived
      exact (select.layout_single dialect).parenthesized.named name
  | join left kind right condition? =>
      have keyword : isSeparator (" " ++ kind.keyword ++ " ") = true := by cases kind <;> rfl
      have on : isSeparator " ON " = true := rfl
      have condition : Layout (Part.tokens dialect) true (condition?.toList.map .expr)
          (conditionTokens " ON " (Expr.tokens? dialect condition?)) := by
        cases condition? with
        | none => exact .nil true
        | some condition => exact .separator on (condition.layout_single dialect)
      have joined := (layout_single dialect right.value).append condition
      rw [TableRef.written, flatMap_activeValues_singleton]
      exact (left.layout_single dialect).append (.ifActive _ (.separator keyword joined))

/-- Every clause starts with a text, so that it can follow another one. -/
theorem Clause.layout (clause : Clause) :
    Layout (Part.tokens dialect) true clause.written (clause.tokens dialect) := by
  cases clause with
  | «with» ctes =>
      rw [Clause.tokens, Cte.activeTokens_eq, Clause.written, List.map_eq_flatMap]
      cases activeValues ctes with
      | nil => exact .nil true
      | cons cte others =>
          have keyword (recursive : Bool) :
              isSeparator (if recursive then "WITH RECURSIVE " else "WITH ") = true := by
            cases recursive <;> rfl
          have closing : isSeparator " " = true := rfl
          have list : Layout (Part.tokens dialect) false _ _ :=
            .withCommas fun other (_ : other ∈ cte :: others) => .single (Part.cte other)
          exact .separator (keyword _) (list.followed closing)
  | columns distinct entries =>
      refine .separator ?_ (SelectColumn.layout_list dialect entries)
      cases distinct <;> rfl
  | target kind table =>
      refine .separator ?_ (.aliasedName table.name table.alias?)
      cases kind <;> rfl
  | set assignments => exact .separator rfl (Assignment.layout_list dialect assignments)
  | values content => exact content.layout dialect
  | source kind table =>
      refine .separator ?_ (table.layout_single dialect)
      cases kind <;> rfl
  | «where» condition? => exact Expr.layout_condition dialect rfl condition?
  | groupBy entries =>
      rw [Clause.tokens, Expr.activeTokens_eq, List.map_map, Clause.written, List.map_eq_flatMap]
      exact .listClause rfl fun entry _ => entry.layout_single dialect
  | having condition => exact Expr.layout_condition dialect rfl (some condition)
  | union distinct arm =>
      rw [Clause.written, List.map_eq_flatMap, flatMap_activeValues_singleton]
      exact .ifActive _ (.union dialect distinct (arm.value.layout_single dialect))
  | orderBy orders =>
      rw [Clause.tokens, SortOrder.activeTokens_eq, Clause.written, List.map_eq_flatMap]
      exact .listClause rfl fun order _ => order.layout dialect
  | limit kind count =>
      refine .separator ?_ (count.layout_single dialect)
      cases kind <;> rfl
  | onConflict columns action =>
      have keyword : isSeparator " ON CONFLICT" = true := rfl
      have leading : isSeparator " " = true := rfl
      have target : Layout (Part.tokens dialect) true [] (if columns.isEmpty then []
          else .text " " :: columnListTokens (columns.map Column.name)) := by
        split
        · exact .nil true
        · exact .separator leading (.columnList (columns.map Column.name))
      have layout := target.append (action.layout dialect)
      exact .separator keyword (layout.weaken false)
  | returning entries => exact .separator rfl (SelectColumn.layout_list dialect entries)

theorem Clause.layout_list (clauses : List Clause) :
    Layout (Part.tokens dialect) true (clauses.flatMap Clause.written)
      (Clause.listTokens dialect clauses) := by
  induction clauses with
  | nil => exact .nil true
  | cons clause clauses ih => exact (clause.layout dialect).append ih

/-- Except for a value and a parameter, the tokens of a part are those of its written parts with
texts, names and truth values around them. -/
theorem Part.layout {part : Part}
    (notLiteral : ∀ expr, part = .expr expr → expr.isLiteral = false) :
    Layout (Part.tokens dialect) false part.written (part.tokens dialect) := by
  cases part with
  | expr expr => exact Expr.layout dialect (notLiteral expr rfl)
  | statement statement => exact (Clause.layout_list dialect statement.clauses).weaken false
  | tableRef table => exact table.layout dialect
  | cte definition => exact definition.layout dialect

end Layouts

end CheckedSql
