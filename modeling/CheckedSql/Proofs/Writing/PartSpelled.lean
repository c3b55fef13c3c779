import CheckedSql.Proofs.Writing.PartPhrase
import CheckedSql.Proofs.Writing.Spelled

/-!
# Runs of operator characters in parts

`Part.runs` lists the runs of operator characters that a part is written with, from left to
right: the signs of numbers, the prefix operators, and the binary operators that are no words.
A bitwise negation and the sign of a number behind it are one run, since nothing is written
between them.  Negation would put such a number between parentheses.

The tokens of every built part are spelled with these runs (`Part.Built.spelled`), unless the
part is a change: there the equality sign is used for assignments, too.  Only selects stand in
other parts, so this leaves out no expression.  There is one lemma for each type of the syntax.
-/

namespace CheckedSql

/-! ## Runs of trees -/

/-- The sign that a unary operator is written with, unless it is written with words. -/
def UnaryOperator.sign : UnaryOperator → List String
  | negate => ["-"]
  | bitNot => ["~"]
  | not | isNull | isNotNull => []

/-- Whether an expression is written as a number with a sign in front of it. -/
def Expr.isSigned : Expr → Bool
  | .value number => number.isSigned
  | .groupKey inner => inner.isSigned
  | _ => false

/-- The runs of a unary operator with those of its operand behind it.  Nothing keeps a bitwise
negation and the sign of a number apart. -/
def UnaryOperator.fused (operator : UnaryOperator) (operand : Expr) (behind : List String) :
    List String :=
  if operator = bitNot ∧ operand.isSigned = true then ["~-"] else operator.sign ++ behind

namespace Part

/-- The operators in what is written of a part, from left to right, where `prefixed` puts a unary
operator in front of those of its operand.  The sign of a number counts as one, and so does the
asterisk for all rows. -/
def operatorsBy (prefixed : UnaryOperator → Expr → List String → List String) :
    Part → List String
  | .expr (.value value) => if value.isSigned then ["-"] else []
  | .expr (.unary operator operand) =>
      prefixed operator operand (operatorsBy prefixed (.expr operand))
  | .expr (.binary operator left right _) =>
      operatorsBy prefixed (.expr left)
        ++ (operator.spelling ++ operatorsBy prefixed (.expr right))
  | .expr (.aggregate _ none) => ["*"]
  | part => part.written.attach.flatMap fun child => operatorsBy prefixed child.val
termination_by part => part.weight
decreasing_by
  · exact weight_lt (.head _)
  · exact weight_lt (.head _)
  · exact weight_lt (.tail _ (.head _))
  · exact weight_lt (part.written_sublist.subset child.property)

/-- The runs of operator characters that a part is written with. -/
def runs : Part → List String := operatorsBy UnaryOperator.fused

/-- Whether all operators of a part stand in what is written of it. -/
def isPlain : Part → Bool
  | .expr (.value _) | .expr (.unary _ _) | .expr (.binary _ _ _ _)
  | .expr (.aggregate _ none) => false
  | _ => true

theorem operatorsBy_eq {prefixed : UnaryOperator → Expr → List String → List String} {part : Part}
    (plain : part.isPlain = true) :
    part.operatorsBy prefixed = part.written.flatMap (operatorsBy prefixed) := by
  rw [operatorsBy]
  · simp
  · rintro value rfl
    cases plain
  · rintro operator operand rfl
    cases plain
  · rintro operator left right type rfl
    cases plain
  · rintro call rfl
    cases plain

/-- Induction along the operators of a part. -/
@[elab_as_elim]
theorem operatorInduction {motive : Part → Prop}
    (value : ∀ value, motive (.expr (.value value)))
    (unary : ∀ operator operand, motive (.expr operand) →
      motive (.expr (.unary operator operand)))
    (binary : ∀ operator left right type, motive (.expr left) → motive (.expr right) →
      motive (.expr (.binary operator left right type)))
    (aggregateAll : ∀ call, motive (.expr (.aggregate call none)))
    (plain : ∀ part : Part, part.isPlain = true → (∀ child ∈ part.written, motive child) →
      motive part)
    (part : Part) : motive part := by
  induction part using Part.induction with
  | step part ih =>
      have parts : ∀ child ∈ part.written, motive child := fun child mem =>
        ih child (part.written_sublist.subset mem)
      cases isPlain : part.isPlain with
      | true => exact plain part isPlain parts
      | false =>
          unfold Part.isPlain at isPlain
          split at isPlain
          · exact value _
          · exact unary _ _ (parts _ (.head _))
          · exact binary _ _ _ _ (parts _ (.head _)) (parts _ (.tail _ (.head _)))
          · exact aggregateAll _
          · cases isPlain

end Part

/-! ## Signed operands -/

namespace Expr

/-- A signed number needs no parentheses. -/
theorem not_isSigned_of_isCompound (expr : Expr) (compound : expr.isCompound = true) :
    expr.isSigned = false := by
  cases expr with
  | groupKey inner => exact not_isSigned_of_isCompound inner compound
  | value => cases compound
  | _ => rfl

/-- The tokens of an operand start with a sign exactly if it is a signed number. -/
theorem startsWithMinus_operand (expr : Expr) :
    Dialect.postgres.startsWithMinus
      (Token.operand expr.isCompound (expr.tokens .postgres)) = expr.isSigned := by
  cases compound : expr.isCompound with
  | true => exact (expr.not_isSigned_of_isCompound compound).symm
  | false =>
      show Dialect.postgres.startsWithMinus (expr.tokens .postgres) = expr.isSigned
      cases expr with
      | value value => exact value.startsWithMinus_literal []
      | groupKey inner =>
          have same := startsWithMinus_operand inner
          have notCompound : inner.isCompound = false := compound
          rw [notCompound] at same
          exact same
      | aggregate call argument? => cases argument? <;> rfl
      | column | parameter | cases | existsIn | subquery => rfl
      | unary | binary | concat | chain | within | between => cases compound

/-- An operand starts with no operator character unless it is a signed number. -/
theorem startsQuiet_operand (expr : Expr) (notSigned : expr.isSigned = false) :
    startsQuiet (Dialect.postgres.pieces
      (Token.operand expr.isCompound (expr.tokens .postgres))) = true := by
  cases compound : expr.isCompound with
  | true => rfl
  | false =>
      show startsQuiet (Dialect.postgres.pieces (expr.tokens .postgres)) = true
      cases expr with
      | value value =>
          obtain ⟨found, pieces, quiet⟩ := value.exists_pieces
          have same : value.isSigned = false := notSigned
          rw [same] at pieces
          rw [Expr.tokens, Dialect.pieces_singleton, pieces]
          exact quiet.startsQuiet
      | column column =>
          rw [Expr.tokens, Column.tokens, Dialect.pieces_cons, Token.pieces]
          split <;> rfl
      | groupKey inner =>
          have starts := startsQuiet_operand inner notSigned
          have notCompound : inner.isCompound = false := compound
          rw [notCompound] at starts
          exact starts
      | aggregate call argument? =>
          obtain ⟨function, distinct, overAll⟩ := call
          have keyword := (Spelled.quiet_keyword function distinct).startsQuiet
          cases argument? <;> exact startsQuiet_append keyword _
      | parameter | cases | existsIn | subquery => rfl
      | unary | binary | concat | chain | within | between => cases compound

/-- A signed number starts with its sign. -/
theorem exists_pieces_of_isSigned (expr : Expr) (signed : expr.isSigned = true) :
    ∃ found, Dialect.postgres.pieces (expr.tokens .postgres) = .symbol '-' :: found
      ∧ Quiet found := by
  cases expr with
  | value value =>
      obtain ⟨found, pieces, quiet⟩ := value.exists_pieces
      have same : value.isSigned = true := signed
      rw [same] at pieces
      refine ⟨found, ?_, quiet⟩
      rw [Expr.tokens, Dialect.pieces_singleton, pieces]
      rfl
  | groupKey inner => exact exists_pieces_of_isSigned inner signed
  | _ => cases signed

/-- A bitwise negation is read with the sign of a number as one operator. -/
theorem spelled_bitNot_of_isSigned (expr : Expr) (signed : expr.isSigned = true) :
    Spelled ((Expr.unary .bitNot expr).tokens .postgres) ["~-"] := by
  obtain ⟨found, pieces, quiet⟩ := expr.exists_pieces_of_isSigned signed
  have notCompound : expr.isCompound = false :=
    Bool.eq_false_iff.2 fun compound => by
      rw [expr.not_isSigned_of_isCompound compound] at signed
      exact Bool.false_ne_true signed
  have all : Dialect.postgres.pieces ((Expr.unary .bitNot expr).tokens .postgres)
      = ['~', '-'].map .symbol ++ found := by
    rw [Expr.tokens, notCompound]
    show Dialect.postgres.pieces (.text "~" :: expr.tokens .postgres) = _
    rw [Dialect.pieces_cons, pieces]
    rfl
  have areOperators : ∀ c ∈ ['~', '-'], isOperatorChar c = true :=
    List.forall_mem_cons.2 ⟨rfl, List.forall_mem_singleton.2 rfl⟩
  have spelled : Spelled ((Expr.unary .bitNot expr).tokens .postgres) ("~-" :: runsIn found) :=
    .of_signs all (List.cons_ne_nil '~' ['-']) areOperators quiet.startsQuiet quiet.2.2
  rwa [quiet.2.1] at spelled

/-- A unary operator in front of or behind an operand. -/
theorem spelled_unary (operator : UnaryOperator) {operand : Expr} {runs : List String}
    (spelled : Spelled (operand.tokens .postgres) runs) :
    Spelled ((Expr.unary operator operand).tokens .postgres) (operator.fused operand runs) := by
  have inner := spelled.operand operand.isCompound
  rw [UnaryOperator.fused]
  split
  · next fuses =>
      obtain ⟨rfl, signed⟩ := fuses
      exact operand.spelled_bitNot_of_isSigned signed
  · next apart =>
      cases operator with
      | negate =>
          rw [Expr.tokens, UnaryOperator.tokens, startsWithMinus_operand]
          split
          · exact inner.parenthesized.signed '-' rfl rfl rfl
          · next notSigned =>
              have starts := operand.startsQuiet_operand (Bool.not_eq_true _ ▸ notSigned)
              exact inner.signed '-' rfl rfl starts
      | bitNot =>
          have notSigned : operand.isSigned = false :=
            Bool.eq_false_iff.2 fun signed => apart ⟨rfl, signed⟩
          exact inner.signed '~' rfl rfl (operand.startsQuiet_operand notSigned)
      | not => exact inner.leading (by decide)
      | isNull | isNotNull => exact inner.followed (by decide)

theorem spelled_branches {branches : List (Expr × Expr)} (runs : Expr → List String)
    (each : ∀ branch ∈ branches, Spelled (branch.1.tokens .postgres) (runs branch.1)
      ∧ Spelled (branch.2.tokens .postgres) (runs branch.2)) :
    Spelled (Expr.branchTokens .postgres branches)
      (branches.flatMap fun branch => runs branch.1 ++ runs branch.2) := by
  induction branches with
  | nil => exact .nil
  | cons branch branches ih =>
      obtain ⟨⟨condition, result⟩, others⟩ := List.forall_mem_cons.1 each
      have between : Quiet (textPieces " THEN ") := by decide
      have rest := (condition.around between result).append (ih others)
      have all := rest.leading (by decide : Quiet (textPieces " WHEN "))
      simpa [Expr.branchTokens] using all

end Expr

/-! ## Parts -/

/-- The tokens of a part are spelled with the runs of the part. -/
def Part.IsSpelled (part : Part) : Prop := Spelled (part.tokens .postgres) part.runs

theorem Part.IsSpelled.select {select : Select} (spelled : (Part.select select).IsSpelled) :
    Spelled (select.tokens .postgres) (Part.select select).runs := by
  cases select
  exact spelled

theorem Part.isSpelled_of_plain {part : Part} {runs : List String}
    (plain : part.isPlain = true) (same : part.written.flatMap Part.runs = runs)
    (spelled : Spelled (part.tokens .postgres) runs) : part.IsSpelled := by
  rw [Part.IsSpelled, Part.runs, Part.operatorsBy_eq plain]
  exact same ▸ spelled

theorem Expr.isSpelled_of_plain {expr : Expr} {runs : List String}
    (plain : (Part.expr expr).isPlain = true) (same : expr.written.flatMap Part.runs = runs)
    (spelled : Spelled (expr.tokens .postgres) runs) : (Part.expr expr).IsSpelled :=
  Part.isSpelled_of_plain plain same spelled

/-- The tokens of an expression are spelled with its runs if those of its written parts are. -/
theorem Expr.isSpelled {expr : Expr} (parts : ∀ part ∈ expr.written, part.IsSpelled) :
    (Part.expr expr).IsSpelled := by
  have child {other : Expr} (mem : .expr other ∈ expr.written) :
      Spelled (other.tokens .postgres) (Part.expr other).runs := parts (.expr other) mem
  have operand {other : Expr} (mem : .expr other ∈ expr.written) :=
    (child mem).operand other.isCompound
  have nested {select : Select} (mem : .select select ∈ expr.written) :
      Spelled (select.tokens .postgres) (Part.select select).runs :=
    (parts (.select select) mem).select
  cases expr with
  | column column => exact isSpelled_of_plain rfl rfl (.column column)
  | value value =>
      rw [Part.IsSpelled, Part.runs, Part.operatorsBy]
      exact .literal value
  | parameter parameter => exact isSpelled_of_plain rfl rfl (.placeholder parameter)
  | unary operator inner =>
      rw [Part.IsSpelled, Part.runs, Part.operatorsBy]
      exact spelled_unary operator (child (.head _))
  | binary operator left right type =>
      rw [Part.IsSpelled, Part.runs, Part.operatorsBy]
      exact .binary operator (operand (.head _)) (operand (.tail _ (.head _)))
  | concat left right =>
      refine isSpelled_of_plain rfl ?_ (.concat (operand (.head _)) (operand (.tail _ (.head _))))
      show [.expr left, .expr right].flatMap Part.runs = _
      simp
  | chain connective operands =>
      refine isSpelled_of_plain rfl (List.flatMap_map ..) ?_
      rw [Expr.tokens, Expr.activeTokens_eq]
      exact .chain connective fun other mem => child (List.mem_map_of_mem mem)
  | within negated tested items =>
      cases items with
      | nil => exact isSpelled_of_plain rfl rfl (.literal (.bool negated))
      | cons item items =>
          have opening : Quiet (textPieces (if negated then " NOT IN (" else " IN (")) := by
            cases negated <;> decide
          have closing : Quiet (textPieces ")") := by decide
          have list := Spelled.withCommas fun other (mem : other ∈ item :: items) =>
            child (List.mem_append_left _ (List.mem_map_of_mem (.tail _ mem)))
          have spelled := (operand (.head _)).around opening (list.followed closing)
          rw [← Expr.listTokens_eq] at spelled
          refine isSpelled_of_plain rfl ?_ spelled
          simp [Expr.written, Expr.parts, Expr.children, Expr.select?, List.flatMap_map]
  | between tested low high =>
      have first : Quiet (textPieces " BETWEEN ") := by decide
      have second : Quiet (textPieces " AND ") := by decide
      have bounds := (operand (.tail _ (.head _))).around second
        (operand (.tail _ (.tail _ (.head _))))
      refine isSpelled_of_plain rfl ?_ ((operand (.head _)).around first bounds)
      show [.expr tested, .expr low, .expr high].flatMap Part.runs = _
      simp
  | cases branches otherwise type =>
      have start : Quiet (textPieces "CASE") := by decide
      have between : Quiet (textPieces " ELSE ") := by decide
      have closing : Quiet (textPieces " END") := by decide
      have inner {other : Expr} (mem : other ∈ (Expr.cases branches otherwise type).children) :
          Spelled (other.tokens .postgres) (Part.expr other).runs :=
        child (List.mem_append_left _ (List.mem_map_of_mem mem))
      have chosen := spelled_branches (fun other => (Part.expr other).runs)
        fun branch mem => by
          have both : ∀ other ∈ [branch.1, branch.2],
              other ∈ (Expr.cases branches otherwise type).children := fun other otherMem =>
            List.mem_append_left _ (List.mem_flatMap.2 ⟨branch, mem, otherMem⟩)
          exact ⟨inner (both _ (.head _)), inner (both _ (.tail _ (.head _)))⟩
      have last := (inner (List.mem_append_right _ (.head _))).followed closing
      refine isSpelled_of_plain rfl ?_ ((chosen.around between last).leading start)
      simp [Expr.written, Expr.parts, Expr.children, Expr.select?, List.map_flatMap,
        List.flatMap_assoc]
  | aggregate call argument? =>
      cases argument? with
      | none =>
          rw [Part.IsSpelled, Part.runs, Part.operatorsBy]
          exact .aggregateAll call
      | some argument =>
          have spelled := Spelled.aggregate call (child (.head _))
          exact isSpelled_of_plain rfl (List.flatMap_singleton ..) spelled
  | groupKey inner =>
      have spelled : Spelled (inner.tokens .postgres) _ := child (.head _)
      exact isSpelled_of_plain rfl (List.flatMap_singleton ..) spelled
  | existsIn select =>
      have spelled := (nested (.head _)).parenthesized.leading
        (by decide : Quiet (textPieces "EXISTS "))
      exact isSpelled_of_plain rfl (List.flatMap_singleton ..) spelled
  | subquery select =>
      exact isSpelled_of_plain rfl (List.flatMap_singleton ..) (nested (.head _)).parenthesized

theorem SelectColumn.spelled {column : SelectColumn} (spelled : (Part.expr column.expr).IsSpelled) :
    Spelled (column.tokens .postgres) (Part.expr column.expr).runs := by
  obtain ⟨expr, name, aliased⟩ := column
  cases aliased with
  | false => exact spelled
  | true => exact (Spelled.operand expr.isCompound spelled).named name

/-- An inactive result column has no run. -/
theorem SelectColumn.spelled_list {columns : List (Entry SelectColumn)}
    (parts : ∀ column ∈ activeValues columns, (Part.expr column.expr).IsSpelled) :
    Spelled (Token.withCommas (SelectColumn.listTokens .postgres columns))
      ((activeValues columns).flatMap fun column => (Part.expr column.expr).runs) := by
  rw [SelectColumn.listTokens_eq, flatMap_activeValues]
  refine .withCommas fun column mem => ?_
  cases active : column.isActive with
  | false => exact (Spelled.quiet (by decide)).named column.value.name
  | true => exact SelectColumn.spelled (parts _ (mem_activeValues mem active))

theorem SortOrder.spelled {order : SortOrder} (spelled : (Part.expr order.expr).IsSpelled) :
    Spelled (order.tokens .postgres) (Part.expr order.expr).runs := by
  obtain ⟨expr, direction, nulls?⟩ := order
  exact .sorted direction nulls? (Spelled.operand expr.isCompound spelled)

theorem Expr.spelled_condition {keyword : String} (quiet : Quiet (textPieces keyword))
    {condition? : Option (Entry Expr)}
    (parts : ∀ condition ∈ activeValues condition?.toList, (Part.expr condition).IsSpelled) :
    Spelled (conditionTokens keyword (Expr.optionEntryTokens? .postgres condition?))
      ((activeValues condition?.toList).flatMap fun condition => (Part.expr condition).runs) := by
  cases condition? with
  | none => exact .nil
  | some condition =>
      rw [Expr.optionEntryTokens?, conditionTokens_entry, Option.toList_some,
        flatMap_activeValues_singleton]
      refine .ifActive _ fun active => ?_
      have spelled : Spelled _ _ := parts _ (mem_activeValues (.head _) active)
      exact spelled.leading quiet

theorem Cte.spelled_arms {arms : List CteArm}
    (parts : ∀ select ∈ activeValues (arms.map CteArm.select), (Part.select select).IsSpelled) :
    Spelled (CteArm.activeTokens .postgres arms)
      ((activeValues (arms.map CteArm.select)).flatMap fun select =>
        (Part.select select).runs) := by
  induction arms with
  | nil => exact .nil
  | cons arm arms ih =>
      obtain ⟨distinct, ⟨presence, select⟩, readsSelf⟩ := arm
      rw [List.map_cons, activeValues_cons] at parts ⊢
      cases active : presence.isActive with
      | false =>
          have others := ih (by simpa [Entry.isActive, active] using parts)
          simpa [CteArm.activeTokens, Entry.isActive, active] using others
      | true =>
          simp only [Entry.isActive, active, if_true, List.forall_mem_cons] at parts
          have spelled := (Spelled.union distinct parts.1.select).append (ih parts.2)
          simpa [CteArm.activeTokens, Entry.isActive, active] using spelled

theorem Cte.isSpelled {cte : Cte} (parts : ∀ part ∈ cte.written, part.IsSpelled) :
    (Part.cte cte).IsSpelled := by
  obtain ⟨name, base, arms, fields⟩ := cte
  have between : Quiet (textPieces " AS ") := by decide
  obtain ⟨first, others⟩ := List.forall_mem_cons.1 parts
  have united := Cte.spelled_arms fun select mem => others _ (List.mem_map_of_mem mem)
  have spelled := (Spelled.name name).around between (first.select.append united).parenthesized
  refine Part.isSpelled_of_plain rfl ?_ spelled
  simp [Part.written, Cte.written, List.flatMap_map]

theorem TableRef.isSpelled {table : TableRef} (parts : ∀ part ∈ table.written, part.IsSpelled) :
    (Part.tableRef table).IsSpelled := by
  cases table with
  | table table => exact Part.isSpelled_of_plain rfl rfl (.aliasedName table.name table.alias?)
  | cte reference =>
      exact Part.isSpelled_of_plain rfl rfl (.aliasedName reference.name reference.alias?)
  | subSelect derived =>
      obtain ⟨select, name, fields⟩ := derived
      have spelled := (parts (.select select) (.head _)).select.parenthesized.named name
      refine Part.isSpelled_of_plain rfl ?_ spelled
      simp [Part.written, TableRef.written, TableRef.parts]
  | join left kind right condition? =>
      have keyword : Quiet (textPieces (" " ++ kind.keyword ++ " ")) := by cases kind <;> decide
      have on : Quiet (textPieces " ON ") := by decide
      have first : Spelled (left.tokens .postgres) (Part.tableRef left).runs :=
        parts (.tableRef left) (.head _)
      have joined : right.isActive = true →
          Spelled (kind.tokens (right.value.tokens .postgres) (Expr.tokens? .postgres condition?))
            ((Part.tableRef right.value).runs
              ++ condition?.toList.flatMap fun condition => (Part.expr condition).runs) := by
        intro active
        rw [TableRef.written, flatMap_activeValues_singleton, if_pos active,
          List.forall_mem_cons, List.forall_mem_cons] at parts
        have second : Spelled (right.value.tokens .postgres) _ := parts.2.1
        refine (second.append ?_).leading keyword
        cases condition? with
        | none => exact .nil
        | some condition =>
            have spelled : Spelled (condition.tokens .postgres) _ := parts.2.2 _ (.head _)
            simpa [conditionTokens, Expr.tokens?] using spelled.leading on
      have written : (TableRef.join left kind right condition?).written.flatMap Part.runs
          = (Part.tableRef left).runs ++ if right.isActive then
            (Part.tableRef right.value).runs
              ++ condition?.toList.flatMap fun condition => (Part.expr condition).runs
            else [] := by
        rw [TableRef.written, flatMap_activeValues_singleton, List.flatMap_cons]
        split <;> simp [List.flatMap_map]
      exact Part.isSpelled_of_plain rfl written (first.append (.ifActive right.isActive joined))

/-- The tokens of a clause that a select may have are spelled with the runs of what is written of
it. -/
theorem Clause.spelled {select : Select} {clause : Clause}
    (allowed : (Statement.select select).allows clause = true)
    (parts : ∀ part ∈ clause.written, part.IsSpelled) :
    Spelled (clause.tokens .postgres) (clause.written.flatMap Part.runs) := by
  cases clause with
  | «with» ctes =>
      rw [Clause.tokens, Cte.activeTokens_eq, Clause.written, List.flatMap_map]
      exact .definitions _ fun cte mem => parts (.cte cte) (List.mem_map_of_mem mem)
  | columns distinct entries =>
      have keyword : Quiet (textPieces (if distinct then "SELECT DISTINCT " else "SELECT ")) := by
        cases distinct <;> decide
      rw [Clause.written, List.flatMap_map]
      exact (SelectColumn.spelled_list fun column mem =>
        parts _ (List.mem_map_of_mem mem)).leading keyword
  | source kind table =>
      have keyword : Quiet (textPieces (" " ++ kind.keyword ++ " ")) := by cases kind <;> decide
      have spelled : Spelled (table.tokens .postgres) _ := parts (.tableRef table) (.head _)
      simpa [Clause.written, Clause.parts, Clause.tokens] using spelled.leading keyword
  | «where» condition? =>
      rw [Clause.written, List.flatMap_map]
      exact Expr.spelled_condition (by decide) fun condition mem =>
        parts _ (List.mem_map_of_mem mem)
  | groupBy entries =>
      rw [Clause.tokens, Expr.activeTokens_eq, List.map_map, Clause.written, List.flatMap_map]
      exact .listClause (by decide) fun entry mem => parts (.expr entry) (List.mem_map_of_mem mem)
  | having condition =>
      rw [Clause.written, List.flatMap_map]
      have keyword : Quiet (textPieces " HAVING ") := by decide
      have only : ∀ other ∈ activeValues (some condition).toList, (Part.expr other).IsSpelled :=
        fun other mem => parts (.expr other) (List.mem_map_of_mem mem)
      exact Expr.spelled_condition keyword only
  | union distinct arm =>
      rw [Clause.written, List.flatMap_map, flatMap_activeValues_singleton]
      refine .ifActive _ fun active => .union distinct (parts (.select arm.value) ?_).select
      exact List.mem_map_of_mem (mem_activeValues (.head _) active)
  | orderBy orders =>
      rw [Clause.tokens, SortOrder.activeTokens_eq, Clause.written, List.flatMap_map]
      exact .listClause (by decide) fun order mem =>
        SortOrder.spelled (parts _ (List.mem_map_of_mem mem))
  | limit kind count =>
      have keyword : Quiet (textPieces (" " ++ kind.keyword ++ " ")) := by cases kind <;> decide
      have spelled : Spelled (count.tokens .postgres) _ := parts (.expr count) (.head _)
      simpa [Clause.written, Clause.parts, Clause.tokens] using spelled.leading keyword
  | target kind table => cases kind <;> cases allowed
  | set | values | onConflict | returning => cases allowed

theorem Clause.spelled_list {select : Select} {clauses : List Clause}
    (allowed : ∀ clause ∈ clauses, (Statement.select select).allows clause = true)
    (parts : ∀ part ∈ clauses.flatMap Clause.written, part.IsSpelled) :
    Spelled (Clause.listTokens .postgres clauses)
      ((clauses.flatMap Clause.written).flatMap Part.runs) := by
  induction clauses with
  | nil => exact .nil
  | cons clause clauses ih =>
      obtain ⟨firstAllowed, othersAllowed⟩ := List.forall_mem_cons.1 allowed
      obtain ⟨firstParts, otherParts⟩ := List.forall_mem_append.1 parts
      rw [List.flatMap_cons, List.flatMap_append]
      exact (Clause.spelled firstAllowed firstParts).append (ih othersAllowed otherParts)

theorem Select.isSpelled {select : Select}
    (allowed : ∀ clause ∈ select.clauses, (Statement.select select).allows clause = true)
    (parts : ∀ part ∈ (Part.select select).written, part.IsSpelled) :
    (Part.select select).IsSpelled := by
  obtain ⟨clauses⟩ := select
  exact Part.isSpelled_of_plain rfl rfl (Clause.spelled_list allowed parts)

/-! ## Built parts -/

namespace Part

/-- A statement is a select. -/
def IsQuery (part : Part) : Prop :=
  ∀ statement, part = .statement statement → ∃ select, statement = .select select

/-- Only selects stand in other parts. -/
theorem isQuery_of_mem_children {part child : Part} (mem : child ∈ part.children) :
    child.IsQuery := by
  rintro statement rfl
  have ofAssignments {assignments : List (Entry Assignment)}
      (mem : .statement statement ∈ Assignment.entriesParts assignments) : False := by
    simp [Assignment.entriesParts] at mem
  cases part with
  | expr expr =>
      rcases List.mem_append.1 mem with isExpr | isSelect
      · simp at isExpr
      · obtain ⟨select, -, same⟩ := List.mem_map.1 isSelect
        exact ⟨select, (Part.statement.inj same).symm⟩
  | statement outer =>
      obtain ⟨clause, -, inClause⟩ := List.mem_flatMap.1 mem
      cases clause with
      | union distinct arm => exact ⟨_, Part.statement.inj (List.mem_singleton.1 inClause)⟩
      | set => exact (ofAssignments inClause).elim
      | values content =>
          cases content with
          | set => exact (ofAssignments inClause).elim
          | _ => simp [Clause.parts, InsertValues.parts] at inClause
      | onConflict columns action =>
          cases action with
          | doNothing => cases inClause
          | doUpdate =>
              rcases List.mem_append.1 inClause with assigned | isCondition
              · exact (ofAssignments assigned).elim
              · simp at isCondition
      | _ => simp [Clause.parts] at inClause
  | tableRef table =>
      cases table with
      | subSelect derived => exact ⟨_, Part.statement.inj (List.mem_singleton.1 mem)⟩
      | _ => simp [children, TableRef.parts] at mem
  | cte definition =>
      obtain ⟨select, -, same⟩ := List.mem_map.1 mem
      exact ⟨select, (Part.statement.inj same).symm⟩

/-- The tokens of built parts are spelled with the runs of the parts. -/
theorem Built.spelled {part : Part} (built : part.Built) (query : part.IsQuery) :
    part.IsSpelled := by
  induction part using Part.induction with
  | step part ih =>
      have parts : ∀ child ∈ part.written, child.IsSpelled := fun child mem => by
        have inChildren := part.written_sublist.subset mem
        exact ih child inChildren (built.of_mem_children inChildren)
          (isQuery_of_mem_children inChildren)
      cases part with
      | expr expr => exact Expr.isSpelled parts
      | tableRef table => exact TableRef.isSpelled parts
      | cte definition => exact Cte.isSpelled parts
      | statement statement =>
          obtain ⟨select, rfl⟩ := query statement rfl
          exact Select.isSpelled (Statement.ordered_of_built built).allowed parts

end Part

end CheckedSql
