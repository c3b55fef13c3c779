import CheckedSql.Proofs.Built.Checked
import CheckedSql.Proofs.Definitions.Invariant

/-!
# What stands in a built part

A call puts nothing into its result but its arguments and what stands in them
(`Part.MadeFrom.given`).  So whatever stands in a built part was built
(`Part.Built.of_contains`), and an invariant of built parts needs no induction of its
own: it is enough to look at the last call.
-/

namespace CheckedSql

/-! ## Given parts -/

/-- A part that arguments are, or that stands in one of them. -/
def Part.Given (arguments : List Part) (part : Part) : Prop :=
  part ∈ arguments ∨ ∃ argument ∈ arguments, part ∈ argument.children

theorem Expr.given_of_mem_children_chained {connective : Connective} {left inner : Expr}
    {right : Entry Expr} (mem : inner ∈ (chained connective left right).children) :
    inner = left ∨ inner = right.value ∨ inner ∈ left.children := by
  obtain ⟨operands, same, old⟩ := exists_chained connective left right
  rw [same, Expr.children, List.map_append, List.mem_append, List.map_singleton,
    List.mem_singleton] at mem
  rcases mem with inOperands | isRight
  · rcases old with rfl | rfl
    · exact .inr (.inr inOperands)
    · exact .inl (List.mem_singleton.1 inOperands)
  · exact .inr (.inl isRight)

theorem Expr.select?_chained (connective : Connective) (left : Expr) (right : Entry Expr) :
    (chained connective left right).select? = none := by
  obtain ⟨operands, same, -⟩ := exists_chained connective left right
  rw [same]
  rfl

/-- What stands in a chain was given to it or stands in its left operand. -/
theorem Expr.given_chained {connective : Connective} {left : Expr} {right : Entry Expr}
    {part : Part} (mem : part ∈ (chained connective left right).parts) :
    part.Given [.expr left, .expr right.value] := by
  simp only [Expr.parts, select?_chained, Option.toList_none, List.map_nil, List.append_nil,
    List.mem_map] at mem
  obtain ⟨inner, innerMem, rfl⟩ := mem
  rcases given_of_mem_children_chained innerMem with rfl | rfl | inLeft
  · exact .inl (.head _)
  · exact .inl (.tail _ (.head _))
  · refine .inr ⟨.expr left, .head _, ?_⟩
    exact List.mem_append_left _ (List.mem_map_of_mem inLeft)

/-- What stands in a new expression was given to the call or stands in what was given. -/
theorem Expr.MadeFrom.given {arguments : List Part} {expr : Expr} (made : MadeFrom arguments expr)
    {part : Part} (mem : part ∈ expr.parts) : part.Given arguments := by
  cases made with
  | column | value | parameter | countAll =>
      simp [Expr.parts, Expr.children, Expr.select?, Expr.countAll] at mem
  | unary made =>
      obtain ⟨-, rfl⟩ := mkUnary_eq_ok.1 made
      exact .inl mem
  | binary made =>
      rcases mkBinary_eq_ok made with
        ⟨connective, -, chainMade⟩ | ⟨-, -, rfl⟩ | ⟨-, -, type, -, rfl⟩
      · obtain ⟨-, rfl⟩ := mkChain_eq_ok.1 chainMade
        exact given_chained mem
      · exact .inl mem
      · exact .inl mem
  | chain made =>
      obtain ⟨-, rfl⟩ := mkChain_eq_ok.1 made
      exact given_chained mem
  | within made =>
      obtain ⟨-, rfl⟩ := mkWithin_eq_ok.1 made
      refine .inl ?_
      simpa [Expr.parts, Expr.children, Expr.select?] using mem
  | between made =>
      obtain ⟨-, -, rfl⟩ := mkBetween_eq_ok.1 made
      exact .inl mem
  | @cases branches otherwise expr made =>
      obtain ⟨-, -, rfl⟩ := mkCases_eq_ok.1 made
      refine .inl ?_
      simpa [Expr.parts, Expr.children, Expr.select?, List.map_flatMap] using mem
  | aggregate made =>
      obtain ⟨-, -, rfl⟩ := mkAggregate_eq_ok.1 made
      exact .inl mem
  | overAll made =>
      obtain ⟨call, argument?, rfl, rfl⟩ := mkOver_eq_ok.1 made
      exact .inr ⟨_, .head _, mem⟩
  | groupKey made =>
      obtain ⟨-, rfl⟩ := mkGroupKey_eq_ok.1 made
      exact .inl mem
  | existsIn select => exact .inl mem
  | subquery made =>
      obtain ⟨-, rfl⟩ := mkSubquery_eq_ok.1 made
      exact .inl mem

/-- What stands in a new table reference was given to the call. -/
theorem TableRef.MadeFrom.given {arguments : List Part} {table : TableRef}
    (made : MadeFrom arguments table) {part : Part} (mem : part ∈ table.parts) :
    part.Given arguments := by
  cases made with
  | table | cteName | cteReference | cteAs => cases mem
  | subSelect made =>
      obtain ⟨-, rfl⟩ := Select.as_eq_ok.1 made
      exact .inl mem
  | join made =>
      obtain ⟨-, -, -, -, rfl⟩ := mkJoin_eq_ok.1 made
      exact .inl mem

/-- The selects of a new definition were given to the call or stand in the definition it was
given. -/
theorem Cte.MadeFrom.given {arguments : List Part} {cte : Cte} (made : MadeFrom arguments cte)
    {part : Part} (mem : part ∈ (Part.cte cte).children) : part.Given arguments := by
  cases made with
  | define made =>
      obtain ⟨-, -, -, rfl⟩ := define_eq_ok.1 made
      exact .inl mem
  | @union old result distinct arm made =>
      obtain ⟨-, -, -, rfl⟩ := union_eq_ok.1 made
      obtain ⟨select, selectMem, rfl⟩ := List.mem_map.1 mem
      simp only [Cte.selects, List.map_append, List.map_cons, List.map_nil] at selectMem
      rw [← List.cons_append] at selectMem
      rcases List.mem_append.1 selectMem with earlier | new
      · exact .inr ⟨.cte old, .head _, List.mem_map_of_mem earlier⟩
      · obtain rfl := List.mem_singleton.1 new
        exact .inl (.tail _ (.head _))

/-- What stands in a new statement was given to the call or stands in what was given. -/
theorem Statement.Step.given {arguments : List Part} {result : Statement}
    (step : Step arguments result) {part : Part} (mem : part ∈ (Part.statement result).children) :
    part.Given arguments := by
  simp only [Part.children] at mem
  cases step with
  | start defined rank allowed clauses given =>
      rw [clauses, List.flatMap_append, List.flatMap_singleton] at mem
      exact .inl (given part mem)
  | @append old clause oldMem kind allowed rank clauses given =>
      rw [clauses, List.flatMap_append, List.flatMap_singleton] at mem
      rcases List.mem_append.1 mem with earlier | new
      · exact .inr ⟨.statement old, oldMem, earlier⟩
      · exact .inl (given part new)
  | @replace old earlier last clause oldMem kind allowed rank before clauses given =>
      have inOld (inLast : part ∈ (earlier ++ [last]).flatMap Clause.parts) :
          part.Given arguments :=
        .inr ⟨.statement old, oldMem, by rwa [Part.children, before]⟩
      rw [clauses, List.flatMap_append, List.flatMap_singleton] at mem
      rw [List.flatMap_append, List.flatMap_singleton] at inOld
      rcases List.mem_append.1 mem with inEarlier | inClause
      · exact inOld (List.mem_append_left _ inEarlier)
      · rcases given part inClause with inLast | isGiven
        · exact inOld (List.mem_append_right _ inLast)
        · exact .inl isGiven

namespace Part

/-- A call puts nothing into its result but its arguments and what they are made of. -/
theorem MadeFrom.given {arguments : List Part} {part child : Part}
    (made : part.MadeFrom arguments) (mem : child ∈ part.children) : child.Given arguments := by
  cases part with
  | expr e => exact Expr.MadeFrom.given made mem
  | statement s => exact (Statement.MadeFrom.step made).given mem
  | tableRef table => exact TableRef.MadeFrom.given made mem
  | cte definition => exact Cte.MadeFrom.given made mem

/-- The children of a built part are built. -/
theorem Built.of_mem_children {part child : Part} (built : part.Built)
    (mem : child ∈ part.children) : child.Built := by
  induction built generalizing child with
  | made made arguments ih =>
      rcases made.given mem with isArgument | ⟨argument, isArgument, inArgument⟩
      · exact arguments child isArgument
      · exact ih argument isArgument inArgument

/-- Whatever stands in a built part was built. -/
theorem Built.of_contains {part inner : Part} (built : part.Built)
    (contains : part.Contains inner) : inner.Built := by
  induction contains with
  | refl => exact built
  | tail _ mem ih => exact ih.of_mem_children mem

end Part

/-! ## Built joins and definitions -/

namespace Part

/-- The sides of a built join read no table, and its condition can join them. -/
theorem Built.join {left : TableRef} {kind : JoinKind} {right : Entry TableRef}
    {condition? : Option Expr} (built : (tableRef (.join left kind right condition?)).Built) :
    left.names.needs.tables.isEmpty = true ∧ right.value.names.needs.tables.isEmpty = true
      ∧ ∀ condition ∈ condition?, left.CanJoin right condition := by
  cases built with
  | made made arguments =>
      cases made with
      | join made =>
          obtain ⟨-, leftCloses, rightCloses, canJoin, same⟩ := TableRef.mkJoin_eq_ok.1 made
          cases same
          exact ⟨leftCloses, rightCloses, canJoin⟩

/-- The two sides of a built join provide different tables. -/
theorem Built.join_disjoint {left : TableRef} {kind : JoinKind} {right : Entry TableRef}
    {condition? : Option Expr} (built : (tableRef (.join left kind right condition?)).Built)
    (table : String) :
    ¬(left.names.tables.contains table = true
      ∧ right.value.names.tables.contains table = true) := by
  cases built with
  | made made arguments =>
      cases made with
      | join made =>
          obtain ⟨disjoint, -, -, -, same⟩ := TableRef.mkJoin_eq_ok.1 made
          cases same
          have notShared := OrderedSet.isEmpty_iff.1 disjoint table
          rw [OrderedSet.contains_intersection] at notShared
          rw [← Bool.and_eq_true, notShared]
          exact Bool.false_ne_true

/-- A select that is used as a table passes its own check. -/
theorem Built.checkConsistency_subSelect {derived : SubSelect}
    (built : (tableRef (.subSelect derived)).Built) :
    derived.select.checkConsistency = .ok () := by
  cases built with
  | made made arguments =>
      cases made with
      | subSelect made =>
          obtain ⟨consistent, rfl⟩ := Select.as_eq_ok.1 made
          exact consistent
      | join made =>
          obtain ⟨-, -, -, -, same⟩ := TableRef.mkJoin_eq_ok.1 made
          cases same

/-- A built definition is one that the calls return. -/
theorem Built.defined {definition : Cte} (built : (cte definition).Built) :
    definition.Defined := by
  generalize same : cte definition = part at built
  induction built generalizing definition with
  | made made arguments ih =>
      subst same
      cases made with
      | define made => exact .define made
      | @union old _ distinct arm made => exact .union (ih (.cte old) (.head _) rfl) made

/-- The selects of a built definition read no table from outside and pass their own checks. -/
theorem Built.of_mem_selects {definition : Cte} (built : (cte definition).Built)
    {select : Select} (mem : select ∈ definition.selects) :
    select.unresolvedTables.isEmpty = true ∧ select.checkConsistency = .ok () :=
  have fits := built.defined.sound.fits select mem
  ⟨fits.closed, fits.consistent⟩

/-- The selects of a built definition read no table from outside. -/
theorem Built.unresolvedTables_of_mem_selects {definition : Cte}
    (built : (cte definition).Built) {select : Select} (mem : select ∈ definition.selects) :
    select.unresolvedTables.isEmpty = true :=
  (built.of_mem_selects mem).1

end Part

end CheckedSql
