import CheckedSql.Proofs.Scoping.Resolution

/-!
# Arms of unions

An arm of a union is a select next to the one it is united with, not one inside of
it.  A column in the arm should come from a table of the arm or of a statement
around the whole union.  The union is a clause of the left-hand select, though, so
the sets of the check let the arm read the tables of that select as well.

`Statement.armsAreScoped_iff` says for which statements this makes a difference: those
in which a table that an arm needs is provided by the left-hand select and by no
statement around the union.
-/

namespace CheckedSql

/-- Whether a frame is the left-hand select of a union around one of its arms. -/
def Frame.isUnion (frame : Frame) : Bool :=
  match frame.clause with
  | .union _ _ => true
  | _ => false

/-- The frames around a part that are scopes for it.  The left-hand select of a union is none for
the arms. -/
def scopesOf (frames : List Frame) : List Frame := frames.filter fun frame => !frame.isUnion

theorem scopesOf_append (near far : List Frame) :
    scopesOf (near ++ far) = scopesOf near ++ scopesOf far :=
  List.filter_append near far

/-- Scopes are frames. -/
theorem Resolves.of_scopesOf {frames : List Frame} {table : String}
    (resolves : Resolves (scopesOf frames) table) : Resolves frames table := by
  obtain ⟨frame, mem, provided⟩ := resolves
  exact ⟨frame, (List.mem_filter.1 mem).1, provided⟩

/-- Every column that stands in an arm of a union in a part is found in a scope around it. -/
def Part.ArmsAreScoped (root : Part) : Prop :=
  ∀ frames column, root.Refers frames column → (∃ frame ∈ frames, frame.isUnion = true) →
    Resolves (scopesOf frames) column.qualifier

/-- No arm of a union in a part relies on the left-hand select alone: if that select provides a
table that an arm needs, a scope around the union provides it too. -/
def Part.ArmsAreClosed (root : Part) : Prop :=
  ∀ frames (left : Select) distinct (arm : Entry Select) table,
    root.Stands frames (.select left) → .union distinct arm ∈ left.clauses →
    arm.value.unresolvedTables.contains table = true →
    table ∈ (Statement.select left).identities → Resolves (scopesOf frames) table

namespace Statement

/-- Only selects have unions. -/
theorem isSelect_of_union {statement : Statement} {distinct : Bool} {arm : Entry Select}
    (allowed : statement.allows (.union distinct arm) = true) :
    ∃ left, statement = .select left := by
  cases statement with
  | select left => exact ⟨left, rfl⟩
  | _ => cases allowed

/-- If the innermost frame that provides the table of a column is the left-hand select of a union,
then an arm of that union needs the table. -/
theorem needed_of_isUnion {root : Part} {near far : List Frame} {frame : Frame} {column : Column}
    (built : root.Built) (refers : root.Refers (near ++ frame :: far) column)
    (isUnion : frame.isUnion = true) (notNear : ¬ Resolves near column.qualifier) :
    ∃ left distinct arm, frame = ⟨.select left, .union distinct arm⟩
      ∧ root.Stands far (.select left) ∧ .union distinct arm ∈ left.clauses
      ∧ arm.value.unresolvedTables.contains column.qualifier = true := by
  obtain ⟨part, stands, clauseMem, partMem, standsNear⟩ := refers.split
  obtain ⟨statement, clause⟩ := frame
  cases clause with
  | union distinct arm =>
      have unionBuilt := built.of_contains stands.contains
      obtain ⟨left, rfl⟩ := isSelect_of_union ((ordered_of_built unionBuilt).allowed _ clauseMem)
      obtain rfl := List.mem_singleton.1 partMem
      have armBuilt := unionBuilt.of_mem_children (List.mem_flatMap.2 ⟨_, clauseMem, partMem⟩)
      refine ⟨left, distinct, arm, rfl, stands, clauseMem, ?_⟩
      rcases Part.Refers.needed standsNear armBuilt with needed | provided | resolved
      · rwa [Part.needs_select] at needed
      · cases provided
      · exact absurd resolved notNear
  | _ => cases isUnion

/-- In a statement that can run by itself, every column in an arm of a union is found in a scope
around it exactly if no arm relies on the left-hand select. -/
theorem armsAreScoped_iff {statement : Statement} (built : (Part.statement statement).Built)
    (prepared : statement.checkPrepare = .ok ()) {root : Part} (isRoot : statement.IsRoot root) :
    root.ArmsAreScoped ↔ root.ArmsAreClosed := by
  have rootBuilt := isRoot.built built
  constructor
  · intro areScoped frames left distinct arm table stands unionMem needed provided
    have leftBuilt := rootBuilt.of_contains stands.contains
    have armMem : Part.select arm.value ∈ (Part.select left).children :=
      List.mem_flatMap.2 ⟨_, unionMem, .head _⟩
    rw [← Part.needs_select] at needed
    obtain ⟨near, column, refers, rfl, notNear⟩ :=
      Part.refers_of_needed _ (leftBuilt.of_mem_children armMem) needed
    have inLeft :
        (Part.select left).Refers (near ++ [⟨.select left, .union distinct arm⟩]) column :=
      .statement unionMem (.head _) refers
    have inArm : ∃ frame ∈ near ++ [⟨.select left, .union distinct arm⟩] ++ frames,
        frame.isUnion = true := ⟨⟨.select left, .union distinct arm⟩, by simp, rfl⟩
    have resolved := areScoped _ column (stands.trans inLeft) inArm
    rw [scopesOf_append, scopesOf_append, resolves_append, resolves_append] at resolved
    rcases resolved with (inNear | inUnion) | inFrames
    · exact absurd inNear.of_scopesOf notNear
    · simp [scopesOf, Frame.isUnion] at inUnion
    · exact inFrames
  · intro closed frames column refers _
    have resolved := isRoot.resolves built prepared refers (Part.needs_column column)
    obtain ⟨near, frame, far, rfl, provided, notNear⟩ := resolved.innermost
    cases isUnion : frame.isUnion with
    | false =>
        have isScope : frame ∈ scopesOf (near ++ frame :: far) :=
          List.mem_filter.2 ⟨by simp, by simp [isUnion]⟩
        exact ⟨frame, isScope, provided⟩
    | true =>
        obtain ⟨left, distinct, arm, rfl, stands, unionMem, needed⟩ :=
          needed_of_isUnion rootBuilt refers isUnion notNear
        have inFar := closed far left distinct arm _ stands unionMem needed provided
        rw [List.append_cons, scopesOf_append, resolves_append]
        exact .inr inFar

/-- A select of `foo.id`, united with an arm that reads `foo.id` from `bar`. -/
def unitedFromLeft : Select where
  clauses := (Select.ofId "foo" "foo").clauses ++ [.union false (.static (.ofId "foo" "bar"))]

theorem unitedFromLeft_built : (Part.select unitedFromLeft).Built := by
  have united : (Select.ofId "foo" "foo").union false (.static (.ofId "foo" "bar"))
      = .ok unitedFromLeft := rfl
  exact .of_pair (.selectUnion united) (Select.ofId_built "foo" "foo")
    (Select.ofId_built "foo" "bar")

theorem unitedFromLeft_prepared : (select unitedFromLeft).checkPrepare = .ok () := by rfl

/-- The arm of `unitedFromLeft` relies on the left-hand select. -/
theorem unitedFromLeft_not_scoped :
    (select unitedFromLeft).checkPrepare = .ok ()
      ∧ ¬ (Part.select unitedFromLeft).ArmsAreScoped := by
  refine ⟨unitedFromLeft_prepared, ?_⟩
  rw [armsAreScoped_iff unitedFromLeft_built unitedFromLeft_prepared .self]
  intro closed
  have needed : (Select.ofId "foo" "bar").unresolvedTables.contains "foo" = true := by rfl
  have provided : "foo" ∈ (select unitedFromLeft).identities := .head _
  have unionMem : .union false (.static (.ofId "foo" "bar")) ∈ unitedFromLeft.clauses :=
    .tail _ (.tail _ (.head _))
  have resolved := closed [] unitedFromLeft false _ "foo" (.refl _) unionMem needed provided
  exact (resolves_nil "foo").1 resolved

/-- The column `foo.id` in the arm of a built and accepted union is found in no scope around it. -/
theorem unitedFromLeft_accepted :
    (Part.select unitedFromLeft).Built ∧ (select unitedFromLeft).checkPrepare = .ok ()
      ∧ ∃ frames column, (Part.select unitedFromLeft).Refers frames column
        ∧ (∃ frame ∈ frames, frame.isUnion = true)
        ∧ ¬ Resolves (scopesOf frames) column.qualifier := by
  refine ⟨unitedFromLeft_built, unitedFromLeft_prepared, ?_⟩
  have inArm : (Part.select (.ofId "foo" "bar")).Refers _ (.ofId "foo") :=
    .statement (.head _) (.head _) (.refl _)
  refine ⟨_, .ofId "foo", .statement (.tail _ (.tail _ (.head _))) (.head _) inArm,
    ⟨_, .tail _ (.head _), rfl⟩, ?_⟩
  rintro ⟨frame, mem, provided⟩
  rw [List.mem_singleton.1 mem] at provided
  have isBar : Column.qualifier (.ofId "foo") = "bar" := List.mem_singleton.1 provided
  exact absurd isBar (by decide)

end Statement

end CheckedSql
