import CheckedSql.Proofs.Built.WellTyped

/-!
# The type of a `CASE`

The results of a `CASE` are compared with the first one that has a data type, and the
`CASE` takes its type from that one.  Comparable results are so in any order, so the order
does not decide whether the call succeeds.  Any result can be brought to the front
(`exists_rearranged_leading`), so the order decides the type as soon as two results have
different data types, and then some result does not have the type of the `CASE`.
-/

namespace CheckedSql

namespace ValueType

/-- All types that have a data type have the same one. -/
def Uniform (types : List ValueType) : Prop :=
  ∀ first ∈ types, ∀ second ∈ types, ∀ dataType ∈ first.dataType?, ∀ other ∈ second.dataType?,
    dataType = other

/-- The leading type has a data type if any has one. -/
theorem leadingType_eq (types : List ValueType) :
    (Expr.leadingType types ∈ types ∧ (Expr.leadingType types).dataType?.isSome)
      ∨ (Expr.leadingType types = null ∧ ∀ type ∈ types, type.dataType? = none) := by
  unfold Expr.leadingType
  cases found : types.find? fun type => type.dataType?.isSome with
  | none =>
    refine .inr ⟨rfl, fun type mem => ?_⟩
    exact Option.not_isSome_iff_eq_none.1 (List.find?_eq_none.1 found type mem)
  | some leading =>
    have hasData := List.find?_some found
    exact .inl ⟨List.mem_of_find?_eq_some found, hasData⟩

/-- The leading type is comparable with all types exactly if any two are comparable. -/
theorem leads_iff {types : List ValueType} :
    (∀ type ∈ types, (Expr.leadingType types).comparable type = true)
      ↔ ∀ first ∈ types, ∀ second ∈ types, first.comparable second = true := by
  constructor
  · exact fun leads first firstMem second secondMem =>
      comparable_of_leadingType leads firstMem secondMem
  · intro pairwise type mem
    rcases leadingType_eq types with ⟨leadingMem, -⟩ | ⟨isNull, -⟩
    · exact pairwise _ leadingMem type mem
    · rw [isNull]
      have withItself := pairwise type mem type mem
      cases type with
      | noValue => cases withItself
      | null | data => rfl

end ValueType

namespace Expr

/-- From one list of branches with an `ELSE` result to another, the branches are put in another
order, or the `ELSE` result is exchanged with that of a branch, any number of times. -/
inductive Rearranged : List (Expr × Expr) → Expr → List (Expr × Expr) → Expr → Prop where
  | permuted {branches others : List (Expr × Expr)} {otherwise : Expr}
      (perm : branches.Perm others) : Rearranged branches otherwise others otherwise
  | exchanged (before after : List (Expr × Expr)) (condition result otherwise : Expr) :
      Rearranged (before ++ (condition, result) :: after) otherwise
        (before ++ (condition, otherwise) :: after) result
  | trans {branches between others : List (Expr × Expr)} {first second third : Expr}
      (left : Rearranged branches first between second)
      (right : Rearranged between second others third) : Rearranged branches first others third

namespace Rearranged

variable {branches others : List (Expr × Expr)} {otherwise other : Expr}

/-- The conditions stay, in some order. -/
theorem conditions_perm (rearranged : Rearranged branches otherwise others other) :
    (branches.map Prod.fst).Perm (others.map Prod.fst) := by
  induction rearranged with
  | permuted perm => exact perm.map Prod.fst
  | exchanged before after condition result otherwise =>
    simp only [List.map_append, List.map_cons, List.Perm.refl]
  | trans _ _ left right => exact left.trans right

/-- The types of the results stay, in some order. -/
theorem resultTypes_perm (rearranged : Rearranged branches otherwise others other) :
    (resultTypes branches otherwise).Perm (resultTypes others other) := by
  induction rearranged with
  | permuted perm => exact (perm.map _).append_right _
  | exchanged before after condition result otherwise =>
    simp only [resultTypes, List.map_append, List.map_cons, List.append_assoc, List.cons_append]
    refine List.Perm.append_left _ ?_
    let between := after.map fun branch => branch.2.type
    calc
      List.Perm (result.type :: (between ++ [otherwise.type]))
          (result.type :: otherwise.type :: between) := (List.perm_append_singleton _ _).cons _
      List.Perm _ (otherwise.type :: result.type :: between) := .swap _ _ _
      List.Perm _ (otherwise.type :: (between ++ [result.type])) :=
        (List.perm_append_singleton _ _).symm.cons _
  | trans _ _ left right => exact left.trans right

theorem symm (rearranged : Rearranged branches otherwise others other) :
    Rearranged others other branches otherwise := by
  induction rearranged with
  | permuted perm => exact .permuted perm.symm
  | exchanged before after condition result otherwise =>
    exact .exchanged before after condition otherwise result
  | trans _ _ left right => exact .trans right left

end Rearranged

/-- The call succeeds exactly if the conditions are boolean and any two results are comparable. -/
theorem exists_mkCases_iff {branches : List (Expr × Expr)} {otherwise : Expr} :
    (∃ built, mkCases branches otherwise = .ok built)
      ↔ (∀ condition ∈ branches.map Prod.fst, condition.type.isBoolean = true)
        ∧ ∀ first ∈ resultTypes branches otherwise, ∀ second ∈ resultTypes branches otherwise,
          first.comparable second = true := by
  simp only [mkCases_eq_ok, ValueType.leads_iff, List.forall_mem_map, exists_and_left,
    exists_eq', and_true]

/-- Whether the call succeeds does not depend on the arrangement. -/
theorem Rearranged.succeeds {branches others : List (Expr × Expr)} {otherwise other : Expr}
    (rearranged : Rearranged branches otherwise others other)
    (succeeds : ∃ built, mkCases branches otherwise = .ok built) :
    ∃ built, mkCases others other = .ok built := by
  rw [exists_mkCases_iff] at succeeds ⊢
  obtain ⟨conditions, results⟩ := succeeds
  refine ⟨fun condition mem => conditions _ (rearranged.conditions_perm.mem_iff.2 mem), ?_⟩
  intro first firstMem second secondMem
  exact results _ (rearranged.resultTypes_perm.mem_iff.2 firstMem)
    _ (rearranged.resultTypes_perm.mem_iff.2 secondMem)

/-- Any result can be brought to the front. -/
theorem exists_rearranged_leading {branches : List (Expr × Expr)} {otherwise : Expr}
    {type : ValueType} (mem : type ∈ resultTypes branches otherwise) :
    ∃ others other rest, Rearranged branches otherwise others other
      ∧ resultTypes others other = type :: rest := by
  rcases List.mem_append.1 mem with ofBranch | ofElse
  · obtain ⟨branch, branchMem, rfl⟩ := List.mem_map.1 ofBranch
    obtain ⟨before, after, rfl⟩ := List.append_of_mem branchMem
    exact ⟨branch :: (before ++ after), otherwise, _, .permuted List.perm_middle, rfl⟩
  · obtain rfl := List.mem_singleton.1 ofElse
    cases branches with
    | nil => exact ⟨[], otherwise, [], .permuted .nil, rfl⟩
    | cons branch rest =>
      exact ⟨(branch.1, otherwise) :: rest, branch.2, _, .exchanged [] rest _ _ _, rfl⟩

/-! ## The type -/

/-- The type of a `CASE` whose results have these types. -/
def caseType (types : List ValueType) : ValueType :=
  (leadingType types).optionalIf (types.any ValueType.isOptional)

theorem type_of_mkCases {branches : List (Expr × Expr)} {otherwise built : Expr}
    (made : mkCases branches otherwise = .ok built) :
    built.type = caseType (resultTypes branches otherwise) := by
  obtain ⟨-, -, rfl⟩ := mkCases_eq_ok.1 made
  rfl

/-- With a data type, the type of a `CASE` is that of the leading result, which may be `NULL` as
soon as any result may. -/
theorem caseType_of_leading {types : List ValueType} {dataType : DataType}
    (leads : (leadingType types).dataType? = some dataType) :
    caseType types = .data dataType (types.any ValueType.isOptional) := by
  rw [caseType]
  rcases ValueType.leadingType_eq types with ⟨mem, -⟩ | ⟨isNull, -⟩
  · cases leading : leadingType types with
    | noValue | null =>
      rw [leading] at leads
      cases leads
    | data found nullable =>
      rw [leading] at leads mem
      obtain rfl := Option.some.inj leads
      cases anyOptional : types.any ValueType.isOptional with
      | true => rfl
      | false =>
        have notNullable := List.any_eq_false.1 anyOptional _ mem
        exact congrArg (ValueType.data found) (Bool.not_eq_true _ ▸ notNullable)
  · rw [isNull] at leads
    cases leads

/-- Without one, it is that of `NULL`. -/
theorem caseType_of_noData {types : List ValueType}
    (noData : ∀ type ∈ types, type.dataType? = none) : caseType types = .null := by
  rcases ValueType.leadingType_eq types with ⟨mem, hasData⟩ | ⟨isNull, -⟩
  · rw [noData _ mem] at hasData
    cases hasData
  · rw [caseType, isNull]
    cases types.any ValueType.isOptional <;> rfl

theorem dataType?_caseType (types : List ValueType) :
    (caseType types).dataType? = (leadingType types).dataType? := by
  cases leads : (leadingType types).dataType? with
  | some dataType => rw [caseType_of_leading leads]; rfl
  | none =>
    rcases ValueType.leadingType_eq types with ⟨-, hasData⟩ | ⟨-, noData⟩
    · rw [leads] at hasData
      cases hasData
    · rw [caseType_of_noData noData]
      rfl

/-- The type does not depend on the order of results that have no two data types. -/
theorem caseType_perm {types others : List ValueType} (uniform : ValueType.Uniform types)
    (perm : types.Perm others) : caseType others = caseType types := by
  rcases ValueType.leadingType_eq types with ⟨mem, hasData⟩ | ⟨-, noData⟩
  · obtain ⟨dataType, leads⟩ := Option.isSome_iff_exists.1 hasData
    rcases ValueType.leadingType_eq others with ⟨otherMem, otherHasData⟩ | ⟨-, noData⟩
    · obtain ⟨other, otherLeads⟩ := Option.isSome_iff_exists.1 otherHasData
      obtain rfl : dataType = other :=
        uniform _ mem _ (perm.mem_iff.2 otherMem) _ leads _ otherLeads
      rw [caseType_of_leading leads, caseType_of_leading otherLeads, perm.any_eq]
    · rw [noData _ (perm.mem_iff.1 mem)] at leads
      cases leads
  · rw [caseType_of_noData noData,
      caseType_of_noData fun type mem => noData type (perm.mem_iff.2 mem)]

/-- All results fit the data type of a `CASE` exactly if no two of them have different ones. -/
theorem all_fit_iff {branches : List (Expr × Expr)} {otherwise built : Expr}
    (made : mkCases branches otherwise = .ok built) {dataType : DataType}
    (typed : built.type.dataType? = some dataType) :
    (∀ type ∈ resultTypes branches otherwise, type.fits dataType = true)
      ↔ ValueType.Uniform (resultTypes branches otherwise) := by
  have comparable := (exists_mkCases_iff.1 ⟨built, made⟩).2
  rw [type_of_mkCases made, dataType?_caseType] at typed
  constructor
  · intro fit first firstMem second secondMem found foundMem other otherMem
    have only (type : ValueType) (mem : type ∈ resultTypes branches otherwise) (its : DataType)
        (isIts : its ∈ type.dataType?) : its = dataType := by
      have fits := fit type mem
      cases type with
      | noValue | null => cases isIts
      | data => obtain rfl := Option.some.inj isIts; exact beq_iff_eq.1 fits
    rw [only first firstMem found foundMem, only second secondMem other otherMem]
  · intro uniform type mem
    have withItself := comparable type mem type mem
    cases type with
    | noValue => cases withItself
    | null => rfl
    | data its nullable =>
      rcases ValueType.leadingType_eq (resultTypes branches otherwise) with
        ⟨leadingMem, -⟩ | ⟨isNull, -⟩
      · exact beq_iff_eq.2 (uniform _ mem _ leadingMem its rfl dataType typed)
      · rw [isNull] at typed
        cases typed

/-- A rearranged `CASE` always has the type of the `CASE` exactly if no two of the results have
different data types. -/
theorem same_type_iff {branches : List (Expr × Expr)} {otherwise built : Expr}
    (made : mkCases branches otherwise = .ok built) :
    (∀ others other rebuilt, Rearranged branches otherwise others other →
        mkCases others other = .ok rebuilt → rebuilt.type = built.type)
      ↔ ValueType.Uniform (resultTypes branches otherwise) := by
  constructor
  · intro same first firstMem second secondMem found isFound other isOther
    have typed (type : ValueType) (mem : type ∈ resultTypes branches otherwise) (its : DataType)
        (isIts : its ∈ type.dataType?) : built.type.dataType? = some its := by
      obtain ⟨others, other, rest, rearranged, front⟩ := exists_rearranged_leading mem
      obtain ⟨rebuilt, remade⟩ := rearranged.succeeds ⟨built, made⟩
      rw [← same others other rebuilt rearranged remade, type_of_mkCases remade,
        dataType?_caseType, front, leadingType, List.find?_cons_of_pos (by rw [isIts]; rfl)]
      exact isIts
    exact Option.some.inj ((typed first firstMem found isFound).symm.trans
      (typed second secondMem other isOther))
  · intro uniform others other rebuilt rearranged remade
    rw [type_of_mkCases remade, type_of_mkCases made]
    exact caseType_perm uniform rearranged.resultTypes_perm

/-- Whether a `CASE` can be made does not depend on the order of its results.  Its type does not
either, and it is the type of all results but the `NULL`s, exactly if no two results have different
data types. -/
theorem mkCases_rearranged (branches : List (Expr × Expr)) (otherwise : Expr) :
    (∀ others other, Rearranged branches otherwise others other →
        ((∃ built, mkCases branches otherwise = .ok built)
          ↔ ∃ rebuilt, mkCases others other = .ok rebuilt))
      ∧ ∀ built, mkCases branches otherwise = .ok built →
        ((∀ others other rebuilt, Rearranged branches otherwise others other →
            mkCases others other = .ok rebuilt → rebuilt.type = built.type)
          ↔ ValueType.Uniform (resultTypes branches otherwise))
        ∧ ∀ dataType, built.type.dataType? = some dataType →
          ((∀ type ∈ resultTypes branches otherwise, type.fits dataType = true)
            ↔ ValueType.Uniform (resultTypes branches otherwise)) := by
  refine ⟨fun others other rearranged => ?_, fun built made => ⟨same_type_iff made, ?_⟩⟩
  · exact ⟨rearranged.succeeds, rearranged.symm.succeeds⟩
  · exact fun dataType typed => all_fit_iff made typed

/-- A `CASE` that gives `TRUE` or 5. -/
def trueOrFive : Expr :=
  .cases [(.value (.bool true), .value (.bool true))] (.value (.int 5)) (.of .boolean)

/-- The same with its results exchanged. -/
def fiveOrTrue : Expr :=
  .cases [(.value (.bool true), .value (.int 5))] (.value (.bool true)) (.of .integral)

/-- The results of `trueOrFive` have two data types, so another arrangement of them has another
type, and one of them does not fit a condition. -/
theorem trueOrFive_not_uniform :
    mkCases [(.value (.bool true), .value (.bool true))] (.value (.int 5)) = .ok trueOrFive
      ∧ ¬ (∀ others other rebuilt,
        Rearranged [(.value (.bool true), .value (.bool true))] (.value (.int 5)) others other →
        mkCases others other = .ok rebuilt → rebuilt.type = trueOrFive.type)
      ∧ ¬ ∀ type ∈ resultTypes [(.value (.bool true), .value (.bool true))] (.value (.int 5)),
        type.fits .boolean = true := by
  have made : mkCases [(.value (.bool true), .value (.bool true))] (.value (.int 5))
      = .ok trueOrFive := rfl
  obtain ⟨same, fit⟩ := (mkCases_rearranged _ _).2 trueOrFive made
  rw [same, fit .boolean rfl]
  have notUniform : ¬ ValueType.Uniform
      (resultTypes [(.value (.bool true), .value (.bool true))] (.value (.int 5))) := by
    intro uniform
    cases uniform (.of .boolean) (.head _) (.of .integral) (.tail _ (.head _)) _ rfl _ rfl
  exact ⟨made, notUniform, notUniform⟩

/-- A `CASE` that can serve as a condition has a whole number among its results, and with the two
results exchanged it is a whole number. -/
theorem trueOrFive_exchanged :
    mkCases [(.value (.bool true), .value (.bool true))] (.value (.int 5)) = .ok trueOrFive
      ∧ trueOrFive.type = .of .boolean
      ∧ (Expr.value (.int 5)).type = .of .integral
      ∧ mkCases [(.value (.bool true), .value (.int 5))] (.value (.bool true)) = .ok fiveOrTrue
      ∧ fiveOrTrue.type = .of .integral
      ∧ Rearranged [(.value (.bool true), .value (.bool true))] (.value (.int 5))
        [(.value (.bool true), .value (.int 5))] (.value (.bool true)) :=
  ⟨rfl, rfl, rfl, rfl, rfl, .exchanged [] [] _ _ _⟩

end Expr

end CheckedSql
