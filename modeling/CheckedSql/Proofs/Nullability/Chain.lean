import CheckedSql.Proofs.Built.Typed
import CheckedSql.Proofs.Nullability.Evaluation
import CheckedSql.Proofs.Nullability.Type
import CheckedSql.Proofs.Writing.PartLayout

/-!
# Chains keep their meaning

`AND` and `OR` are called on an expression one after the other.  A call that goes on with the
operator of the last one does not nest, it extends the chain that is there, and its operand may
turn out to be inactive.  So the expression at the end looks different from the calls that
made it.

It means what the calls say.  In the logic with three truth values (`Connective.combine`) a
chain comes to what its last operand makes of the chain without it (`Engine.truthOf_chain_concat`),
and a chain of one operand to what that operand comes to.  One call is one of these steps
(`Expr.hasTruth_chained`), and any number of calls follows by induction
(`Expr.connect_keeps_meaning`).
-/

namespace CheckedSql

variable {Datum : Type}

/-! ## Truth values -/

/-- `AND` or `OR` of two truth values, either of which may be unknown.  A known operand decides
alone if it is false for `AND`, and if it is true for `OR`. -/
def Connective.combine (connective : Connective) : Outcome Bool → Outcome Bool → Outcome Bool
  | .fault, _ => .fault
  | _, .fault => .fault
  | .null, .null => .null
  | .null, .datum known => if known == (connective == .or) then .datum known else .null
  | .datum known, .null => if known == (connective == .or) then .datum known else .null
  | .datum left, .datum right =>
      match connective with
      | .and => .datum (left && right)
      | .or => .datum (left || right)

namespace Engine

variable (engine : Engine Datum)

/-- The truth value of an outcome. -/
def truthOf : Outcome Datum → Outcome Bool
  | .null => .null
  | .datum found => .datum (engine.isTrue found)
  | .fault => .fault

/-- The data that stand for truth values are read as these. -/
def ReadsTruth : Prop := ∀ holds, engine.isTrue (engine.truth holds) = holds

variable {engine}

/-- One more operand of a chain is combined with what the chain comes to without it. -/
theorem truthOf_chain_concat (reads : engine.ReadsTruth) (connective : Connective)
    (outcomes : List (Outcome Datum)) (last : Outcome Datum) :
    engine.truthOf (engine.chain connective (outcomes ++ [last]))
      = connective.combine (engine.truthOf (engine.chain connective outcomes))
        (engine.truthOf last) := by
  have reads' : ∀ holds, engine.isTrue (engine.truth holds) = holds := reads
  simp only [chain, List.any_append, List.any_cons, List.any_nil, Bool.or_false]
  cases outcomes.any Outcome.isFault with
  | true => rfl
  | false =>
      cases outcomes.any (engine.decides connective) <;>
        cases outcomes.any Outcome.isNull <;>
        cases last with
        | fault =>
            cases connective <;> simp [Outcome.isFault, truthOf, Connective.combine, condition]
        | null =>
            cases connective <;>
              simp [Outcome.isFault, Outcome.isNull, decides, truthOf, Connective.combine, condition,
                reads']
        | datum found =>
            cases connective <;> cases holds : engine.isTrue found <;>
              simp [Outcome.isFault, Outcome.isNull, decides, truthOf, Connective.combine, condition,
                reads', holds]

/-- A chain of one operand comes to what its operand comes to. -/
theorem truthOf_chain_singleton (reads : engine.ReadsTruth) (connective : Connective)
    (outcome : Outcome Datum) :
    engine.truthOf (engine.chain connective [outcome]) = engine.truthOf outcome := by
  have neutral : engine.truthOf (engine.chain connective [])
      = .datum (connective == .and) := congrArg Outcome.datum (reads _)
  rw [← List.nil_append [outcome], truthOf_chain_concat reads, neutral]
  cases engine.truthOf outcome with
  | null | fault => cases connective <;> rfl
  | datum holds => cases connective <;> cases holds <;> rfl

end Engine

namespace Expr

/-! ## Calls -/

/-- A call of `AND` or `OR` with its right operand. -/
structure ChainCall where
  connective : Connective
  operand : Entry Expr

/-- The expression after calls, one after the other. -/
def connect (start : Expr) (calls : List ChainCall) : Except Error Expr :=
  calls.foldlM (fun left call => mkChain call.connective left call.operand) start

section Meaning

variable (engine : Engine Datum) (env : Environment Datum)

/-- The expression may come to this truth value. -/
def HasTruth (expr : Expr) (truth : Outcome Bool) : Prop :=
  ∃ outcome, expr.Yields engine env outcome ∧ engine.truthOf outcome = truth

/-- From one truth value the active calls lead to the other.  The inactive ones leave it as it
is. -/
def Lead : List ChainCall → Outcome Bool → Outcome Bool → Prop
  | [], before, after => after = before
  | call :: calls, before, after =>
      if call.operand.isActive then
        ∃ truth, call.operand.value.HasTruth engine env truth
          ∧ Lead calls (call.connective.combine before truth) after
      else Lead calls before after

end Meaning

variable {engine : Engine Datum} {env : Environment Datum}

theorem yieldActive_append {first second : List (Entry Expr)} {outcomes : List (Outcome Datum)} :
    YieldActive engine env (first ++ second) outcomes
      ↔ ∃ before after, YieldActive engine env first before
        ∧ YieldActive engine env second after ∧ outcomes = before ++ after := by
  induction first generalizing outcomes with
  | nil => simp [YieldActive]
  | cons entry first ih =>
      obtain ⟨presence, expr⟩ := entry
      cases active : presence.isActive with
      | false => simp [YieldActive, active, ih]
      | true =>
          simp only [List.cons_append, YieldActive, active, if_true, ih]
          constructor
          · rintro ⟨outcome, -, here, ⟨before, after, inFirst, inSecond, rfl⟩, rfl⟩
            exact ⟨outcome :: before, after, ⟨outcome, before, here, inFirst, rfl⟩, inSecond, rfl⟩
          · rintro ⟨-, after, ⟨outcome, before, here, inFirst, rfl⟩, inSecond, rfl⟩
            exact ⟨outcome, before ++ after, here, ⟨before, after, inFirst, inSecond, rfl⟩, rfl⟩

theorem hasTruth_chain {connective : Connective} {operands : List (Entry Expr)}
    {truth : Outcome Bool} :
    (chain connective operands).HasTruth engine env truth
      ↔ ∃ outcomes, YieldActive engine env operands outcomes
        ∧ engine.truthOf (engine.chain connective outcomes) = truth := by
  constructor
  · rintro ⟨outcome, ⟨outcomes, yields, rfl⟩, same⟩
    exact ⟨outcomes, yields, same⟩
  · rintro ⟨outcomes, yields, same⟩
    exact ⟨_, ⟨outcomes, yields, rfl⟩, same⟩

section Single

variable {entry : Entry Expr} {connective : Connective} {before after : Outcome Bool}

theorem yieldActive_active (active : entry.isActive = true) {outcomes : List (Outcome Datum)} :
    YieldActive engine env [entry] outcomes
      ↔ ∃ outcome, entry.value.Yields engine env outcome ∧ outcomes = [outcome] := by
  obtain ⟨presence, expr⟩ := entry
  have isActive : presence.isActive = true := active
  rw [YieldActive, if_pos isActive]
  simp [YieldActive]

theorem yieldActive_inactive (inactive : ¬ entry.isActive = true)
    {outcomes : List (Outcome Datum)} :
    YieldActive engine env [entry] outcomes ↔ outcomes = [] := by
  obtain ⟨presence, expr⟩ := entry
  have isInactive : ¬ presence.isActive = true := inactive
  rw [YieldActive, if_neg isInactive, YieldActive]

theorem lead_active (active : entry.isActive = true) :
    Lead engine env [⟨connective, entry⟩] before after
      ↔ ∃ truth, entry.value.HasTruth engine env truth
        ∧ after = connective.combine before truth := by
  rw [Lead, if_pos active]
  rfl

theorem lead_inactive (inactive : ¬ entry.isActive = true) :
    Lead engine env [⟨connective, entry⟩] before after ↔ after = before := by
  rw [Lead, if_neg inactive]
  rfl

end Single

/-- One more operand of a chain is one more call on what the chain comes to. -/
theorem hasTruth_chain_concat (reads : engine.ReadsTruth) {connective : Connective}
    {operands : List (Entry Expr)} {last : Entry Expr} {truth : Outcome Bool} :
    (chain connective (operands ++ [last])).HasTruth engine env truth
      ↔ ∃ before, (chain connective operands).HasTruth engine env before
        ∧ Lead engine env [⟨connective, last⟩] before truth := by
  simp only [hasTruth_chain, yieldActive_append]
  by_cases active : last.isActive = true
  · simp only [yieldActive_active active, lead_active active]
    constructor
    · rintro ⟨-, ⟨outcomes, -, yields, ⟨outcome, lastYields, rfl⟩, rfl⟩, rfl⟩
      refine ⟨_, ⟨outcomes, yields, rfl⟩, _, ⟨outcome, lastYields, rfl⟩, ?_⟩
      exact Engine.truthOf_chain_concat reads connective outcomes outcome
    · rintro ⟨-, ⟨outcomes, yields, rfl⟩, -, ⟨outcome, lastYields, rfl⟩, rfl⟩
      refine ⟨_, ⟨outcomes, [outcome], yields, ⟨outcome, lastYields, rfl⟩, rfl⟩, ?_⟩
      exact Engine.truthOf_chain_concat reads connective outcomes outcome
  · simp only [yieldActive_inactive active, lead_inactive active]
    constructor
    · rintro ⟨-, ⟨outcomes, -, yields, rfl, rfl⟩, rfl⟩
      rw [List.append_nil]
      exact ⟨_, ⟨outcomes, yields, rfl⟩, rfl⟩
    · rintro ⟨-, ⟨outcomes, yields, rfl⟩, rfl⟩
      exact ⟨outcomes, ⟨outcomes, [], yields, rfl, (List.append_nil outcomes).symm⟩, rfl⟩

/-- A chain of one static operand comes to what the operand comes to. -/
theorem hasTruth_chain_static (reads : engine.ReadsTruth) {connective : Connective} {expr : Expr}
    {truth : Outcome Bool} :
    (chain connective [.static expr]).HasTruth engine env truth
      ↔ expr.HasTruth engine env truth := by
  rw [hasTruth_chain]
  constructor
  · rintro ⟨-, ⟨outcome, -, yields, rfl, rfl⟩, rfl⟩
    exact ⟨outcome, yields, (Engine.truthOf_chain_singleton reads connective outcome).symm⟩
  · rintro ⟨outcome, yields, rfl⟩
    exact ⟨[outcome], ⟨outcome, [], yields, rfl, rfl⟩,
      Engine.truthOf_chain_singleton reads connective outcome⟩

/-- The meaning of a call, whether it extends a chain or starts one. -/
theorem hasTruth_chained (reads : engine.ReadsTruth) {connective : Connective} {left : Expr}
    {right : Entry Expr} {truth : Outcome Bool} :
    (chained connective left right).HasTruth engine env truth
      ↔ ∃ before, left.HasTruth engine env before
        ∧ Lead engine env [⟨connective, right⟩] before truth := by
  obtain ⟨operands, same, rfl | rfl⟩ := exists_chained connective left right
  · rw [same, hasTruth_chain_concat reads]
  · rw [same, hasTruth_chain_concat reads]
    simp only [hasTruth_chain_static reads]

/-! ## Types -/

theorem anyOptionalEntry_append (first second : List (Entry Expr)) :
    anyOptionalEntry (first ++ second) = (anyOptionalEntry first || anyOptionalEntry second) := by
  induction first with
  | nil => rfl
  | cons entry first ih =>
      obtain ⟨presence, expr⟩ := entry
      rw [List.cons_append, anyOptionalEntry, anyOptionalEntry, ih, Bool.or_assoc]

/-- A condition that calls make may be NULL if one of their operands may. -/
theorem type_chained (connective : Connective) (left : Expr) (right : Entry Expr) :
    (chained connective left right).type
      = conditionType (left.type.isOptional || right.value.type.isOptional) := by
  obtain ⟨presence, expr⟩ := right
  obtain ⟨operands, same, rfl | rfl⟩ := exists_chained connective left ⟨presence, expr⟩
  · rw [same, type, anyOptionalEntry_append, type, ValueType.isOptional_conditionType,
      anyOptionalEntry, anyOptionalEntry, Bool.or_false]
  · rw [same, type, anyOptionalEntry_append, Entry.static, anyOptionalEntry, anyOptionalEntry,
      anyOptionalEntry, anyOptionalEntry, Bool.or_false, Bool.or_false]

/-! ## Any number of calls -/

theorem connect_cons_eq_ok {start result : Expr} {call : ChainCall} {calls : List ChainCall} :
    start.connect (call :: calls) = .ok result
      ↔ ∃ next, mkChain call.connective start call.operand = .ok next
        ∧ next.connect calls = .ok result := by
  rw [connect, List.foldlM_cons, bind_eq_ok]
  rfl

theorem lead_cons {call : ChainCall} {calls : List ChainCall} {before after : Outcome Bool} :
    Lead engine env (call :: calls) before after
      ↔ ∃ between, Lead engine env [call] before between
        ∧ Lead engine env calls between after := by
  simp only [Lead]
  split
  · constructor
    · rintro ⟨truth, here, rest⟩
      exact ⟨_, ⟨truth, here, rfl⟩, rest⟩
    · rintro ⟨-, ⟨truth, here, rfl⟩, rest⟩
      exact ⟨truth, here, rest⟩
  · rw [exists_eq_left]

/-- The expression after calls means what they say about the one before. -/
theorem hasTruth_of_connect (reads : engine.ReadsTruth) {start result : Expr}
    {calls : List ChainCall} (connected : start.connect calls = .ok result)
    {truth : Outcome Bool} :
    result.HasTruth engine env truth
      ↔ ∃ before, start.HasTruth engine env before ∧ Lead engine env calls before truth := by
  induction calls generalizing start with
  | nil =>
      obtain rfl := pure_eq_ok.1 connected
      simp [Lead]
  | cons call calls ih =>
      obtain ⟨next, made, connected⟩ := connect_cons_eq_ok.1 connected
      obtain ⟨-, rfl⟩ := mkChain_eq_ok.1 made
      rw [ih connected]
      simp only [hasTruth_chained reads]
      constructor
      · rintro ⟨between, ⟨before, starts, here⟩, rest⟩
        exact ⟨before, starts, lead_cons.2 ⟨between, here, rest⟩⟩
      · rintro ⟨before, starts, leads⟩
        obtain ⟨between, here, rest⟩ := lead_cons.1 leads
        exact ⟨between, ⟨before, starts, here⟩, rest⟩

/-- The expression after calls may be NULL if the one before or some operand may, active or not. -/
theorem type_of_connect {start result : Expr} {call : ChainCall} {calls : List ChainCall}
    (connected : start.connect (call :: calls) = .ok result) :
    result.type = conditionType (start.type.isOptional
      || (call :: calls).any fun call => call.operand.value.type.isOptional) := by
  induction calls generalizing start call with
  | nil =>
      obtain ⟨next, made, connected⟩ := connect_cons_eq_ok.1 connected
      obtain ⟨-, rfl⟩ := mkChain_eq_ok.1 made
      obtain rfl := pure_eq_ok.1 connected
      rw [type_chained, List.any_cons, List.any_nil, Bool.or_false]
  | cons second calls ih =>
      obtain ⟨next, made, connected⟩ := connect_cons_eq_ok.1 connected
      obtain ⟨-, rfl⟩ := mkChain_eq_ok.1 made
      rw [ih connected, type_chained, ValueType.isOptional_conditionType, Bool.or_assoc,
        List.any_cons (a := call)]

/-- The expression after calls is a chain that starts with a static operand. -/
theorem exists_chain_of_connect {start result : Expr} (typed : start.IsTyped) {call : ChainCall}
    {calls : List ChainCall} (connected : start.connect (call :: calls) = .ok result) :
    ∃ connective first others, result = chain connective (.static first :: others) := by
  induction calls generalizing start call with
  | nil =>
      obtain ⟨next, made, connected⟩ := connect_cons_eq_ok.1 connected
      obtain rfl := pure_eq_ok.1 connected
      have resultTyped := isTyped_of_mkChain made typed
      obtain ⟨-, rfl⟩ := mkChain_eq_ok.1 made
      obtain ⟨operands, same, -⟩ := exists_chained call.connective start call.operand
      rw [same] at resultTyped ⊢
      obtain ⟨⟨first, others, isStatic⟩, -⟩ := resultTyped
      exact ⟨call.connective, first, others, by rw [isStatic]⟩
  | cons second calls ih =>
      obtain ⟨next, made, connected⟩ := connect_cons_eq_ok.1 connected
      exact ih (isTyped_of_mkChain made typed) connected

/-! ## Written operands -/

/-- Each of the separated pieces is written. -/
theorem infix_separatedBy {separator : String} {piece : List Token} {pieces : List (List Token)}
    (mem : piece ∈ pieces) : piece <:+: Token.separatedBy separator pieces := by
  induction pieces with
  | nil => cases mem
  | cons first rest ih =>
      cases rest with
      | nil =>
          obtain rfl := List.mem_singleton.1 mem
          exact List.infix_rfl
      | cons second rest =>
          rcases List.mem_cons.1 mem with rfl | later
          · exact (List.prefix_append _ _).isInfix
          · exact (ih later).trans (((List.suffix_cons _ _).trans
              (List.suffix_append first _)).isInfix)

/-- Each active operand of a chain is written. -/
theorem infix_tokens_chain {connective : Connective} {operands : List (Entry Expr)}
    {operand : Entry Expr} (mem : operand ∈ operands) (active : operand.isActive = true)
    (dialect : Dialect) :
    operand.value.tokens dialect <:+: (chain connective operands).tokens dialect := by
  have isActive : operand.value ∈ activeValues operands :=
    List.mem_map_of_mem (List.mem_filter.2 ⟨mem, active⟩)
  rw [tokens, activeTokens_eq]
  cases found : activeValues operands with
  | nil =>
      rw [found] at isActive
      cases isActive
  | cons first rest =>
      rw [found] at isActive
      cases rest with
      | nil =>
          rw [List.mem_singleton.1 isActive]
          exact List.infix_rfl
      | cons second rest =>
          have asOperand : operand.value.tokens dialect
              <:+: Token.operand operand.value.isCompound (operand.value.tokens dialect) := by
            unfold Token.operand
            split
            · exact ⟨[.text "("], [.text ")"], rfl⟩
            · exact List.infix_rfl
          refine asOperand.trans (infix_separatedBy ?_)
          let piece (operand : Expr) := (operand.isCompound, operand.tokens dialect)
          exact List.mem_map_of_mem (List.mem_map_of_mem (f := piece) isActive)

/-- However `AND` and `OR` are called on an expression, with operands that may be inactive, the
result comes to the truth value that the active calls lead to, one after the other, from what the
expression comes to: for every engine, and in every environment.  At least one operand is written,
and the result is a condition that may be NULL if the expression or some operand may, active or
not. -/
theorem connect_keeps_meaning {start result : Expr} (built : (Part.expr start).Built)
    {calls : List ChainCall} (called : calls ≠ [])
    (connected : start.connect calls = .ok result) :
    (∀ {Datum : Type} (engine : Engine Datum) (env : Environment Datum), engine.ReadsTruth →
      ∀ truth, result.HasTruth engine env truth
        ↔ ∃ before, start.HasTruth engine env before ∧ Lead engine env calls before truth)
      ∧ (∃ connective operands, result = .chain connective operands
        ∧ (∃ operand ∈ operands, operand.isActive = true)
        ∧ ∀ operand ∈ operands, operand.isActive = true →
          ∀ dialect, operand.value.tokens dialect <:+: result.tokens dialect)
      ∧ result.type = conditionType (start.type.isOptional
        || calls.any fun call => call.operand.value.type.isOptional) := by
  obtain ⟨call, calls, rfl⟩ := List.exists_cons_of_ne_nil called
  refine ⟨fun engine env reads truth => hasTruth_of_connect reads connected, ?_,
    type_of_connect connected⟩
  obtain ⟨connective, first, others, rfl⟩ :=
    exists_chain_of_connect (isTyped_of_built built) connected
  refine ⟨connective, _, rfl, ⟨.static first, .head _, rfl⟩, ?_⟩
  exact fun operand mem active dialect => infix_tokens_chain mem active dialect

end Expr

/-- An engine that knows truth values only. -/
def Engine.truths : Engine Bool where
  literal value := value == .bool true
  truth holds := holds
  isTrue holds := holds
  apply _ _ := none

/-- The calls `OR NULL`, `OR FALSE` and `AND FALSE`, of which the second one is inactive. -/
def Expr.mixedCalls : List ChainCall :=
  [⟨.or, .static (.value .null)⟩, ⟨.or, .dynamic false (.value (.bool false))⟩,
    ⟨.and, .static (.value (.bool false))⟩]

theorem Expr.mixedCalls_false :
    ∃ result, (Expr.value (.bool true)).connect mixedCalls = .ok result
      ∧ result.type = .optional .boolean
      ∧ result.HasTruth .truths ⟨fun _ => none, fun _ _ => False⟩ (.datum false) := by
  have built : (Part.expr (.value (.bool true))).Built := .made (.value _) (by simp)
  have connected : (Expr.value (.bool true)).connect mixedCalls
      = .ok (.chain .and [.static (.chain .or [.static (.value (.bool true)),
        .static (.value .null), .dynamic false (.value (.bool false))]),
        .static (.value (.bool false))]) := rfl
  obtain ⟨means, -, typed⟩ := connect_keeps_meaning built (List.cons_ne_nil _ _) connected
  refine ⟨_, connected, typed, (means _ _ ?_ _).2 ⟨.datum true, ?_, ?_⟩⟩
  · rintro (_ | _) <;> rfl
  · exact ⟨_, rfl, rfl⟩
  · exact ⟨.null, ⟨_, rfl, rfl⟩, .datum false, ⟨_, rfl, rfl⟩, rfl⟩

end CheckedSql
