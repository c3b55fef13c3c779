import CheckedSql.Proofs.Building
import CheckedSql.Proofs.Scoping.Inclusion
import Mathlib.Logic.Relation

/-!
# Definitions in order

The common table expressions of a `WITH` may read each other by name.  The constructor goes
through them once, with the names that it has passed and those among them that may be absent,
and looks at each definition for itself.

What it finds out this way is a property of the whole list (`With.Ordered`): no two
definitions have the same name, and a definition reads earlier ones only, a static one only
static ones.  The constructor accepts just the lists that are ordered
(`With.mkWith_eq_ok`).  Places then grow along every chain of reads, so no definition reads
itself by way of others.
-/

namespace CheckedSql

/-! ## Going through the definitions -/

namespace Definitions

/-- All names of earlier definitions are known. -/
theorem contains_all_foldl {earlier : List (Entry Cte)} (defined : Definitions) (name : String) :
    (earlier.foldl add defined).all.contains name = true
      ↔ defined.all.contains name = true ∨ ∃ cte ∈ earlier, cte.value.name = name := by
  induction earlier generalizing defined with
  | nil => simp
  | cons cte earlier ih => simp [ih, add, or_assoc]

/-- The names of earlier dynamic definitions are known as such. -/
theorem contains_dynamic_foldl {earlier : List (Entry Cte)} (defined : Definitions)
    (name : String) :
    (earlier.foldl add defined).dynamic.contains name = true
      ↔ defined.dynamic.contains name = true
        ∨ ∃ cte ∈ earlier, cte.isStatic = false ∧ cte.value.name = name := by
  induction earlier generalizing defined with
  | nil => simp
  | cons cte earlier ih =>
      cases isStatic : cte.isStatic <;> simp [ih, add, isStatic, or_assoc]

/-- A definition passes if what it reads of the clause is known, and known to be static if the
definition is static. -/
theorem requireDefined_eq_ok {names : List String} {defined : Definitions} {cte : Entry Cte} :
    defined.requireDefined names cte = .ok ()
      ↔ ∀ name, cte.value.needs.ctes.contains name = true →
        (name ∈ names → defined.all.contains name = true)
          ∧ (cte.isStatic = true → defined.dynamic.contains name = false) := by
  have noneMissing :
      ((cte.value.needs.ctes \ defined.all).toList.filter names.contains).isEmpty = true
        ↔ ∀ name, cte.value.needs.ctes.contains name = true → name ∈ names →
          defined.all.contains name = true := by
    have isMissing : ∀ name, name ∈ (cte.value.needs.ctes \ defined.all).toList
        ↔ cte.value.needs.ctes.contains name = true ∧ defined.all.contains name = false := by
      intro name
      rw [← Bool.not_eq_true', ← Bool.and_eq_true, ← OrderedSet.contains_difference]
      simp [OrderedSet.contains]
    simp only [List.isEmpty_iff, List.filter_eq_nil_iff, List.contains_iff_mem, isMissing]
    refine forall_congr' fun name => ?_
    cases defined.all.contains name <;> simp
  have noneDynamic :
      (!cte.isStatic || (cte.value.needs.ctes ∩ defined.dynamic).isEmpty) = true
        ↔ ∀ name, cte.value.needs.ctes.contains name = true →
          cte.isStatic = true → defined.dynamic.contains name = false := by
    simp only [Bool.or_eq_true, Bool.not_eq_true', OrderedSet.isEmpty_iff,
      OrderedSet.contains_intersection, Bool.and_eq_false_imp]
    cases cte.isStatic <;> simp
  simp only [requireDefined, check_eq_ok, require_eq_ok, noneMissing, noneDynamic]
  constructor
  · rintro ⟨known, static⟩ name read
    exact ⟨known name read, static name read⟩
  · intro passed
    exact ⟨fun name read => (passed name read).1, fun name read => (passed name read).2⟩

/-- Behind earlier definitions, a definition passes if what it reads of the clause is among them,
and static if it is static itself. -/
theorem requireDefined_foldl {names : List String} {earlier : List (Entry Cte)} {cte : Entry Cte} :
    (earlier.foldl add ⟨∅, ∅⟩).requireDefined names cte = .ok ()
      ↔ ∀ name, cte.value.needs.ctes.contains name = true →
        (name ∈ names → ∃ found ∈ earlier, found.value.name = name)
          ∧ (cte.isStatic = true →
            ∀ found ∈ earlier, found.value.name = name → found.isStatic = true) := by
  rw [requireDefined_eq_ok]
  refine forall_congr' fun name => imp_congr_right fun _ => and_congr ?_ ?_
  · simp [contains_all_foldl]
  · rw [← Bool.not_eq_true, contains_dynamic_foldl]
    refine imp_congr_right fun _ => ⟨fun unknown found mem same => ?_, fun static => ?_⟩
    · rw [← Bool.not_eq_false]
      exact fun isDynamic => unknown (.inr ⟨found, mem, isDynamic, same⟩)
    · rintro (inEmpty | ⟨found, mem, isDynamic, same⟩)
      · exact Bool.false_ne_true inEmpty
      · exact Bool.false_ne_true (isDynamic.symm.trans (static found mem same))

/-- All definitions pass if each one passes with the earlier ones. -/
theorem requireAll_eq_ok {names : List String} {defined : Definitions} {ctes : List (Entry Cte)} :
    requireAll names defined ctes = .ok ()
      ↔ ∀ (earlier : List (Entry Cte)) (cte : Entry Cte) (later : List (Entry Cte)),
        ctes = earlier ++ cte :: later →
          (earlier.foldl add defined).requireDefined names cte = .ok () := by
  induction ctes generalizing defined with
  | nil => simp [requireAll]
  | cons first rest ih =>
      rw [requireAll, check_eq_ok, ih]
      constructor
      · rintro ⟨firstPasses, restPasses⟩ earlier cte later split
        cases earlier with
        | nil =>
            obtain ⟨rfl, -⟩ := List.cons.inj split
            exact firstPasses
        | cons other earlier =>
            obtain ⟨rfl, restSplit⟩ := List.cons.inj split
            exact restPasses earlier cte later restSplit
      · intro passes
        refine ⟨passes [] first rest rfl, fun earlier cte later split => ?_⟩
        exact passes (first :: earlier) cte later (congrArg (first :: ·) split)

end Definitions

namespace With

/-! ## Ordered lists -/

/-- The definition at one place of a list reads the one at another place. -/
def Reads (ctes : List (Entry Cte)) (place other : Nat) : Prop :=
  ∃ reader ∈ ctes[place]?, ∃ read ∈ ctes[other]?,
    reader.value.needs.ctes.contains read.value.name = true

/-- A definition that is always there, at a place of a list. -/
def StaticAt (ctes : List (Entry Cte)) (place : Nat) : Prop :=
  ∃ cte ∈ ctes[place]?, cte.isStatic = true

/-- Definitions of different names that read earlier ones only, and static ones only if they are
static themselves. -/
structure Ordered (ctes : List (Entry Cte)) : Prop where
  nonempty : ctes ≠ []
  distinct : (ctes.map fun cte => cte.value.name).Nodup
  earlier : ∀ {place other}, Reads ctes place other → other < place
  static : ∀ {place other}, Reads ctes place other → StaticAt ctes place → StaticAt ctes other

variable {ctes : List (Entry Cte)}

/-- Definitions with different names are told apart by their names. -/
theorem eq_of_name_eq (distinct : (ctes.map fun cte => cte.value.name).Nodup)
    {place other : Nat} {cte found : Entry Cte} (atPlace : ctes[place]? = some cte)
    (atOther : ctes[other]? = some found) (same : cte.value.name = found.value.name) : place = other := by
  have inRange : place < (ctes.map fun cte => cte.value.name).length := by
    rw [List.length_map]
    exact (List.getElem?_eq_some_iff.1 atPlace).1
  refine (List.getElem?_inj inRange distinct).1 ?_
  rw [List.getElem?_map, List.getElem?_map, atPlace, atOther, Option.map_some, Option.map_some,
    same]

/-- The definition at a place stands behind those at the places below. -/
theorem exists_split {place : Nat} {cte : Entry Cte} (atPlace : ctes[place]? = some cte) :
    ∃ earlier later, ctes = earlier ++ cte :: later ∧ earlier.length = place := by
  obtain ⟨inRange, rfl⟩ := List.getElem?_eq_some_iff.1 atPlace
  refine ⟨ctes.take place, ctes.drop (place + 1), ?_, List.length_take_of_le (Nat.le_of_lt inRange)⟩
  rw [← List.drop_eq_getElem_cons, List.take_append_drop]

/-- The definitions in front of a place are those at the places below. -/
theorem mem_earlier_iff {earlier rest : List (Entry Cte)} {found : Entry Cte} :
    found ∈ earlier ↔ ∃ other < earlier.length, (earlier ++ rest)[other]? = some found := by
  rw [List.mem_iff_getElem?]
  refine exists_congr fun other => ⟨fun atOther => ?_, ?_⟩
  · have below := (List.getElem?_eq_some_iff.1 atOther).1
    exact ⟨below, by rwa [List.getElem?_append_left below]⟩
  · rintro ⟨below, atOther⟩
    rwa [List.getElem?_append_left below] at atOther

/-- A definition passes the rules, behind those in front of it, exactly if what it reads of the
list is in front of it, and static if it is static itself. -/
theorem requireDefined_iff {earlier later : List (Entry Cte)} {cte : Entry Cte}
    (split : ctes = earlier ++ cte :: later)
    (distinct : (ctes.map fun cte => cte.value.name).Nodup) :
    (earlier.foldl Definitions.add ⟨∅, ∅⟩).requireDefined (ctes.map fun cte => cte.value.name) cte
        = .ok ()
      ↔ ∀ other, Reads ctes earlier.length other →
        other < earlier.length ∧ (StaticAt ctes earlier.length → StaticAt ctes other) := by
  have atPlace : ctes[earlier.length]? = some cte := by simp [split]
  have inFront (found : Entry Cte) :
      found ∈ earlier ↔ ∃ other < earlier.length, ctes[other]? = some found := by
    rw [split]
    exact mem_earlier_iff
  rw [Definitions.requireDefined_foldl]
  constructor
  · rintro passed other ⟨reader, isReader, read, atOther, reads⟩
    obtain rfl : cte = reader := Option.some_inj.1 (atPlace.symm.trans isReader)
    obtain ⟨known, static⟩ := passed read.value.name reads
    have inNames : read.value.name ∈ ctes.map fun cte => cte.value.name :=
      List.mem_map_of_mem (List.mem_of_getElem? atOther)
    obtain ⟨found, foundMem, same⟩ := known inNames
    obtain ⟨place, below, atFound⟩ := (inFront found).1 foundMem
    -- the rules speak of names, and one name stands for one place
    obtain rfl := eq_of_name_eq distinct atFound atOther same
    refine ⟨below, ?_⟩
    rintro ⟨reader, isReader, isStatic⟩
    obtain rfl : cte = reader := Option.some_inj.1 (atPlace.symm.trans isReader)
    exact ⟨found, atFound, static isStatic found foundMem same⟩
  · intro rules name reads
    constructor
    · intro inNames
      obtain ⟨found, foundMem, rfl⟩ := List.mem_map.1 inNames
      obtain ⟨other, atOther⟩ := List.mem_iff_getElem?.1 foundMem
      obtain ⟨below, -⟩ := rules other ⟨cte, atPlace, found, atOther, reads⟩
      exact ⟨found, (inFront found).2 ⟨other, below, atOther⟩, rfl⟩
    · rintro isStatic found foundMem rfl
      obtain ⟨other, -, atOther⟩ := (inFront found).1 foundMem
      obtain ⟨-, static⟩ := rules other ⟨cte, atPlace, found, atOther, reads⟩
      obtain ⟨read, isRead, readStatic⟩ := static ⟨cte, atPlace, isStatic⟩
      obtain rfl : found = read := Option.some_inj.1 (atOther.symm.trans isRead)
      exact readStatic

/-- The constructor accepts a list exactly if it is ordered. -/
theorem mkWith_eq_ok {definitions : With} :
    mkWith ctes = .ok definitions ↔ Ordered ctes ∧ ⟨ctes⟩ = definitions := by
  simp only [mkWith, check_eq_ok, pure_eq_ok, require_eq_ok, requireEmpty_eq_ok,
    isEmpty_duplicates_iff, Bool.not_eq_true', List.isEmpty_eq_false_iff,
    Definitions.requireAll_eq_ok]
  constructor
  · rintro ⟨nonempty, distinct, passed, rfl⟩
    have reads : ∀ {place other}, Reads ctes place other →
        other < place ∧ (StaticAt ctes place → StaticAt ctes other) := by
      rintro place other ⟨reader, atPlace, read⟩
      obtain ⟨earlier, later, split, rfl⟩ := exists_split atPlace
      exact (requireDefined_iff split distinct).1 (passed earlier reader later split) other
        ⟨reader, atPlace, read⟩
    exact ⟨⟨nonempty, distinct, fun read => (reads read).1, fun read => (reads read).2⟩, rfl⟩
  · rintro ⟨ordered, rfl⟩
    refine ⟨ordered.nonempty, ordered.distinct, fun earlier cte later split => ?_, rfl⟩
    rw [requireDefined_iff split ordered.distinct]
    exact fun other read => ⟨ordered.earlier read, ordered.static read⟩

/-! ## What order gives -/

/-- What a definition of a checked `WITH` reads of the same clause is defined in front of it, and
statically so if the definition is static. -/
theorem exists_earlier {earlier later : List (Entry Cte)} {cte : Entry Cte} {name : String}
    (made : mkWith (earlier ++ cte :: later) = .ok ⟨earlier ++ cte :: later⟩)
    (read : cte.value.needs.ctes.contains name = true)
    (known : ∃ other ∈ earlier ++ cte :: later, other.value.name = name) :
    ∃ other ∈ earlier, other.value.name = name
      ∧ (cte.isStatic = true → other.isStatic = true) := by
  obtain ⟨ordered, -⟩ := mkWith_eq_ok.1 made
  obtain ⟨other, otherMem, rfl⟩ := known
  obtain ⟨place, atOther⟩ := List.mem_iff_getElem?.1 otherMem
  have atCte : (earlier ++ cte :: later)[earlier.length]? = some cte := by simp
  have reads : Reads (earlier ++ cte :: later) earlier.length place :=
    ⟨cte, atCte, other, atOther, read⟩
  refine ⟨other, mem_earlier_iff.2 ⟨place, ordered.earlier reads, atOther⟩, rfl, ?_⟩
  intro isStatic
  obtain ⟨found, isFound, foundStatic⟩ := ordered.static reads ⟨cte, atCte, isStatic⟩
  obtain rfl : other = found := Option.some_inj.1 (atOther.symm.trans isFound)
  exact foundStatic

/-- Along every chain of reads, places go down, and what a static definition gets to is static. -/
theorem Ordered.chain (ordered : Ordered ctes) {place other : Nat}
    (chain : Relation.TransGen (Reads ctes) place other) :
    other < place ∧ (StaticAt ctes place → StaticAt ctes other) := by
  induction chain with
  | single read => exact ⟨ordered.earlier read, ordered.static read⟩
  | tail _ read ih =>
      obtain ⟨below, static⟩ := ih
      refine ⟨Nat.lt_trans (ordered.earlier read) below, fun isStatic => ?_⟩
      exact ordered.static read (static isStatic)

end With

theorem Cte.contains_entriesNeeds_ctes (ctes : List (Entry Cte)) (name : String) :
    (entriesNeeds ctes).ctes.contains name = true
      ↔ ∃ cte ∈ ctes, cte.value.needs.ctes.contains name = true := by
  induction ctes with
  | nil => simp [entriesNeeds]
  | cons cte ctes ih =>
      obtain ⟨presence, cte⟩ := cte
      simp [entriesNeeds, ih]

/-- A `WITH` reads what its definitions read and none of them defines. -/
theorem Clause.contains_with_needs (ctes : List (Entry Cte)) (name : String) :
    (Clause.with ctes).names.needs.ctes.contains name = true
      ↔ (∃ cte ∈ ctes, cte.value.needs.ctes.contains name = true)
        ∧ ¬ ∃ cte ∈ ctes, cte.value.name = name := by
  simp only [names, withNames, OrderedSet.contains_difference, OrderedSet.contains_ofList,
    Bool.and_eq_true, Cte.contains_entriesNeeds_ctes, Bool.not_eq_true', List.any_map,
    List.any_eq_false, Function.comp_apply, beq_iff_eq, not_exists, not_and]

namespace With

/-- `WITH` takes a list of definitions exactly if it is ordered.  In a list that it takes, no
definition reads itself by way of others, a static definition gets to static ones only, and the
clause reads what its definitions read and none of them defines. -/
theorem mkWith_iff_ordered (ctes : List (Entry Cte)) :
    ((∃ definitions, mkWith ctes = .ok definitions) ↔ Ordered ctes)
      ∧ ∀ definitions, mkWith ctes = .ok definitions →
        definitions.ctes = ctes
          ∧ (∀ place, ¬ Relation.TransGen (Reads ctes) place place)
          ∧ (∀ place other, Relation.TransGen (Reads ctes) place other →
            StaticAt ctes place → StaticAt ctes other)
          ∧ ∀ name, (Clause.with definitions.ctes).names.needs.ctes.contains name = true
            ↔ (∃ cte ∈ ctes, cte.value.needs.ctes.contains name = true)
              ∧ ¬ ∃ cte ∈ ctes, cte.value.name = name := by
  refine ⟨⟨?_, fun ordered => ⟨⟨ctes⟩, mkWith_eq_ok.2 ⟨ordered, rfl⟩⟩⟩, ?_⟩
  · rintro ⟨definitions, made⟩
    exact (mkWith_eq_ok.1 made).1
  · intro definitions made
    obtain ⟨ordered, rfl⟩ := mkWith_eq_ok.1 made
    refine ⟨rfl, fun place chain => ?_, fun place other chain => (ordered.chain chain).2, ?_⟩
    · exact Nat.lt_irrefl place (ordered.chain chain).1
    · exact Clause.contains_with_needs ctes

/-- A definition of `a`, and one of `b` that reads `a` and may be absent. -/
def twoNumbers : List (Entry Cte) :=
  [.static ⟨"a", .ofId "foo" "foo", [], (Select.ofId "foo" "foo").fields⟩,
    .dynamic true ⟨"b", .ofCte "a", [], (Select.ofId "foo" "foo").fields⟩]

/-- `WITH` takes the two in this order only. -/
theorem twoNumbers_ordered :
    mkWith twoNumbers = .ok ⟨twoNumbers⟩
      ∧ (∀ place, ¬ Relation.TransGen (Reads twoNumbers) place place)
      ∧ (Clause.with twoNumbers).names.needs.ctes.contains "a" = false
      ∧ ¬ ∃ definitions, mkWith twoNumbers.reverse = .ok definitions := by
  have made : mkWith twoNumbers = .ok ⟨twoNumbers⟩ := rfl
  obtain ⟨-, acyclic, -, needed⟩ := (mkWith_iff_ordered twoNumbers).2 ⟨twoNumbers⟩ made
  refine ⟨made, acyclic, ?_, ?_⟩
  · rw [← Bool.not_eq_true, needed]
    rintro ⟨-, unknown⟩
    exact unknown ⟨_, .head _, rfl⟩
  · rw [(mkWith_iff_ordered twoNumbers.reverse).1]
    intro ordered
    have read : Reads twoNumbers.reverse 0 1 := ⟨_, rfl, _, rfl, rfl⟩
    exact Nat.not_lt_zero 1 (ordered.earlier read)

end With

end CheckedSql
