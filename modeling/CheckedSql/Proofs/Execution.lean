import CheckedSql.Proofs.Built.Basic
import CheckedSql.Proofs.Verdict
import CheckedSql.Session
import Mathlib.Data.List.Basic

/-!
# What reaches a pool

A pool remembers the calls that reached it.  `Session.run_sound` says what they can be, whatever a
caller does with fresh pools: each stems from a statement that was submitted and passed
`checkPrepare`, has the text of that statement in the dialect of the pool, and has a value for each
parameter that can be bound there.  An operation that is rejected leaves no trace, and a call
whose checks pass reaches a pool that refuses nothing.

The proof follows the operations.  `Session.Sound` holds of fresh sessions and is kept by every
operation (`Session.Sound.perform`).  It also says where prepared statements come from, since a
call of one does not check the statement again.
-/

namespace CheckedSql

variable {Row : Type}

/-! ## Calls that were checked -/

/-- A value can be bound to the parameter: NULL only if the type is optional, and another value if
its type is comparable. -/
structure Parameter.Accepts (parameter : Parameter) (value : Value) : Prop where
  null : value.isNull = true → parameter.type.isOptional = true
  present : value.isNull = false → parameter.type.comparable value.type = true

theorem Parameter.accepts_of_binds {parameter : Parameter} {value : Value}
    (binds : parameter.binds value = true) : parameter.Accepts value := by
  rw [Parameter.binds] at binds
  split at binds
  · next isNull =>
      exact ⟨fun _ => binds, fun present => absurd isNull (Bool.eq_false_iff.1 present)⟩
  · next present => exact ⟨fun isNull => absurd isNull present, fun _ => binds⟩

/-- A call with the text of a written statement and a value for each of its parameters. -/
structure Call.Fits (call : Call) (written : Written) : Prop where
  sql : call.sql = written.sql
  count : call.values.length = written.parameters.length
  accepts : ∀ (position : Nat) (parameter : Parameter) (value : Value),
    written.parameters[position]? = some parameter → call.values[position]? = some value →
    parameter.Accepts value

/-- A call that runs a checked statement, written in the dialect. -/
structure Call.StemsFrom (call : Call) (statement : Statement) (dialect : Dialect) : Prop where
  checked : statement.checkPrepare = .ok ()
  written : ∃ written, statement.serialize dialect = .ok written ∧ call.Fits written

/-- Values that were accepted fit what is written. -/
theorem Written.fits_of_checkValues {written : Written} {values : List Value}
    (accepted : checkValues written.parameters values = .ok ()) :
    Call.Fits ⟨written.sql, values⟩ written := by
  obtain ⟨sameLength, binds⟩ := checkValues_eq_ok.1 accepted
  refine ⟨rfl, sameLength, fun position parameter value isParameter isValue => ?_⟩
  have paired : (written.parameters.zip values)[position]? = some (parameter, value) :=
    List.getElem?_zip_eq_some.2 ⟨isParameter, isValue⟩
  exact Parameter.accepts_of_binds (binds _ (List.mem_of_getElem? paired))

theorem Statement.prepare_eq_ok {statement : Statement} {dialect : Dialect} {prepared : Prepared} :
    statement.prepare dialect = .ok prepared
      ↔ statement.checkPrepare = .ok () ∧ prepared.kind = statement.kind
        ∧ prepared.dialect = dialect ∧ statement.serialize dialect = .ok prepared.written := by
  rw [prepare, bind_eq_ok]
  constructor
  · rintro ⟨⟨⟩, checked, rest⟩
    obtain ⟨written, serialized, same⟩ := bind_eq_ok.1 rest
    cases pure_eq_ok.1 same
    exact ⟨checked, rfl, rfl, serialized⟩
  · obtain ⟨kind, dialect, written⟩ := prepared
    rintro ⟨checked, rfl, rfl, serialized⟩
    exact ⟨(), checked, bind_eq_ok.2 ⟨written, serialized, rfl⟩⟩

theorem Statement.call_eq_ok {statement : Statement} {dialect : Dialect} {call : Call} :
    statement.call dialect = .ok call
      ↔ statement.checkPrepare = .ok () ∧ ∃ written, statement.serialize dialect = .ok written
        ∧ written.parameters = [] ∧ call = ⟨written.sql, []⟩ := by
  rw [Statement.call, bind_eq_ok]
  constructor
  · rintro ⟨⟨⟩, checked, rest⟩
    obtain ⟨written, serialized, last⟩ := bind_eq_ok.1 rest
    split at last
    · next noParameters =>
        cases pure_eq_ok.1 last
        exact ⟨checked, written, serialized, List.isEmpty_iff.1 noParameters, rfl⟩
    · cases last
  · rintro ⟨checked, written, serialized, noParameters, rfl⟩
    refine ⟨(), checked, bind_eq_ok.2 ⟨written, serialized, ?_⟩⟩
    rw [if_pos (List.isEmpty_iff.2 noParameters)]
    rfl

theorem Prepared.call_eq_ok {prepared : Prepared} {dialect : Dialect} {values : List Value}
    {call : Call} :
    prepared.call dialect values = .ok call
      ↔ prepared.dialect = dialect ∧ checkValues prepared.written.parameters values = .ok ()
        ∧ call = ⟨prepared.written.sql, values⟩ := by
  rw [Prepared.call]
  constructor
  · intro called
    split at called
    · cases called
    · next same =>
        obtain ⟨⟨⟩, accepted, last⟩ := bind_eq_ok.1 called
        cases pure_eq_ok.1 last
        exact ⟨(Decidable.not_not.1 same).symm, accepted, rfl⟩
  · rintro ⟨rfl, accepted, rfl⟩
    rw [if_neg (Decidable.not_not.2 rfl)]
    exact bind_eq_ok.2 ⟨(), accepted, rfl⟩

/-- The call that runs a statement stems from it. -/
theorem Statement.stemsFrom_of_call {statement : Statement} {dialect : Dialect} {call : Call}
    (called : statement.call dialect = .ok call) : call.StemsFrom statement dialect := by
  obtain ⟨checked, written, serialized, noParameters, rfl⟩ := Statement.call_eq_ok.1 called
  refine ⟨checked, written, serialized, Written.fits_of_checkValues ?_⟩
  rw [noParameters]
  rfl

/-- The call that runs a prepared statement stems from the statement it was made of. -/
theorem Prepared.stemsFrom_of_call {statement : Statement} {prepared : Prepared}
    {dialect : Dialect} {values : List Value} {call : Call}
    (made : statement.prepare prepared.dialect = .ok prepared)
    (called : prepared.call dialect values = .ok call) : call.StemsFrom statement dialect := by
  obtain ⟨checked, -, -, serialized⟩ := Statement.prepare_eq_ok.1 made
  obtain ⟨rfl, accepted, rfl⟩ := Prepared.call_eq_ok.1 called
  exact ⟨checked, prepared.written, serialized, Written.fits_of_checkValues accepted⟩

/-! ## One operation -/

namespace Pool

/-- The pool with one more call that reached it. -/
def remember (pool : Pool Row) (call : Call) : Pool Row := { pool with log := pool.log ++ [call] }

/-- A pool that refuses nothing answers a call and remembers it. -/
theorem runChecked_ok {pool : Pool Row} (accepts : pool.refuses = false) {call : Call} :
    pool.runChecked (.ok call) = (.ok pool.rows, pool.remember call) := by
  rw [runChecked, run, if_neg (Bool.eq_false_iff.1 accepts)]
  rfl

/-- Answering a call leaves the dialect as it is. -/
@[simp] theorem dialect_runChecked (pool : Pool Row) (request : Except Error Call) :
    (pool.runChecked request).2.dialect = pool.dialect := by
  cases request with
  | error => rfl
  | ok call =>
      rw [runChecked, run]
      split <;> rfl

/-- A remembered call was there before or is the one that was asked for. -/
theorem mem_log_runChecked {pool : Pool Row} {request : Except Error Call} {call : Call}
    (mem : call ∈ (pool.runChecked request).2.log) : call ∈ pool.log ∨ request = .ok call := by
  cases request with
  | error => exact .inl mem
  | ok asked =>
      rw [runChecked, run] at mem
      split at mem
      · exact .inl mem
      · rcases List.mem_append.1 mem with before | isAsked
        · exact .inl before
        · obtain rfl := List.mem_singleton.1 isAsked
          exact .inr rfl

end Pool

namespace Session

/-- Where the prepared statements and the remembered calls of a session come from, if these
statements were submitted. -/
structure Sound (submitted : List Statement) (session : Session Row) : Prop where
  prepared : ∀ prepared ∈ session.prepared, ∃ statement ∈ submitted,
    statement.prepare prepared.dialect = .ok prepared
  recorded : ∀ pool ∈ session.pools, ∀ call ∈ pool.log, ∃ statement ∈ submitted,
    call.StemsFrom statement pool.dialect

variable {submitted : List Statement} {session : Session Row}

/-- More statements may have been submitted. -/
theorem Sound.mono {more : List Statement} (sound : session.Sound submitted)
    (subset : submitted ⊆ more) : session.Sound more where
  prepared prepared mem := by
    obtain ⟨statement, isSubmitted, made⟩ := sound.prepared prepared mem
    exact ⟨statement, subset isSubmitted, made⟩
  recorded pool mem call called := by
    obtain ⟨statement, isSubmitted, stems⟩ := sound.recorded pool mem call called
    exact ⟨statement, subset isSubmitted, stems⟩

/-- Asking for a call that stems from a submitted statement keeps a session sound. -/
theorem Sound.ask (sound : session.Sound submitted) (fetch : Fetch) (index : Nat)
    {request : Dialect → Except Error Call}
    (stems : ∀ dialect call, request dialect = .ok call → ∃ statement ∈ submitted,
      call.StemsFrom statement dialect) : (session.ask fetch index request).2.Sound submitted := by
  rw [Session.ask]
  split
  · exact sound
  · next pool found =>
      refine ⟨sound.prepared, fun other mem call called => ?_⟩
      rcases List.mem_or_eq_of_mem_set mem with before | rfl
      · exact sound.recorded other before call called
      · rw [Pool.dialect_runChecked]
        rcases Pool.mem_log_runChecked called with before | asked
        · exact sound.recorded pool (List.mem_of_getElem? found) call before
        · exact stems _ call asked

/-- An operation keeps a session sound, with the statement that it submits. -/
theorem Sound.perform (sound : session.Sound submitted) (operation : Operation) :
    (session.perform operation).2.Sound (submitted ++ operation.statement?.toList) := by
  have known := sound.mono (List.subset_append_left submitted operation.statement?.toList)
  cases operation with
  | run fetch statement pool =>
      refine known.ask fetch pool fun dialect call called => ?_
      exact ⟨statement, List.mem_append_right _ (.head _), Statement.stemsFrom_of_call called⟩
  | prepare statement dialect =>
      rw [Session.perform]
      cases made : statement.prepare dialect with
      | error error => exact known
      | ok prepared =>
          refine ⟨fun other mem => ?_, known.recorded⟩
          rcases List.mem_append.1 mem with before | isNew
          · exact known.prepared other before
          · obtain rfl := List.mem_singleton.1 isNew
            obtain ⟨-, -, rfl, -⟩ := Statement.prepare_eq_ok.1 made
            exact ⟨statement, List.mem_append_right _ (.head _), made⟩
  | bind fetch index values pool =>
      rw [Session.perform]
      split
      · exact known
      · next prepared found =>
          obtain ⟨statement, isSubmitted, made⟩ :=
            known.prepared prepared (List.mem_of_getElem? found)
          refine known.ask fetch pool fun dialect call called => ?_
          exact ⟨statement, isSubmitted, Prepared.stemsFrom_of_call made called⟩

/-- The dialects of the pools, in their order. -/
def dialects (session : Session Row) : List Dialect := session.pools.map Pool.dialect

theorem dialects_ask (session : Session Row) (fetch : Fetch) (index : Nat)
    (request : Dialect → Except Error Call) :
    (session.ask fetch index request).2.dialects = session.dialects := by
  rw [Session.ask]
  split
  · rfl
  · next pool found =>
      obtain ⟨inside, rfl⟩ := List.getElem?_eq_some_iff.1 found
      have here : index < (session.pools.map Pool.dialect).length := by rwa [List.length_map]
      rw [dialects, List.map_set, Pool.dialect_runChecked, ← List.getElem_map Pool.dialect]
      exact List.set_getElem_self here

theorem dialects_perform (session : Session Row) (operation : Operation) :
    (session.perform operation).2.dialects = session.dialects := by
  cases operation with
  | run fetch statement pool => exact session.dialects_ask _ _ _
  | prepare statement dialect =>
      rw [Session.perform]
      split <;> rfl
  | bind fetch index values pool =>
      rw [Session.perform]
      split
      · rfl
      · exact session.dialects_ask _ _ _

/-- A pool that refuses nothing remembers the call that it is asked for. -/
theorem remember_of_ask {fetch : Fetch} {index : Nat} {request : Dialect → Except Error Call}
    {pool : Pool Row} {call : Call} (found : session.pools[index]? = some pool)
    (accepts : pool.refuses = false) (asked : request pool.dialect = .ok call) :
    (session.ask fetch index request).2.pools[index]? = some (pool.remember call) := by
  obtain ⟨inside, rfl⟩ := List.getElem?_eq_some_iff.1 found
  simp only [Session.ask, found, asked, Pool.runChecked_ok accepts]
  exact List.getElem?_set_self inside

theorem ask_eq_self_of_rejected {fetch : Fetch} {index : Nat}
    {request : Dialect → Except Error Call} {error : Error}
    (rejected : (session.ask fetch index request).1 = .rejected error) :
    (session.ask fetch index request).2 = session := by
  rw [Session.ask] at rejected ⊢
  cases found : session.pools[index]? with
  | none => rfl
  | some pool =>
      rw [found] at rejected
      cases asked : request pool.dialect with
      | ok call => simp [asked] at rejected
      | error error =>
          obtain ⟨inside, rfl⟩ := List.getElem?_eq_some_iff.1 found
          simp only [Pool.runChecked, asked, List.set_getElem_self]

/-- A rejected operation changes nothing. -/
theorem perform_eq_self_of_rejected {operation : Operation} {error : Error}
    (rejected : (session.perform operation).1 = .rejected error) :
    (session.perform operation).2 = session := by
  cases operation with
  | run fetch statement pool => exact ask_eq_self_of_rejected rejected
  | prepare statement dialect =>
      rw [Session.perform] at rejected ⊢
      split
      · next prepared made => simp [made] at rejected
      · rfl
  | bind fetch index values pool =>
      rw [Session.perform] at rejected ⊢
      split
      · rfl
      · next prepared found =>
          simp only [found] at rejected
          exact ask_eq_self_of_rejected rejected

/-! ## A run -/

/-- The statements that operations submit. -/
def submittedBy (operations : List Operation) : List Statement :=
  operations.flatMap fun operation => operation.statement?.toList

/-- Operations keep a session sound, with the statements that they submit. -/
theorem Sound.run (sound : session.Sound submitted) (operations : List Operation) :
    (session.run operations).Sound (submitted ++ submittedBy operations) := by
  induction operations generalizing session submitted with
  | nil =>
      rw [submittedBy, List.flatMap_nil, List.append_nil]
      exact sound
  | cons operation operations ih =>
      rw [submittedBy, List.flatMap_cons, ← List.append_assoc]
      exact ih (sound.perform operation)

theorem dialects_run (session : Session Row) (operations : List Operation) :
    (session.run operations).dialects = session.dialects := by
  induction operations generalizing session with
  | nil => rfl
  | cons operation operations ih => exact (ih _).trans (session.dialects_perform operation)

/-- Nothing has been done yet. -/
structure Fresh (session : Session Row) : Prop where
  prepared : session.prepared = []
  logs : ∀ pool ∈ session.pools, pool.log = []

theorem Fresh.sound (fresh : session.Fresh) : session.Sound [] where
  prepared prepared mem := by
    rw [fresh.prepared] at mem
    cases mem
  recorded pool mem call called := by
    rw [fresh.logs pool mem] at called
    cases called

/-- After any operations on a fresh session, every remembered call stems from a submitted statement,
which passed its checks and is written in the dialect of the pool.  The pools still have their
dialects, and an operation that is rejected then changes nothing.  A pool that refuses nothing
remembers each call whose checks pass. -/
theorem run_sound (fresh : session.Fresh) (operations : List Operation) :
    (∀ pool ∈ (session.run operations).pools, ∀ call ∈ pool.log,
        ∃ statement ∈ submittedBy operations, call.StemsFrom statement pool.dialect)
      ∧ (session.run operations).dialects = session.dialects
      ∧ (∀ operation error, ((session.run operations).perform operation).1 = .rejected error →
        ((session.run operations).perform operation).2 = session.run operations)
      ∧ ∀ index pool, (session.run operations).pools[index]? = some pool → pool.refuses = false →
        (∀ fetch statement written, statement.checkPrepare = .ok () →
          statement.serialize pool.dialect = .ok written → written.parameters = [] →
          ((session.run operations).perform (.run fetch statement index)).2.pools[index]?
            = some (pool.remember ⟨written.sql, []⟩))
        ∧ ∀ fetch place prepared values, (session.run operations).prepared[place]? = some prepared →
          prepared.dialect = pool.dialect →
          checkValues prepared.written.parameters values = .ok () →
          ((session.run operations).perform (.bind fetch place values index)).2.pools[index]?
            = some (pool.remember ⟨prepared.written.sql, values⟩) := by
  refine ⟨(fresh.sound.run operations).recorded, dialects_run session operations, ?_, ?_⟩
  · intro operation error
    exact perform_eq_self_of_rejected
  · intro index pool found accepts
    constructor
    · intro fetch statement written checked serialized noParameters
      exact remember_of_ask found accepts
        (Statement.call_eq_ok.2 ⟨checked, written, serialized, noParameters, rfl⟩)
    · intro fetch place prepared values isPrepared sameDialect accepted
      simp only [perform, isPrepared]
      exact remember_of_ask found accepts (Prepared.call_eq_ok.2 ⟨sameDialect, accepted, rfl⟩)

/-! ### A prepared deletion -/

/-- A pool of the dialect that nobody has used. -/
def ofDialect (dialect : Dialect) : Session Row := ⟨[⟨dialect, false, [], []⟩], []⟩

/-- The deletion of the row with a number. -/
def deletion : Statement :=
  .delete ⟨[.target .deleteFrom (.ofId "foo"), .where (some (.static (.binary .eq
    (.column (.ofId "foo")) (.parameter ⟨"number", .of .integral⟩) (.of .boolean))))]⟩

/-- The deletion runs twice, the first time with NULL. -/
def deletions : List Operation :=
  [.prepare deletion .postgres, .bind .execute 0 [.null] 0, .bind .execute 0 [.int 5] 0]

theorem ofDialect_fresh (dialect : Dialect) : (ofDialect dialect : Session Row).Fresh where
  prepared := rfl
  logs := by
    rw [ofDialect, List.forall_mem_singleton]

/-- The call with a number reaches the pool. -/
theorem deletions_sound :
    (ofDialect .postgres : Session Unit).Fresh
      ∧ ∃ pool, ((ofDialect .postgres : Session Unit).run deletions).pools = [pool]
        ∧ pool.log = [⟨"DELETE FROM foo WHERE foo.id = $1", [.int 5]⟩]
        ∧ ∃ statement ∈ submittedBy deletions,
          Call.StemsFrom ⟨"DELETE FROM foo WHERE foo.id = $1", [.int 5]⟩ statement .postgres := by
  let call : Call := ⟨"DELETE FROM foo WHERE foo.id = $1", [.int 5]⟩
  have pools : ((ofDialect .postgres : Session Unit).run deletions).pools
      = [⟨.postgres, false, [], [call]⟩] := by rfl
  have fresh : (ofDialect .postgres : Session Unit).Fresh := ofDialect_fresh .postgres
  have sound := (run_sound fresh deletions).1
  rw [pools, List.forall_mem_singleton, List.forall_mem_singleton] at sound
  exact ⟨fresh, _, pools, rfl, sound⟩

end Session

end CheckedSql
