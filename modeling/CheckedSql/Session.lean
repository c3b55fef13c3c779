import CheckedSql.Execution

/-!
# Sessions

A caller runs statements one after the other over several pools.  A statement without parameters
runs at once.  One with parameters is prepared, and then runs with values as often as is wanted.
`Session.perform` is one operation, and `Session.run` performs a list of them.

An operation can fail in two ways.  It is *rejected* if a check fails before the pool is asked.
Otherwise the pool answers, and may fail itself or have no row where there has to be one.
-/

namespace CheckedSql

variable {Row : Type}

/-! ## Answers -/

/-- What is wanted of the rows that a call answers. -/
inductive Fetch where
  /-- Their number. -/
  | execute
  | all
  /-- The first row, which has to be there. -/
  | one
  /-- The first row, if there is one. -/
  | optional
  deriving DecidableEq, Repr

/-- What is fetched. -/
inductive Fetched (Row : Type) where
  | affected (count : Nat)
  | rows (rows : List Row)
  | row (row : Row)
  | rowIfAny (row? : Option Row)
  deriving DecidableEq, Repr

/-- What is wanted of the rows. -/
def Fetch.read : Fetch → List Row → Except Error (Fetched Row)
  | execute, rows => .ok (.affected rows.length)
  | all, rows => .ok (.rows rows)
  | one, rows => .row <$> firstRow rows
  | optional, rows => .ok (.rowIfAny rows.head?)

/-- What an operation gives. -/
inductive Reply (Row : Type) where
  /-- There is no such pool or prepared statement. -/
  | unbound
  /-- A check failed before the pool was asked. -/
  | rejected (error : Error)
  | prepared (prepared : Prepared)
  | answered (answer : Except Error (Fetched Row))

/-! ## Operations -/

/-- Something to do with a statement.  Pools and prepared statements have numbers, in their order. -/
inductive Operation where
  | run (fetch : Fetch) (statement : Statement) (pool : Nat)
  | prepare (statement : Statement) (dialect : Dialect)
  | bind (fetch : Fetch) (prepared : Nat) (values : List Value) (pool : Nat)

/-- The statement that an operation submits. -/
def Operation.statement? : Operation → Option Statement
  | run _ statement _ => some statement
  | prepare statement _ => some statement
  | bind .. => none

/-- Pools and the statements prepared so far, oldest first. -/
structure Session (Row : Type) where
  pools : List (Pool Row)
  prepared : List Prepared

namespace Session

/-- Asks a pool to answer the call for its dialect. -/
def ask (session : Session Row) (fetch : Fetch) (index : Nat)
    (request : Dialect → Except Error Call) : Reply Row × Session Row :=
  match session.pools[index]? with
  | none => (.unbound, session)
  | some pool =>
      let (answer, after) := pool.runChecked (request pool.dialect)
      let reply : Reply Row :=
        match request pool.dialect with
        | .ok _ => .answered (answer >>= fetch.read)
        | .error error => .rejected error
      (reply, { session with pools := session.pools.set index after })

/-- Performs an operation. -/
def perform (session : Session Row) : Operation → Reply Row × Session Row
  | .run fetch statement pool => session.ask fetch pool fun dialect => statement.call dialect
  | .prepare statement dialect =>
      match statement.prepare dialect with
      | .ok prepared =>
          (.prepared prepared, { session with prepared := session.prepared ++ [prepared] })
      | .error error => (.rejected error, session)
  | .bind fetch prepared values pool =>
      match session.prepared[prepared]? with
      | none => (.unbound, session)
      | some prepared => session.ask fetch pool fun dialect => prepared.call dialect values

/-- Performs operations one after the other. -/
def run (session : Session Row) : List Operation → Session Row
  | [] => session
  | operation :: operations => (session.perform operation).2.run operations

end Session

end CheckedSql
