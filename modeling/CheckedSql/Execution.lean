import CheckedSql.Statement.Verdict

/-!
# Execution

A statement runs against a *pool*, which speaks one dialect.  A statement
without parameters runs directly.  One with parameters is prepared for a
dialect and runs with a value for each of its placeholders.

Nothing reaches the pool before every check has passed: the statement can run
by itself, the dialects agree, and each value can be bound.  `Pool` is a pool
kept in memory, which gives the same rows to every call and remembers the calls
that reached it.
-/

namespace CheckedSql

/-! ## Prepared statements -/

/-- A checked and written statement. -/
structure Prepared where
  /-- The kind of the statement. -/
  kind : String
  dialect : Dialect
  written : Written
  deriving DecidableEq, Repr

/-- Checks a statement and writes it for a dialect. -/
def Statement.prepare (dialect : Dialect) (statement : Statement) : Except Error Prepared := do
  statement.checkPrepare
  return { kind := statement.kind, dialect, written := ← statement.serialize dialect }

namespace Parameter

/-- Whether a value can be bound.  NULL can only be bound where the parameter may be NULL. -/
def binds (parameter : Parameter) (value : Value) : Bool :=
  if value.isNull then parameter.type.isOptional else parameter.type.comparable value.type

/-- Fails unless a value can be bound. -/
def checkValue (parameter : Parameter) (value : Value) : Except Error Unit :=
  if parameter.binds value then .ok ()
  else .error (.invalidQuery ("parameter " ++ parameter.name ++ " of type " ++ parameter.type.text
    ++ " cannot bind " ++ value.type.text))

end Parameter

/-- Fails unless there is one value for each parameter and each can be bound, in their order. -/
def checkValues (parameters : List Parameter) (values : List Value) : Except Error Unit :=
  if values.length ≠ parameters.length then
    .error (.invalidQuery ("expected " ++ toString parameters.length ++ " parameters, got "
      ++ toString values.length))
  else (parameters.zip values).forM fun (parameter, value) => parameter.checkValue value

/-! ## Pools -/

/-- A call that reached a pool. -/
structure Call where
  sql : String
  values : List Value
  deriving DecidableEq

/-- A pool kept in memory. -/
structure Pool (Row : Type) where
  dialect : Dialect
  /-- Whether the pool refuses every call. -/
  refuses : Bool
  /-- What every call answers. -/
  rows : List Row
  /-- The calls so far, oldest first. -/
  log : List Call

namespace Pool

variable {Row : Type}

/-- Answers a call with the rows.  A refused call is not remembered. -/
def run (pool : Pool Row) (call : Call) : Except Error (List Row) × Pool Row :=
  if pool.refuses then (.error (.sqlGeneration "pool failure"), pool)
  else (.ok pool.rows, { pool with log := pool.log ++ [call] })

/-- Answers a call that may have been refused before it reached the pool. -/
def runChecked (pool : Pool Row) : Except Error Call → Except Error (List Row) × Pool Row
  | .ok call => pool.run call
  | .error error => (.error error, pool)

end Pool

/-- The first row of an answer, which has to be there. -/
def firstRow {Row : Type} : List Row → Except Error Row
  | row :: _ => .ok row
  | [] => .error (.sqlGeneration "no rows")

/-! ## Calls -/

/-- The call that runs a statement without parameters. -/
def Statement.call (dialect : Dialect) (statement : Statement) : Except Error Call := do
  statement.checkPrepare
  let written ← statement.serialize dialect
  if written.parameters.isEmpty then return { sql := written.sql, values := [] }
  else .error (.invalidQuery (statement.kind ++ " statement has "
    ++ toString written.parameters.length ++ " parameters; prepare it and bind values"))

/-- The call that runs a prepared statement with values. -/
def Prepared.call (dialect : Dialect) (prepared : Prepared) (values : List Value) :
    Except Error Call := do
  if dialect ≠ prepared.dialect then
    .error (.invalidQuery ("statement prepared for " ++ prepared.dialect.name
      ++ " cannot run on a " ++ dialect.name ++ " pool"))
  checkValues prepared.written.parameters values
  return { sql := prepared.written.sql, values }

/-- Runs a statement without parameters. -/
def Statement.run {Row : Type} (pool : Pool Row) (statement : Statement) :
    Except Error (List Row) × Pool Row :=
  pool.runChecked (statement.call pool.dialect)

/-- Runs a prepared statement with values. -/
def Prepared.run {Row : Type} (pool : Pool Row) (prepared : Prepared) (values : List Value) :
    Except Error (List Row) × Pool Row :=
  pool.runChecked (prepared.call pool.dialect values)

end CheckedSql
