import CheckedSql.Entry
import CheckedSql.Operator
import CheckedSql.Schema
import CheckedSql.Value

/-!
# Abstract syntax

Expressions, selects, clauses, table references and common table expressions
contain each other, so they are one family of types.  A `Select` is a list of
clauses, an expression may contain a select as a condition or as a value, and
a table reference may contain one as a table.

The types fix the shape only.  Which trees are well formed is decided by the
functions that build them: an operator checks its operands, a clause its
arguments, and a statement the order of its clauses.  A binary expression, a
`CASE` and every derived table keep the type that was found for them.
-/

namespace CheckedSql

/-! ## Kinds -/

/-- The aggregate functions. -/
inductive AggregateFunction where
  | count
  | sum
  | avg
  | min
  | max
  deriving DecidableEq, Repr

/-- An aggregate function with its modifiers. -/
structure AggregateCall where
  function : AggregateFunction
  distinct : Bool
  /-- Whether the function runs as a window over all rows. -/
  overAll : Bool
  deriving DecidableEq, Repr

/-- The kinds of joins. -/
inductive JoinKind where
  | inner
  | leftOuter
  | rightOuter
  | fullOuter
  | cross
  deriving DecidableEq, Repr

/-- The direction of a sort order. -/
inductive SortDirection where
  | ascending
  | descending
  deriving DecidableEq, Repr

/-- Where a sort order puts NULL. -/
inductive NullsOrder where
  | first
  | last
  deriving DecidableEq, Repr

/-- What a statement does to its target table. -/
inductive TargetKind where
  | insertInto
  | update
  | deleteFrom
  deriving DecidableEq, Repr

/-- The two clauses that count rows. -/
inductive LimitKind where
  | limit
  | offset
  deriving DecidableEq, Repr

/-- The two clauses that name tables to read from. -/
inductive SourceKind where
  | from
  | using
  deriving DecidableEq, Repr

/-- A common table expression used as a table.  A reference made from a bare name has no fields. -/
structure CteRef where
  name : String
  alias? : Option String
  fields : List ResultField
  deriving DecidableEq, Repr

/-! ## The family -/

mutual

/-- An expression. -/
inductive Expr where
  | column (column : Column)
  | value (value : Value)
  | parameter (parameter : Parameter)
  | unary (operator : UnaryOperator) (operand : Expr)
  | binary (operator : Operator) (left right : Expr) (type : ValueType)
  /-- Two texts, joined. -/
  | concat (left right : Expr)
  /-- A chain of `AND` or of `OR`. -/
  | chain (connective : Connective) (operands : List (Entry Expr))
  /-- `IN` and `NOT IN`. -/
  | within (negated : Bool) (tested : Expr) (items : List Expr)
  | between (tested low high : Expr)
  /-- `CASE`, with its conditions and results. -/
  | cases (branches : List (Expr × Expr)) (otherwise : Expr) (type : ValueType)
  /-- An aggregate function.  Without an argument it is `COUNT(*)`. -/
  | aggregate (call : AggregateCall) (argument? : Option Expr)
  /-- An expression declared to be a `GROUP BY` entry. -/
  | groupKey (inner : Expr)
  | existsIn (select : Select)
  /-- A select with one column, used as a value. -/
  | subquery (select : Select)

/-- A `SELECT` statement. -/
structure Select where
  clauses : List Clause

/-- A named column of a result row. -/
structure SelectColumn where
  expr : Expr
  name : String
  /-- Whether the name is written. -/
  aliased : Bool

/-- A value for a column.  Without an expression it is the default of the column. -/
structure Assignment where
  column : Column
  value? : Option Expr

/-- An expression to sort by. -/
structure SortOrder where
  expr : Expr
  direction : SortDirection
  nulls? : Option NullsOrder

/-- What an `INSERT` puts into its table. -/
inductive InsertValues where
  | defaultValues
  | set (assignments : List (Entry Assignment))
  | rows (columns : List Column) (rows : List (List Expr))

/-- What an `INSERT` does about a row that is there already. -/
inductive ConflictAction where
  | doNothing
  | doUpdate (assignments : List (Entry Assignment)) (condition? : Option (Entry Expr))

/-- A clause of a statement. -/
inductive Clause where
  | with (ctes : List (Entry Cte))
  | columns (distinct : Bool) (columns : List (Entry SelectColumn))
  | target (kind : TargetKind) (table : Table)
  | set (assignments : List (Entry Assignment))
  | values (values : InsertValues)
  | source (kind : SourceKind) (table : TableRef)
  /-- `WHERE`.  Without a condition it stands for the decision to affect every row. -/
  | where (condition? : Option (Entry Expr))
  | groupBy (entries : List (Entry Expr))
  | having (condition : Entry Expr)
  | union (distinct : Bool) (arm : Entry Select)
  | orderBy (entries : List (Entry SortOrder))
  | limit (kind : LimitKind) (count : Expr)
  | onConflict (columns : List Column) (action : ConflictAction)
  | returning (columns : List (Entry SelectColumn))

/-- Something to read rows from. -/
inductive TableRef where
  | table (table : Table)
  | cte (reference : CteRef)
  | subSelect (subSelect : SubSelect)
  | join (left : TableRef) (kind : JoinKind) (right : Entry TableRef) (condition? : Option Expr)

/-- A select used as a table. -/
structure SubSelect where
  select : Select
  name : String
  fields : List ResultField

/-- A common table expression: a select, and more selects that are united with it. -/
structure Cte where
  name : String
  base : Select
  arms : List CteArm
  fields : List ResultField

/-- A select united with a common table expression. -/
structure CteArm where
  distinct : Bool
  select : Entry Select
  /-- Whether the select reads the common table expression itself. -/
  readsSelf : Bool

end

/-! ## Names and keywords -/

/-- The SQL spelling of an aggregate function. -/
def AggregateFunction.keyword : AggregateFunction → String
  | count => "COUNT"
  | sum => "SUM"
  | avg => "AVG"
  | min => "MIN"
  | max => "MAX"

/-- The name of an aggregate function, which a column made from it goes by. -/
def AggregateFunction.name : AggregateFunction → String
  | count => "count"
  | sum => "sum"
  | avg => "avg"
  | min => "min"
  | max => "max"

/-- The call that failures of an aggregate function are attributed to. -/
def AggregateFunction.origin : AggregateFunction → Origin
  | count => .count
  | sum => .sum
  | avg => .avg
  | min => .min
  | max => .max

/-- The SQL spelling of a join. -/
def JoinKind.keyword : JoinKind → String
  | inner => "INNER JOIN"
  | leftOuter => "LEFT OUTER JOIN"
  | rightOuter => "RIGHT OUTER JOIN"
  | fullOuter => "FULL OUTER JOIN"
  | cross => "CROSS JOIN"

/-- The SQL spelling of a direction. -/
def SortDirection.keyword : SortDirection → String
  | ascending => "ASC"
  | descending => "DESC"

/-- The SQL spelling of a place for NULL. -/
def NullsOrder.keyword : NullsOrder → String
  | first => "NULLS FIRST"
  | last => "NULLS LAST"

/-- The SQL spelling of what happens to a target table. -/
def TargetKind.keyword : TargetKind → String
  | insertInto => "INSERT INTO"
  | update => "UPDATE"
  | deleteFrom => "DELETE FROM"

/-- The call that starts a statement with a target table. -/
def TargetKind.origin : TargetKind → Origin
  | insertInto => .insertInto
  | update => .update
  | deleteFrom => .deleteFrom

/-- The SQL spelling of a row count. -/
def LimitKind.keyword : LimitKind → String
  | limit => "LIMIT"
  | offset => "OFFSET"

/-- The call that adds a row count. -/
def LimitKind.origin : LimitKind → Origin
  | limit => .limit
  | offset => .offset

/-- The SQL spelling of a source clause. -/
def SourceKind.keyword : SourceKind → String
  | .from => "FROM"
  | .using => "USING"

/-- The call that adds a source clause. -/
def SourceKind.origin : SourceKind → Origin
  | .from => .from
  | .using => .using

/-- The name of the kind of an expression. -/
def Expr.nodeName : Expr → String
  | .column _ => "column"
  | .value _ => "value"
  | .parameter _ => "parameter"
  | .unary .negate _ => "negate"
  | .unary .bitNot _ => "bit_not"
  | .unary .not _ => "not"
  | .unary .isNull _ | .unary .isNotNull _ => "is_null"
  | .binary .. => "binary"
  | .concat .. => "concat"
  | .chain .. => "logical"
  | .within .. => "in"
  | .between .. => "between"
  | .cases .. => "case"
  | .aggregate .. => "aggregate"
  | .groupKey _ => "group_by_column"
  | .existsIn _ => "exists"
  | .subquery _ => "subquery"

/-- The name a reference goes by inside a statement. -/
def CteRef.identity (reference : CteRef) : String := reference.alias?.getD reference.name

/-- Whether some active arm reads the common table expression itself. -/
def Cte.isRecursive (cte : Cte) : Bool :=
  cte.arms.any fun arm => arm.readsSelf && arm.select.isActive

/-- The call that gives a statement its values. -/
def InsertValues.origin : InsertValues → Origin
  | defaultValues => .defaultValues
  | set _ => .set
  | rows _ _ => .values

namespace Clause

/-- The call that adds a clause. -/
def origin : Clause → Origin
  | .with _ => .with
  | columns _ _ => .select
  | target kind _ => kind.origin
  | set _ => .set
  | values content => content.origin
  | source kind _ => kind.origin
  | .where _ => .where
  | groupBy _ => .groupBy
  | having _ => .having
  | union _ _ => .union
  | orderBy _ => .orderBy
  | limit kind _ => kind.origin
  | onConflict _ _ => .onConflict
  | returning _ => .returning

/-- The place of a clause in the order of SQL. -/
def rank : Clause → Nat
  | .with _ => 0
  | columns _ _ => 1
  | target _ _ => 1
  | set _ => 2
  | values _ => 2
  | source _ _ => 3
  | .where _ => 4
  | groupBy _ => 5
  | having _ => 6
  | union _ _ => 7
  | orderBy _ => 8
  | limit .limit _ => 9
  | limit .offset _ => 10
  | onConflict _ _ => 11
  | returning _ => 12

end Clause

end CheckedSql
