import CheckedSql.Proofs.Grouping.Segment
import CheckedSql.Proofs.Recovery.Form
import CheckedSql.Proofs.Recovery.Key

/-!
# A reader of expressions

`readWhole` takes pieces apart into an active form and what stands behind the expression.  It
reads an operand first, and then the text behind it says how the expression goes on.  Operands
and whole expressions contain each other, so the two functions share a bound for their
recursion.  A select is not read any further.  It ends with the parenthesis that closes it,
and its text is known but for the numbers of its placeholders, which start again from 1.
-/

namespace CheckedSql

/-- What reads something from the start of some pieces, and returns what stands behind it. -/
abbrev PieceReader (α : Type) := List Lexeme → Option (α × List Lexeme)

/-! ## Selects -/

/-- What stands in front of the parenthesis that closes a group, and what stands behind it, with
`depth` more parentheses open. -/
def readGroup : Nat → PieceReader (List Lexeme)
  | _, [] => none
  | depth, lexeme :: rest =>
      if depth = 0 ∧ lexeme = .symbol ')' then some ([], rest)
      else (readGroup (lexeme.depthBehind depth) rest).map fun (inner, behind) =>
        (lexeme :: inner, behind)

/-- The text of pieces, with `position` as the number of the next placeholder. -/
def Dialect.spellFrom (dialect : Dialect) : Nat → List Lexeme → List Char
  | _, [] => []
  | position, .placeholder :: rest =>
      (dialect.placeholder position).toList ++ dialect.spellFrom (position + 1) rest
  | position, lexeme :: rest => lexeme.spell ++ dialect.spellFrom position rest

/-- Reads a select up to the parenthesis that closes it, as its text. -/
def readSelect (dialect : Dialect) : PieceReader String := fun found =>
  (readGroup 0 found).map fun (inner, behind) => (.ofList (dialect.spellFrom 1 inner), behind)

/-- Whether pieces start with a word that selects start with. -/
def startsSelect (found : List Lexeme) : Bool :=
  found.head?.any fun lexeme => [.word "SELECT", .word "WITH"].contains lexeme

/-! ## Columns, values and placeholders -/

/-- The name that a piece may stand for.  Numbers start with a digit, and texts stand in single
quotes. -/
def Lexeme.identifier? : Lexeme → Option String
  | word text => if text.toList.head?.any Char.isDigit then none else some text
  | quoted delimiter content => if delimiter = '\'' then none else some content
  | _ => none

/-- The two names of a column. -/
def columnNames? : List Lexeme → Option (String × String)
  | [qualifier, point, name] =>
      if point = .symbol '.' then
        qualifier.identifier?.bind fun first => name.identifier?.map fun second => (first, second)
      else none
  | _ => none

/-- The form of pieces without a break. -/
def atomForm (found : List Lexeme) : Form :=
  match columnNames? found with
  | some (qualifier, name) => .column qualifier name
  | none =>
      if found = [.placeholder] then .parameter
      else .literal (.ofList (found.flatMap Lexeme.spell))

/-- Reads a column, a value or a placeholder, up to the next break. -/
def readAtom : PieceReader Form := fun found =>
  some (atomForm (found.takeWhile fun lexeme => !lexeme.isBreak),
    found.dropWhile fun lexeme => !lexeme.isBreak)

/-! ## Lists -/

/-- Reads one thing or more, with a separator between them. -/
def readSeparated {α : Type} (read : PieceReader α) (separator : String) :
    Nat → PieceReader (List α)
  | 0, _ => none
  | bound + 1, found => do
      let (first, rest) ← read found
      match behind? (textPieces separator) rest with
      | none => some ([first], rest)
      | some others => (readSeparated read separator bound others).map fun (forms, behind) =>
          (first :: forms, behind)

/-- Reads the conditions and results of a `CASE`. -/
def readBranches (whole : PieceReader Form) : Nat → PieceReader (List (Form × Form))
  | 0, _ => none
  | bound + 1, found =>
      match behind? (textPieces " WHEN ") found with
      | none => some ([], found)
      | some rest => do
          let (condition, rest) ← whole rest
          let rest ← behind? (textPieces " THEN ") rest
          let (result, rest) ← whole rest
          (readBranches whole bound rest).map fun (branches, behind) =>
            ((condition, result) :: branches, behind)

/-! ## Expressions -/

/-- Reads the argument of an aggregate function.  An asterisk stands for no argument. -/
def readArgument (whole : PieceReader Form) : PieceReader (Option Form) := fun found =>
  match behind? [.symbol '*'] found with
  | some rest => some (none, rest)
  | none => (whole found).map fun (argument, rest) => (some argument, rest)

/-- Reads what is opened. -/
def Opening.read (dialect : Dialect) (operand whole : PieceReader Form) : Opening → PieceReader Form
  | unary operator, found => do
      let (inner, rest) ← operand found
      some (operator.form inner, rest)
  | group, found =>
      if startsSelect found then
        (readSelect dialect found).map fun (text, rest) => (.subquery text, rest)
      else do
        let (inner, rest) ← whole found
        let rest ← behind? (textPieces ")") rest
        some (inner, rest)
  | .cases, found => do
      let (branches, rest) ← readBranches whole (found.length + 1) found
      let rest ← behind? (textPieces " ELSE ") rest
      let (otherwise, rest) ← whole rest
      let rest ← behind? (textPieces " END") rest
      some (.cases branches otherwise, rest)
  | existsIn, found => (readSelect dialect found).map fun (text, rest) => (.existsIn text, rest)
  | concat, found => do
      let (left, rest) ← operand found
      let rest ← behind? (textPieces ", ") rest
      let (right, rest) ← operand rest
      let rest ← behind? (textPieces ")") rest
      some (.concat left right, rest)
  | aggregate function, found => do
      let distinct := behind? (textPieces "DISTINCT ") found
      let (argument?, rest) ← readArgument whole (distinct.getD found)
      let rest ← behind? (textPieces ")") rest
      let overAll := behind? (textPieces " OVER()") rest
      some (.aggregate ⟨function, distinct.isSome, overAll.isSome⟩ argument?, overAll.getD rest)
  | literal front count, found =>
      some (.literal (front ++ .ofList ((found.take count).flatMap Lexeme.spell)),
        found.drop count)

/-- Reads how an expression goes on behind its first operand. -/
def Continuation.read (operand whole : PieceReader Form) (first : Form) :
    Continuation → PieceReader Form
  | unary operator, found => some (operator.form first, found)
  | within negated, found => do
      let (items, rest) ← readSeparated whole ", " (found.length + 1) found
      let rest ← behind? (textPieces ")") rest
      some (.within negated first items, rest)
  | between, found => do
      let (low, rest) ← operand found
      let rest ← behind? (textPieces " AND ") rest
      let (high, rest) ← operand rest
      some (.between first low high, rest)
  | concat, found => do
      let (right, rest) ← operand found
      some (.concat first right, rest)
  | chain connective, found => do
      let separator := " " ++ connective.operator.symbol ++ " "
      let (others, rest) ← readSeparated operand separator (found.length + 1) found
      some (.chain connective (first :: others), rest)
  | binary operator, found => do
      let (right, rest) ← operand found
      some (.binary operator first right, rest)

mutual

/-- Reads an operand. -/
def readOperand (dialect : Dialect) : Nat → PieceReader Form
  | 0, _ => none
  | bound + 1, found =>
      match lookup? openings found with
      | some (opening, rest) =>
          opening.read dialect (readOperand dialect bound) (readWhole dialect bound) rest
      | none => readAtom found

/-- Reads an expression. -/
def readWhole (dialect : Dialect) : Nat → PieceReader Form
  | 0, _ => none
  | bound + 1, found => do
      let (first, rest) ← readOperand dialect bound found
      match lookup? continuations rest with
      | some (continuation, rest) =>
          continuation.read (readOperand dialect bound) (readWhole dialect bound) first rest
      | none => some (first, rest)

end

end CheckedSql
