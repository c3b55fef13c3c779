import CheckedSql.Dialect.Literal
import CheckedSql.Schema

/-!
# Tokens

A statement is written in two steps.  First its tree becomes a list of
`Token`s: fixed text, names, values and placeholders.  Then `Dialect.write`
spells them one after the other, quotes names, writes values as literals and
numbers the placeholders from left to right.

So the parameters of a written statement are its placeholder tokens, in their
order, and writing fails exactly if the dialect lacks a literal for a value.
The first such value gives the error.
-/

namespace CheckedSql

/-- A piece of a statement. -/
inductive Token where
  /-- Keywords, operators and punctuation, with the spaces around them. -/
  | text (text : String)
  /-- A name, before quoting. -/
  | identifier (name : String)
  | literal (value : Value)
  | placeholder (parameter : Parameter)
  deriving DecidableEq

namespace Token

/-- The parameter of a placeholder. -/
def parameter? : Token → Option Parameter
  | placeholder parameter => some parameter
  | _ => none

/-- Pieces with a separator between them. -/
def separatedBy (separator : String) : List (List Token) → List Token
  | [] => []
  | [piece] => piece
  | piece :: pieces => piece ++ text separator :: separatedBy separator pieces

/-- Pieces with commas between them. -/
def withCommas (pieces : List (List Token)) : List Token := separatedBy ", " pieces

/-- A piece between parentheses. -/
def parenthesized (piece : List Token) : List Token := text "(" :: (piece ++ [text ")"])

/-- A piece as an operand: between parentheses if it is compound. -/
def operand (compound : Bool) (piece : List Token) : List Token :=
  if compound then parenthesized piece else piece

end Token

/-- The parameters of the placeholders, in their order. -/
def parametersOf (tokens : List Token) : List Parameter := tokens.filterMap Token.parameter?

@[simp] theorem parametersOf_append (left right : List Token) :
    parametersOf (left ++ right) = parametersOf left ++ parametersOf right :=
  List.filterMap_append

namespace Dialect

/-- A token as it is written, if it is the placeholder of a position or something else. -/
def writeToken (dialect : Dialect) (position : Nat) : Token → Except Error String
  | .text text => .ok text
  | .identifier name => .ok (dialect.quoteName name)
  | .literal value => dialect.literal value
  | .placeholder _ => .ok (dialect.placeholder position)

/-- Writes tokens, with `position` as the number of the next placeholder. -/
def writeFrom (dialect : Dialect) (position : Nat) : List Token → Except Error String
  | [] => .ok ""
  | token :: tokens => do
      let text ← dialect.writeToken position token
      let next := if token.parameter?.isSome then position + 1 else position
      let rest ← dialect.writeFrom next tokens
      return text ++ rest

/-- Writes tokens. -/
def write (dialect : Dialect) (tokens : List Token) : Except Error String :=
  dialect.writeFrom 1 tokens

/-- Whether the written tokens start with a minus sign, which would make `--` of a sign before
them.  Only a literal does. -/
def startsWithMinus (dialect : Dialect) : List Token → Bool
  | .literal value :: _ =>
      match dialect.literal value with
      | .ok text => text.toList.head? == some '-'
      | .error _ => false
  | _ => false

example : (write postgres [.text "LIMIT ", .placeholder ⟨"n", .of .integral⟩, .text " OFFSET ",
    .placeholder ⟨"m", .of .integral⟩]).toOption = some "LIMIT $1 OFFSET $2" := by decide

end Dialect

end CheckedSql
