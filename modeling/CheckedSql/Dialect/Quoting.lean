import CheckedSql.Dialect.Basic

/-!
# Quoting

A quoted token stands between two delimiters, and a delimiter inside it is
written twice.  `readQuoted?` undoes this, so every text has one quoted form.

An identifier is written bare when every supported engine reads it as one: it
starts with an ASCII letter or an underscore, goes on with ASCII letters, digits
and underscores, and is not a reserved word in any case.  All others are quoted.
The reserved words are sorted, and an identifier is looked up among them by
binary search.
-/

namespace CheckedSql

/-! ## Delimiters -/

/-- A text with every delimiter written twice. -/
def doubled (delimiter : Char) : List Char → List Char
  | [] => []
  | c :: rest =>
      if c = delimiter then delimiter :: delimiter :: doubled delimiter rest
      else c :: doubled delimiter rest

/-- A text between delimiters, the inner ones written twice. -/
def quotedBy (delimiter : Char) (text : List Char) : List Char :=
  delimiter :: (doubled delimiter text ++ [delimiter])

/-- Reads the rest of a quoted token up to its closing delimiter, and returns its content and what
follows. -/
def readQuotedRest? (delimiter : Char) : List Char → Option (List Char × List Char)
  | [] => none
  | [c] => if c = delimiter then some ([], []) else none
  | c :: next :: rest =>
      if c = delimiter then
        if next = delimiter then
          (readQuotedRest? delimiter rest).map fun (content, after) => (c :: content, after)
        else some ([], next :: rest)
      else (readQuotedRest? delimiter (next :: rest)).map fun (content, after) =>
        (c :: content, after)

/-- Reads a quoted token, and returns its content and what follows. -/
def readQuoted? (delimiter : Char) : List Char → Option (List Char × List Char)
  | [] => none
  | c :: rest => if c = delimiter then readQuotedRest? delimiter rest else none

/-- A quoted token reads back as its content, whatever follows, unless a further delimiter follows
at once. -/
theorem readQuoted?_quotedBy (delimiter : Char) (text after : List Char)
    (h : ∀ rest, after ≠ delimiter :: rest) :
    readQuoted? delimiter (quotedBy delimiter text ++ after) = some (text, after) := by
  suffices step : readQuotedRest? delimiter (doubled delimiter text ++ delimiter :: after)
      = some (text, after) by
    simpa [readQuoted?, quotedBy] using step
  induction text with
  | nil =>
    cases after with
    | nil => simp [doubled, readQuotedRest?]
    | cons c rest =>
      have differs : c ≠ delimiter := fun same => h rest (by rw [same])
      simp [doubled, readQuotedRest?, differs]
  | cons c text ih =>
    by_cases same : c = delimiter
    · subst same
      simp [doubled, readQuotedRest?, ih]
    · cases tail : doubled delimiter text ++ delimiter :: after with
      | nil => simp at tail
      | cons next rest =>
        rw [tail] at ih
        simp [doubled, same, tail, readQuotedRest?, ih]

/-! ## Identifiers -/

/-- The words that some supported engine does not accept as a bare identifier, in ascending
order. -/
def reservedWords : Vector String 72 :=
  #v["ALL", "AND", "ANY", "AS", "ASC", "BETWEEN", "BY", "CASE", "CAST", "CHECK", "COLUMN",
    "CONSTRAINT", "CREATE", "CROSS", "CURRENT_DATE", "CURRENT_TIME", "CURRENT_TIMESTAMP",
    "DEFAULT", "DELETE", "DESC", "DISTINCT", "DROP", "ELSE", "END", "EXCEPT", "EXISTS",
    "FALSE", "FETCH", "FOR", "FOREIGN", "FROM", "FULL", "GRANT", "GROUP", "HAVING", "IN",
    "INNER", "INSERT", "INTERSECT", "INTO", "IS", "JOIN", "LEFT", "LIKE", "LIMIT", "NATURAL",
    "NOT", "NULL", "OFFSET", "ON", "OR", "ORDER", "OUTER", "PRIMARY", "REFERENCES",
    "RETURNING", "RIGHT", "SELECT", "SET", "TABLE", "THEN", "TO", "TRUE", "UNION", "UNIQUE",
    "UPDATE", "USER", "USING", "VALUES", "WHEN", "WHERE", "WITH"]

/-- Whether a binary search finds a word among the first `size` of sorted words, which it halves at
most `steps` times. -/
def foundAmong (word : String) : (steps size : Nat) → (words : List String) → Bool
  | 0, _, words => words.head? == some word
  | steps + 1, size, words =>
      if size ≤ 1 then words.head? == some word
      else
        match words.drop (size / 2) with
        | [] => false
        | middle :: behind =>
            foundAmong word steps (size - size / 2)
              (if word < middle then words else middle :: behind)

/-- Whether an identifier is a reserved word, in any case. -/
def isReservedWord (identifier : String) : Bool :=
  foundAmong (asciiUpper identifier) reservedWords.size reservedWords.size reservedWords.toList

/-- Whether a character can start a bare identifier. -/
def isNameStart (c : Char) : Bool := c.isAlpha || c == '_'

/-- Whether a character can go on in a bare identifier. -/
def isNamePart (c : Char) : Bool := c.isAlphanum || c == '_'

/-- Whether an identifier cannot be written bare. -/
def needsQuoting (identifier : String) : Bool :=
  match identifier.toList with
  | [] => true
  | first :: rest => !isNameStart first || !rest.all isNamePart || isReservedWord identifier

namespace Dialect

/-- The delimiter of quoted identifiers. -/
def nameDelimiter : Dialect → Char
  | mysql => '\x60'
  | _ => '"'

/-- An identifier as it is written. -/
def quoteName (dialect : Dialect) (identifier : String) : String :=
  if needsQuoting identifier then
    String.ofList (quotedBy dialect.nameDelimiter identifier.toList)
  else identifier

example : quoteName generic "Select" = "\"Select\"" := by decide

example : quoteName mysql "a\x60b" = "\x60a\x60\x60b\x60" := by decide

example : quoteName generic "select_" = "select_" := by decide

end Dialect

end CheckedSql
