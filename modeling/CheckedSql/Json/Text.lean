import CheckedSql.Hex
import CheckedSql.Json.Number

/-!
# JSON text

`Json.ofText?` reads a value that fills a whole text, and `Json.text` writes
one.  Of several members of one name the last one counts.

Reading goes down into arrays and objects.  Each step takes a character off the
text, so the length of the text bounds the number of steps.
-/

namespace CheckedSql

namespace Json

/-! ## Strings -/

/-- Reads four hexadecimal digits. -/
def codeUnit : Reader Nat
  | a :: b :: c :: d :: rest => do
      let a ← hexDigitValue? a
      let b ← hexDigitValue? b
      let c ← hexDigitValue? c
      let d ← hexDigitValue? d
      some (((16 * a + b) * 16 + c) * 16 + d, rest)
  | _ => none

/-- Reads the code units behind `\u`.  The two halves of a pair of surrogates make one character,
and half a pair is refused. -/
def escapedCode : Reader Char := fun text => do
  let (unit, text) ← codeUnit text
  if unit < 0xd800 ∨ 0xdfff < unit then some (Char.ofNat unit, text)
  else if 0xdbff < unit then none
  else
    let ((), text) ← Reader.literal ['\\', 'u'] text
    let (low, text) ← codeUnit text
    if 0xdc00 ≤ low ∧ low ≤ 0xdfff then
      some (Char.ofNat (0x10000 + (unit - 0xd800) * 0x400 + (low - 0xdc00)), text)
    else none

/-- Reads what follows a backslash. -/
def escaped : Reader Char
  | '"' :: rest => some ('"', rest)
  | '\\' :: rest => some ('\\', rest)
  | '/' :: rest => some ('/', rest)
  | 'b' :: rest => some ('\x08', rest)
  | 'f' :: rest => some ('\x0c', rest)
  | 'n' :: rest => some ('\n', rest)
  | 'r' :: rest => some ('\r', rest)
  | 't' :: rest => some ('\t', rest)
  | 'u' :: rest => escapedCode rest
  | _ => none

/-- Reads the rest of a string up to its closing quote.  `read` holds the characters so far, the
last one first. -/
def stringRest (read : List Char) : Nat → Reader String
  | 0, _ => none
  | _ + 1, [] => none
  | steps + 1, c :: text =>
      if c = '"' then some (String.ofList read.reverse, text)
      else if c = '\\' then do
        let (c, text) ← escaped text
        stringRest (c :: read) steps text
      else if c.toNat < 0x20 then none
      else stringRest (c :: read) steps text

/-- Reads a string behind its opening quote. -/
def stringBody : Reader String := fun text => stringRest [] text.length text

/-! ## Values -/

/-- Skips white space. -/
def skipSpace (text : List Char) : List Char :=
  text.dropWhile fun c => c == ' ' || c == '\n' || c == '\r' || c == '\t'

/-- The members with one more, which replaces a member of the same name. -/
def setMember (members : List (String × Json)) (name : String) (value : Json) :
    List (String × Json) :=
  members.filter (fun member => member.1 != name) ++ [(name, value)]

/-- Reads the name of a member and the colon behind it. -/
def memberName : Reader String := fun text => do
  let ((), text) ← Reader.char '"' (skipSpace text)
  let (name, text) ← stringBody text
  let ((), text) ← Reader.char ':' (skipSpace text)
  some (name, text)

mutual

/-- Reads a value. -/
def valueIn : Nat → Reader Json
  | 0, _ => none
  | steps + 1, text =>
      match skipSpace text with
      | '"' :: rest => (stringBody rest).map fun (value, rest) => (.string value, rest)
      | '[' :: rest =>
          match skipSpace rest with
          | ']' :: rest => some (.array [], rest)
          | _ => itemsIn [] steps rest
      | '\x7b' :: rest =>
          match skipSpace rest with
          | '\x7d' :: rest => some (.object [], rest)
          | _ => membersIn [] steps rest
      | 't' :: rest =>
          (Reader.literal ['r', 'u', 'e'] rest).map fun ((), rest) => (.bool true, rest)
      | 'f' :: rest =>
          (Reader.literal ['a', 'l', 's', 'e'] rest).map fun ((), rest) => (.bool false, rest)
      | 'n' :: rest => (Reader.literal ['u', 'l', 'l'] rest).map fun ((), rest) => (.null, rest)
      | rest => (JsonNumber.read rest).map fun (value, rest) => (.number value, rest)

/-- Reads the items of an array up to its closing bracket.  `items` holds the items so far, the
last one first. -/
def itemsIn (items : List Json) : Nat → Reader Json
  | 0, _ => none
  | steps + 1, text => do
      let (item, text) ← valueIn steps text
      match skipSpace text with
      | ',' :: rest => itemsIn (item :: items) steps rest
      | ']' :: rest => some (.array (item :: items).reverse, rest)
      | _ => none

/-- Reads the members of an object up to its closing brace. -/
def membersIn (members : List (String × Json)) : Nat → Reader Json
  | 0, _ => none
  | steps + 1, text => do
      let (name, text) ← memberName text
      let (value, text) ← valueIn steps text
      match skipSpace text with
      | ',' :: rest => membersIn (setMember members name value) steps rest
      | '\x7d' :: rest => some (.object (setMember members name value), rest)
      | _ => none

end

/-- Reads a value that fills a text. -/
def ofText? (text : String) : Option Json := do
  let text := text.toList
  let (value, rest) ← valueIn (text.length + 1) text
  if (skipSpace rest).isEmpty then some value else none

/-! ## Writing -/

/-- A character inside a string. -/
def escape (c : Char) : List Char :=
  if c = '"' then ['\\', '"']
  else if c = '\\' then ['\\', '\\']
  else if c.toNat < 0x20 then '\\' :: 'u' :: '0' :: '0' :: byteHex (UInt8.ofNat c.toNat)
  else [c]

/-- A string between quotes. -/
def quoted (text : String) : String :=
  String.ofList ('"' :: (text.toList.flatMap escape ++ ['"']))

mutual

/-- The text of a value. -/
def text : Json → String
  | null => "null"
  | bool true => "true"
  | bool false => "false"
  | number value => value.text
  | string value => quoted value
  | array items => "[" ++ ",".intercalate (itemTexts items) ++ "]"
  | object members => "\x7b" ++ ",".intercalate (memberTexts members) ++ "\x7d"

/-- The texts of the items of an array. -/
def itemTexts : List Json → List String
  | [] => []
  | item :: items => text item :: itemTexts items

/-- The texts of the members of an object. -/
def memberTexts : List (String × Json) → List String
  | [] => []
  | (name, value) :: members => (quoted name ++ ":" ++ text value) :: memberTexts members

end

example : (ofText? "[1, \x7b\"a\": \"\\u00e9\\n\"\x7d, null]").map text
    = some "[1,\x7b\"a\":\"é\\u000a\"\x7d,null]" := by decide +kernel

example : (ofText? "\x7b\"a\":1,\"a\":2\x7d").map text = some "\x7b\"a\":2\x7d" := by decide +kernel

example : (ofText? "[1,]").isNone = true := by decide +kernel

end Json

end CheckedSql
