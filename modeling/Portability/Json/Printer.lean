import Portability.Json.Basic

/-!
# Writing JSON texts

A value is written on one line without blanks (`Json.compact`), or with two blanks of indentation
per level and one item to a line (`Json.pretty`). Both escape the quote, the backslash and control
characters only, and write an empty array or object as two brackets.
-/

namespace Portability

namespace Json

/-- One character of a text between quotes. -/
def escapeChar (c : Char) : String :=
  if c = '"' then "\\\""
  else if c = '\\' then "\\\\"
  else if c = '\x08' then "\\b"
  else if c = '\x0c' then "\\f"
  else if c = '\n' then "\\n"
  else if c = '\r' then "\\r"
  else if c = '\t' then "\\t"
  else if c.toNat < 0x20 then
    "\\u00" ++ String.ofList [Nat.digitChar (c.toNat / 16), Nat.digitChar (c.toNat % 16)]
  else c.toString

/-- A text between quotes. -/
def quote (s : String) : String :=
  s.foldl (fun out c => out ++ escapeChar c) "\"" ++ "\""

/-- A number: integers in decimal, doubles by their shortest decimal. -/
def numberText : Number → String
  | .integer i => toString i
  | .double d => d.jsonText

/-- A value without parts. An unreadable value has no text of its own and is left `null`. -/
def scalarText : Json → String
  | .bool true => "true"
  | .bool false => "false"
  | .number n => numberText n
  | .string s => quote s
  | _ => "null"

mutual

/-- A value on one line. -/
def compact : Json → String
  | .array items => "[" ++ compactItems items ++ "]"
  | .object entries => "\x7b" ++ compactEntries entries ++ "\x7d"
  | value => scalarText value

/-- Items with a comma between neighbours. -/
def compactItems : List Json → String
  | [] => ""
  | [item] => compact item
  | item :: next :: rest => compact item ++ "," ++ compactItems (next :: rest)

/-- Entries with a comma between neighbours. -/
def compactEntries : List (String × Json) → String
  | [] => ""
  | [(key, value)] => quote key ++ ":" ++ compact value
  | (key, value) :: next :: rest =>
    quote key ++ ":" ++ compact value ++ "," ++ compactEntries (next :: rest)

end

/-- A line end and the indentation of a level. -/
def newline (level : Nat) : String :=
  String.ofList ('\n' :: List.replicate (2 * level) ' ')

mutual

/-- A value with its parts on lines of their own, `level` levels deep. -/
def prettyAt (level : Nat) : Json → String
  | .array [] => "[]"
  | .array (item :: rest) =>
    "[" ++ newline (level + 1) ++ prettyAt (level + 1) item ++ prettyItems (level + 1) rest ++
      newline level ++ "]"
  | .object [] => "\x7b\x7d"
  | .object ((key, value) :: rest) =>
    "\x7b" ++ newline (level + 1) ++ quote key ++ ": " ++ prettyAt (level + 1) value ++
      prettyEntries (level + 1) rest ++ newline level ++ "\x7d"
  | value => scalarText value

/-- Further items, each after a comma. -/
def prettyItems (level : Nat) : List Json → String
  | [] => ""
  | item :: rest => "," ++ newline level ++ prettyAt level item ++ prettyItems level rest

/-- Further entries, each after a comma. -/
def prettyEntries (level : Nat) : List (String × Json) → String
  | [] => ""
  | (key, value) :: rest =>
    "," ++ newline level ++ quote key ++ ": " ++ prettyAt level value ++ prettyEntries level rest

end

/-- A value with one item to a line. -/
def pretty (value : Json) : String :=
  prettyAt 0 value

end Json

end Portability
