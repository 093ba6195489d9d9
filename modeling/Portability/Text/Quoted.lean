import Portability.Text.Unprintable

/-!
# Quoted characters and texts

Character and text constants are shown between quotes. The enclosing quote, the backslash and the
usual control characters have two-character escapes, every other unprintable character is given by
its number in lower-case hexadecimal, and the rest stands as it is.
-/

namespace Portability

namespace Quoted

/-- The number of a character in lower-case hexadecimal. -/
def hex (c : Char) : String :=
  String.ofList (Nat.toDigits 16 c.toNat)

/-- One character as it stands between two `quote` characters. -/
def escape (quote c : Char) : String :=
  if c = '\x00' then "\\0"
  else if c = '\t' then "\\t"
  else if c = '\r' then "\\r"
  else if c = '\n' then "\\n"
  else if c = '\\' then "\\\\"
  else if c = quote then String.ofList ['\\', c]
  else if isUnprintable c then "\\u\x7b" ++ hex c ++ "\x7d"
  else c.toString

/-- A character in single quotes. -/
def character (c : Char) : String :=
  "'" ++ escape '\'' c ++ "'"

/-- A text in double quotes. -/
def text (s : String) : String :=
  "\"" ++ String.join (s.toList.map (escape '"')) ++ "\""

end Quoted

end Portability
