import Portability.Json.Basic

/-!
# Reading JSON texts

`Json.parse?` reads a text that holds one value between optional blanks. The grammar is the
standard one: no comments, no trailing commas, no control characters in texts, no leading zeros.

Numbers are read as `Portability.Number`: an integer where it fits, else the nearest double that
`Double.scaledRank?` computes from the leading digits that fit 64 bits.

Every step returns what is left of the text, and each nested value takes at least one character,
so the number of characters bounds the nesting.
-/

namespace Portability

namespace Json

/-- Drops blanks, tabs and line ends. -/
def skipBlanks : List Char → List Char
  | c :: rest =>
    if c = ' ' || c = '\n' || c = '\t' || c = '\r' then skipBlanks rest else c :: rest
  | [] => []

/-- The text after `word`, if it starts with it. -/
def expect? (word text : List Char) : Option (List Char) :=
  if word.isPrefixOf text then some (text.drop word.length) else none

/-! ### Numbers -/

/-- The value of a decimal digit. -/
def digitValue (c : Char) : Nat :=
  c.toNat - '0'.toNat

/-- Appends digits to a significand of 64 bits. The first digit that does not fit ends it; the
second component counts the digits that were appended. -/
def appendDigits (significand : Nat) : List Char → Nat × Nat
  | [] => (significand, 0)
  | c :: rest =>
    let next := significand * 10 + digitValue c
    if next < twoTo 64 then
      let (result, count) := appendDigits next rest
      (result, count + 1)
    else (significand, 0)

/-- A number text cut into its parts. -/
structure NumberParts where
  negative : Bool
  whole : List Char
  fraction : Option (List Char)
  exponent : Option (Bool × List Char)

/-- The value of a number text, `none` beyond the finite doubles. Digits of the whole part that do
not fit scale the significand; further digits of the fraction are ignored. -/
def NumberParts.value? (parts : NumberParts) : Option Number :=
  let (leading, taken) := appendDigits 0 parts.whole
  let dropped := parts.whole.length - taken
  if parts.fraction = none ∧ parts.exponent = none ∧ dropped = 0 ∧
      (parts.negative → 0 < leading ∧ leading ≤ twoTo 63) then
    some (.integer (if parts.negative then -leading else leading))
  else
    let (significand, decimals) := appendDigits leading (parts.fraction.getD [])
    let scale : Int := dropped - decimals
    let exponent : Int :=
      match parts.exponent with
      | none => 0
      | some (negative, digits) =>
        let size : Int := digits.foldl (fun n c => n * 10 + digitValue c) 0
        if negative then -size else size
    (Double.scaledRank? significand (scale + exponent)).map fun rank =>
      .double ⟨parts.negative, rank⟩

/-- A run of digits and what follows it; there has to be a digit. -/
def takeDigits? (text : List Char) : Option (List Char × List Char) :=
  let digits := text.takeWhile Char.isDigit
  if digits.isEmpty then none else some (digits, text.drop digits.length)

/-- A number and what follows it. The whole part has no superfluous zero in front. -/
def parseNumber? (text : List Char) : Option (Json × List Char) := do
  let (negative, text) :=
    match text with
    | '-' :: rest => (true, rest)
    | _ => (false, text)
  let (whole, text) ← takeDigits? text
  if whole.head? = some '0' ∧ 1 < whole.length then none
  let (fraction, text) ←
    match text with
    | '.' :: rest => do
      let (digits, rest) ← takeDigits? rest
      pure (some digits, rest)
    | _ => pure (none, text)
  let (exponent, text) ←
    match text with
    | c :: rest =>
      if c = 'e' || c = 'E' then do
        let (negative, rest) :=
          match rest with
          | '+' :: rest => (false, rest)
          | '-' :: rest => (true, rest)
          | _ => (false, rest)
        let (digits, rest) ← takeDigits? rest
        pure (some (negative, digits), rest)
      else pure (none, text)
    | [] => pure (none, text)
  let value :=
    match NumberParts.value? ⟨negative, whole, fraction, exponent⟩ with
    | some n => Json.number n
    | none => .unreadable
  pure (value, text)

/-! ### Texts -/

/-- The value of a hexadecimal digit. -/
def hexValue? (c : Char) : Option Nat :=
  if '0' ≤ c ∧ c ≤ '9' then some (c.toNat - '0'.toNat)
  else if 'a' ≤ c ∧ c ≤ 'f' then some (c.toNat - 'a'.toNat + 10)
  else if 'A' ≤ c ∧ c ≤ 'F' then some (c.toNat - 'A'.toNat + 10)
  else none

/-- Four hexadecimal digits as a number. -/
def codeUnit? (a b c d : Char) : Option Nat := do
  let a ← hexValue? a
  let b ← hexValue? b
  let c ← hexValue? c
  let d ← hexValue? d
  pure (((a * 16 + b) * 16 + c) * 16 + d)

/-- The character that an escape other than `\u` stands for. -/
def simpleEscape? : Char → Option Char
  | '"' => some '"'
  | '\\' => some '\\'
  | '/' => some '/'
  | 'b' => some '\x08'
  | 'f' => some '\x0c'
  | 'n' => some '\n'
  | 'r' => some '\r'
  | 't' => some '\t'
  | _ => none

/-- One item of a text between quotes. -/
inductive TextItem where
  | character (c : Char)
  | surrogate (unit : Nat)

/-- The item that an escaped number stands for. -/
def TextItem.ofCodeUnit (unit : Nat) : TextItem :=
  if 0xD800 ≤ unit ∧ unit < 0xE000 then .surrogate unit else .character (Char.ofNat unit)

/-- The items of a text up to its closing quote, and what follows it. Those read so far are kept in
reverse. -/
def textItems? (items : List TextItem) : List Char → Option (List TextItem × List Char)
  | '"' :: rest => some (items.reverse, rest)
  | '\\' :: 'u' :: a :: b :: c :: d :: rest =>
    match codeUnit? a b c d with
    | some unit => textItems? (.ofCodeUnit unit :: items) rest
    | none => none
  | '\\' :: c :: rest =>
    match simpleEscape? c with
    | some c => textItems? (.character c :: items) rest
    | none => none
  | c :: rest =>
    if c = '\\' || c.toNat < 0x20 then none else textItems? (.character c :: items) rest
  | [] => none

/-- The characters of text items; `none` where a surrogate has no partner next to it. The characters
found so far are kept in reverse. -/
def pairSurrogates? (chars : List Char) : List TextItem → Option (List Char)
  | [] => some chars.reverse
  | .character c :: rest => pairSurrogates? (c :: chars) rest
  | .surrogate high :: .surrogate low :: rest =>
    if high < 0xDC00 ∧ 0xDC00 ≤ low then
      let code := 0x10000 + (high - 0xD800) * 0x400 + (low - 0xDC00)
      pairSurrogates? (Char.ofNat code :: chars) rest
    else none
  | .surrogate _ :: _ => none

/-- A text whose opening quote is gone already; `none` inside where it denotes no text. -/
def parseText? (text : List Char) : Option (Option String × List Char) :=
  (textItems? [] text).map fun (items, rest) =>
    ((pairSurrogates? [] items).map String.ofList, rest)

/-! ### Values -/

/-- An object from its entries; one with an unreadable key is unreadable as a whole. -/
def ofEntries (entries : List (Option String × Json)) : Json :=
  match entries.mapM fun (key, value) => key.map (·, value) with
  | some entries => .object entries
  | none => .unreadable

mutual

/-- A value at the start of the text, and what follows it. -/
def parseValue? : Nat → List Char → Option (Json × List Char)
  | 0, _ => none
  | fuel + 1, text =>
    match text with
    | '"' :: rest =>
      (parseText? rest).map fun (s, rest) =>
        (match s with
          | some s => .string s
          | none => .unreadable, rest)
    | '[' :: rest =>
      match skipBlanks rest with
      | ']' :: rest => some (.array [], rest)
      | rest => (parseItems? fuel [] rest).map fun (items, rest) => (.array items, rest)
    | '\x7b' :: rest =>
      match skipBlanks rest with
      | '\x7d' :: rest => some (.object [], rest)
      | rest => (parseEntries? fuel [] rest).map fun (entries, rest) => (ofEntries entries, rest)
    | 'n' :: _ => (expect? "null".toList text).map (.null, ·)
    | 't' :: _ => (expect? "true".toList text).map (.bool true, ·)
    | 'f' :: _ => (expect? "false".toList text).map (.bool false, ·)
    | _ => parseNumber? text

/-- Items up to the closing bracket; those read so far are kept in reverse. -/
def parseItems? : Nat → List Json → List Char → Option (List Json × List Char)
  | 0, _, _ => none
  | fuel + 1, items, text => do
    let (item, rest) ← parseValue? fuel text
    match skipBlanks rest with
    | ']' :: rest => some ((item :: items).reverse, rest)
    | ',' :: rest => parseItems? fuel (item :: items) (skipBlanks rest)
    | _ => none

/-- Entries up to the closing brace; those read so far are kept in reverse. -/
def parseEntries? : Nat → List (Option String × Json) → List Char →
    Option (List (Option String × Json) × List Char)
  | 0, _, _ => none
  | fuel + 1, entries, text => do
    let (key, rest) ←
      match text with
      | '"' :: rest => parseText? rest
      | _ => none
    let rest ← expect? [':'] (skipBlanks rest)
    let (value, rest) ← parseValue? fuel (skipBlanks rest)
    match skipBlanks rest with
    | '\x7d' :: rest => some (((key, value) :: entries).reverse, rest)
    | ',' :: rest => parseEntries? fuel ((key, value) :: entries) (skipBlanks rest)
    | _ => none

end

/-- The value of a text that holds one, before any limit on its nesting. -/
def parseUnlimited? (text : String) : Option Json :=
  let chars := text.toList
  match parseValue? (chars.length + 1) (skipBlanks chars) with
  | some (value, rest) => if (skipBlanks rest).isEmpty then some value else none
  | none => none

/-- The value of a text that holds one. -/
def parse? (text : String) : Option Json :=
  (parseUnlimited? text).map (limitNesting maxNesting)

end Json

end Portability
