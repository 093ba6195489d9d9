import Portability.Json.Double

/-!
# JSON values

Documents and rule files are JSON texts. A value keeps the entries of an object in the order they
were written, repeated keys included, since a repeated field is an error for most readers.

`Json.unreadable` stands for a piece of text that has the shape of a value and denotes none: a
number beyond the finite doubles, a text with an unpaired surrogate, a value nested too deeply.
A reader that skips a field never looks at it; every other reader refuses it.
-/

namespace Portability

/-- A number of a JSON text. One written without fraction and exponent that fits 64 bits, signed
or not, is an integer; every other one is a double. -/
inductive Number where
  | integer (i : Int)
  | double (d : Double)
  deriving DecidableEq, Repr, Inhabited

/-- A JSON value. -/
inductive Json where
  | null
  | bool (b : Bool)
  | number (n : Number)
  | string (s : String)
  | array (items : List Json)
  | object (entries : List (String × Json))
  | unreadable
  deriving Repr, Inhabited, BEq

namespace Json

/-- The JSON number for a natural number. -/
def nat (n : Nat) : Json :=
  .number (.integer n)

/-- A list as an array. -/
def list {α : Type} (write : α → Json) (items : List α) : Json :=
  .array (items.map write)

/-- An array of texts. -/
def strings (items : List String) : Json :=
  list string items

/-- An absent value is written as `null`. -/
def option {α : Type} (write : α → Json) : Option α → Json
  | none => .null
  | some a => write a

/-- How deeply arrays and objects of a document may be nested. -/
def maxNesting : Nat := 127

/-- `value` with everything unreadable that is nested more than `depth` deep. -/
def limitNesting : Nat → Json → Json
  | 0, .array _ => .unreadable
  | 0, .object _ => .unreadable
  | depth + 1, .array items => .array (items.map (limitNesting depth))
  | depth + 1, .object entries =>
    .object (entries.map fun (key, value) => (key, limitNesting depth value))
  | _, value => value

mutual

/-- Whether nothing inside a value is unreadable. -/
def isReadable : Json → Bool
  | .array items => areReadable items
  | .object entries => areEntriesReadable entries
  | .unreadable => false
  | _ => true

/-- `isReadable` of every item. -/
def areReadable : List Json → Bool
  | [] => true
  | item :: rest => isReadable item && areReadable rest

/-- `isReadable` of every entry's value. -/
def areEntriesReadable : List (String × Json) → Bool
  | [] => true
  | (_, value) :: rest => isReadable value && areEntriesReadable rest

end

/-- The entries with `key` set to `value`: in place where the key stands already, else last. -/
def setEntry (key : String) (value : Json) : List (String × Json) → List (String × Json)
  | [] => [(key, value)]
  | (other, old) :: rest =>
    if other = key then (other, value) :: rest else (other, old) :: setEntry key value rest

mutual

/-- `value` without repeated keys: the last value of a key counts, at the key's first place. -/
def merged : Json → Json
  | .array items => .array (mergedItems items)
  | .object entries => .object (mergedEntries [] entries)
  | value => value

/-- `merged` of every item. -/
def mergedItems : List Json → List Json
  | [] => []
  | item :: rest => merged item :: mergedItems rest

/-- The entries put one after the other into those `seen` so far. -/
def mergedEntries (seen : List (String × Json)) : List (String × Json) → List (String × Json)
  | [] => seen
  | (key, value) :: rest => mergedEntries (setEntry key (merged value) seen) rest

end

end Json

end Portability
