import Portability.Json.Basic

/-!
# Reading typed values

A reader takes a JSON value to a value of some type or says why it cannot. Records are read
strictly in what they know and leniently in what they do not: a known field must not be repeated,
an unknown one is skipped without a look at its value.

A record may also be written as the array of its fields in the order of their declaration, with
the last ones left off. A *tagged* value holds the name of its alternative in one field, which may
stand anywhere in the object; such a value is taken in as a whole before it is known what it is, so
nothing in it may be unreadable, and inside it an empty object passes for the `null` beside a name.
-/

namespace Portability

/-- Why a JSON value or text was refused. -/
inductive ReadError where
  /-- The text is no JSON text. -/
  | malformed
  /-- A piece of the text denotes no value. -/
  | unreadable
  /-- A value of another shape stands where one of the expected shape should. -/
  | unexpected (expected : String)
  /-- A number does not fit the type. -/
  | outOfRange
  | missingField (field : String)
  | repeatedField (field : String)
  /-- A name that is none of the known ones. -/
  | unknownName (name : String)
  /-- An array with more items than the record has fields. -/
  | tooManyItems
  deriving DecidableEq, Repr

/-- A way to read values of a type. -/
abbrev Reader (α : Type) := Json → Except ReadError α

/-- A type of finitely many alternatives, each known by its name in documents. -/
class Named (α : Type) where
  all : List α
  name : α → String

namespace Named

variable {α : Type} [Named α]

/-- The alternative of a name. Upper and lower case differ. -/
def ofName? (s : String) : Option α :=
  all.find? fun a => name a == s

/-- An alternative is written as its name. -/
def toJson (a : α) : Json :=
  .string (name a)

/-- An alternative given by its name and nothing else. -/
def readName : Reader α
  | .string s =>
    match ofName? s with
    | some a => .ok a
    | none => .error (.unknownName s)
  | _ => .error (.unexpected "name")

/-- An alternative is given by its name, or by an object that gives the name the value `null`. -/
def read : Reader α
  | .object [(s, .null)] => readName (.string s)
  | value => readName value

/-- Inside a tagged value the object may give the name an empty object as well. -/
def readInTagged : Reader α
  | .object [(s, .object [])] => readName (.string s)
  | value => read value

/-- An alternative given by its name or by its place among the alternatives, counted from zero. -/
def readNameOrPlace : Reader α
  | .number (.integer i) =>
    match if i < 0 then none else (all : List α)[i.toNat]? with
    | some a => .ok a
    | none => .error .outOfRange
  | value => readName value

end Named

namespace Json

/-! ### Plain values -/

/-- A truth value. -/
def readBool : Reader Bool
  | .bool b => .ok b
  | _ => .error (.unexpected "truth value")

/-- A text. -/
def readText : Reader String
  | .string s => .ok s
  | _ => .error (.unexpected "text")

/-- A text of exactly one character. -/
def readChar : Reader Char
  | .string s =>
    match s.toList with
    | [c] => .ok c
    | _ => .error (.unexpected "character")
  | _ => .error (.unexpected "character")

/-- An integer from `low` up to, and without, `high`. -/
def readIntBetween (low high : Int) : Reader Int
  | .number (.integer i) => if low ≤ i ∧ i < high then .ok i else .error .outOfRange
  | _ => .error (.unexpected "integer")

/-- A natural number below `2 ^ bits`. -/
def readNatOfBits (bits : Nat) (value : Json) : Except ReadError Nat :=
  (readIntBetween 0 (twoTo bits) value).map Int.toNat

/-- A number, rounded to the nearest double. -/
def readDouble : Reader Double
  | .number (.integer i) => .ok (Double.ofInt i)
  | .number (.double d) => .ok d
  | _ => .error (.unexpected "number")

/-- An array of values that are read alike. -/
def readList {α : Type} (read : Reader α) : Reader (List α)
  | .array items => items.mapM read
  | _ => .error (.unexpected "array")

/-- A value or `null`. -/
def readOption {α : Type} (read : Reader α) : Reader (Option α)
  | .null => .ok none
  | value => (read value).map some

/-! ### Records -/

/-- The fields of a record, by name. -/
structure Record where
  fields : List (String × Json)

/-- The fields of a value that is to be a record with the given field names. -/
def readRecord (names : List String) : Reader Record
  | .object entries =>
    match names.find? fun field => 1 < entries.countP fun entry => entry.1 == field with
    | some field => .error (.repeatedField field)
    | none => .ok ⟨entries⟩
  | .array items =>
    if names.length < items.length then .error .tooManyItems else .ok ⟨names.zip items⟩
  | _ => .error (.unexpected "record")

namespace Record

/-- The value of a field, if it is there. -/
def field? (record : Record) (field : String) : Option Json :=
  record.fields.lookup field

/-- A field that has to be there. -/
def required {α : Type} (record : Record) (field : String) (read : Reader α) :
    Except ReadError α :=
  match record.field? field with
  | some value => read value
  | none => .error (.missingField field)

/-- A field with a value for where it is missing. -/
def withDefault {α : Type} (record : Record) (field : String) (default : α) (read : Reader α) :
    Except ReadError α :=
  match record.field? field with
  | some value => read value
  | none => .ok default

/-- A list that is empty where its field is missing. -/
def list {α : Type} (record : Record) (field : String) (read : Reader α) :
    Except ReadError (List α) :=
  record.withDefault field [] (readList read)

/-- A value that is absent where its field is missing or `null`. -/
def optional {α : Type} (record : Record) (field : String) (read : Reader α) :
    Except ReadError (Option α) :=
  record.withDefault field none (readOption read)

end Record

/-- The name in the field `tag` of a tagged value, and the value without that field. -/
def readTagged (tag : String) (value : Json) : Except ReadError (String × Json) :=
  if !value.isReadable then .error .unreadable
  else
    match value with
    | .object entries =>
      match entries.filter fun entry => entry.1 == tag with
      | [(_, .string name)] => .ok (name, .object (entries.filter fun entry => entry.1 != tag))
      | [] => .error (.missingField tag)
      | [_] => .error (.unexpected "name")
      | _ => .error (.repeatedField tag)
    | .array (.string name :: items) => .ok (name, .array items)
    | _ => .error (.unexpected "tagged value")

end Json

end Portability
