import Portability.Json.Record
import Portability.Text.Quoted

/-!
# Constants

The compile-time constants that parameters may have as default values.
-/

namespace Portability

/-- The kinds of constants. -/
inductive ConstantKind where
  | null
  | bool
  | int
  | float
  | char
  | text
  deriving DecidableEq, Repr, Inhabited

/-- The names of the kinds of constants in documents. -/
instance : Named ConstantKind where
  all := [.null, .bool, .int, .float, .char, .text]
  name
    | .null => "Null"
    | .bool => "Bool"
    | .int => "Int"
    | .float => "Float"
    | .char => "Char"
    | .text => "Str"

/-- A compile-time constant. -/
inductive Constant where
  | null
  | bool (b : Bool)
  | int (i : Int)
  | float (d : Double)
  | char (c : Char)
  | text (s : String)
  deriving DecidableEq, Repr, Inhabited

namespace Constant

/-- The kind of a constant. -/
def kind : Constant → ConstantKind
  | null => .null
  | bool _ => .bool
  | int _ => .int
  | float _ => .float
  | char _ => .char
  | text _ => .text

/-- A constant as messages show it. -/
def display : Constant → String
  | null => "null"
  | bool b => if b then "true" else "false"
  | int i => toString i
  | float d => d.positional
  | char c => Quoted.character c
  | text s => Quoted.text s

/-- The value of a constant, absent for `null`. -/
def value? : Constant → Option Json
  | null => none
  | bool b => some (.bool b)
  | int i => some (.number (.integer i))
  | float d => some (.number (.double d))
  | char c => some (.string c.toString)
  | text s => some (.string s)

/-- A constant is written as its kind and, where it has one, its value. -/
def toJson (constant : Constant) : Json :=
  .object <| ("kind", Named.toJson constant.kind) ::
    (constant.value?.map fun value => ("value", value)).toList

/-- The value of a constant of a given kind. Only `null` needs none. -/
def readValue : ConstantKind → Option Json → Except ReadError Constant
  | .null, none => .ok null
  | .null, some .null => .ok null
  | .null, some _ => .error (.unexpected "null")
  | _, none => .error (.missingField "value")
  | .bool, some value => (Json.readBool value).map bool
  | .int, some value => (Json.readIntBetween (-twoTo 63) (twoTo 63) value).map int
  | .float, some value => (Json.readDouble value).map float
  | .char, some value => (Json.readChar value).map char
  | .text, some value => (Json.readText value).map text

/-- Reads a constant given as an object, with the kind read one way, or as an array of its kind and
its value, with the kind read another way. The array has to give both. -/
def readWith (kindInObject kindInArray : Reader ConstantKind) : Reader Constant
  | .array [kind, value] => do readValue (← kindInArray kind) (some value)
  | .array [_] => .error (.missingField "value")
  | value => do
    let record ← Json.readRecord ["kind", "value"] value
    let kind ← record.required "kind" kindInObject
    readValue kind (record.field? "value")

/-- Reads what `toJson` writes. -/
def read : Reader Constant :=
  readWith Named.read Named.readName

/-- Inside a tagged value an array may give the place of the kind for its name. -/
def readInTagged : Reader Constant :=
  readWith Named.readInTagged Named.readNameOrPlace

end Constant

end Portability
