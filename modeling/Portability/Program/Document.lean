import Portability.Json.Parser
import Portability.Symbol.Json
import Portability.Symbol.Wellformed
import Portability.Tree.Json

/-!
# Program documents

A program document is a resolved program: its symbols, the default values of its parameters as
they are written at their declaration, and its compilation units, each with what its nodes resolve
to.

A document is only worked with once it is *valid*: no handle of a symbol or of a bound node points
nowhere, and neither symbols nor namespaces go round in circles. `ProgramDocument.validate` names
the first fault it finds.
-/

namespace Portability

/-- An expression resolved where it is declared: its fully qualified text and its type. -/
structure ResolvedExpression where
  text : String
  type : Option SymbolId := none
  deriving DecidableEq, Repr, Inhabited

/-- The default value of a parameter as its declaration spells it. -/
structure DefaultValue where
  method : SymbolId
  /-- The position of the parameter. -/
  parameter : Nat
  text : String
  /-- Absent where the text could not be resolved. -/
  resolved : Option ResolvedExpression := none
  deriving DecidableEq, Repr, Inhabited

/-- What a node resolves to. -/
structure NodeBinding where
  node : NodeId
  symbol : Option SymbolId := none
  type : Option SymbolId := none
  deriving DecidableEq, Repr, Inhabited

/-- A compilation unit and what its nodes resolve to. -/
structure UnitDocument where
  file : String
  arena : NodeArena
  root : NodeId
  bindings : List NodeBinding := []
  deriving DecidableEq, Repr, Inhabited

/-- A resolved program. -/
structure ProgramDocument where
  /-- The program's own assembly; every other one is external. -/
  assembly : AssemblyId
  symbols : SymbolArena
  defaultValues : List DefaultValue := []
  units : List UnitDocument := []
  deriving DecidableEq, Repr, Inhabited

/-! ### Reading and writing -/

namespace ResolvedExpression

/-- A resolved expression as documents hold it. -/
def toJson (expression : ResolvedExpression) : Json :=
  .object
    [("text", .string expression.text),
     ("ty", Json.option SymbolId.toJson expression.type)]

/-- Reads what `toJson` writes. -/
def read (value : Json) : Except ReadError ResolvedExpression := do
  let record ← Json.readRecord ["text", "ty"] value
  let text ← record.required "text" Json.readText
  let type ← record.optional "ty" SymbolId.read
  return { text, type }

end ResolvedExpression

namespace DefaultValue

/-- A default value as documents hold it. -/
def toJson (value : DefaultValue) : Json :=
  .object
    [("method", value.method.toJson),
     ("parameter", Json.nat value.parameter),
     ("text", .string value.text),
     ("resolved", Json.option ResolvedExpression.toJson value.resolved)]

/-- Reads what `toJson` writes. -/
def read (value : Json) : Except ReadError DefaultValue := do
  let record ← Json.readRecord ["method", "parameter", "text", "resolved"] value
  let method ← record.required "method" SymbolId.read
  let parameter ← record.required "parameter" (Json.readNatOfBits 64)
  let text ← record.required "text" Json.readText
  let resolved ← record.optional "resolved" ResolvedExpression.read
  return { method, parameter, text, resolved }

end DefaultValue

namespace NodeBinding

/-- A binding as documents hold it. -/
def toJson (binding : NodeBinding) : Json :=
  .object
    [("node", binding.node.toJson),
     ("symbol", Json.option SymbolId.toJson binding.symbol),
     ("ty", Json.option SymbolId.toJson binding.type)]

/-- Reads what `toJson` writes. -/
def read (value : Json) : Except ReadError NodeBinding := do
  let record ← Json.readRecord ["node", "symbol", "ty"] value
  let node ← record.required "node" NodeId.read
  let symbol ← record.optional "symbol" SymbolId.read
  let type ← record.optional "ty" SymbolId.read
  return { node, symbol, type }

end NodeBinding

namespace UnitDocument

/-- A unit as documents hold it. -/
def toJson (unit : UnitDocument) : Json :=
  .object
    [("file", .string unit.file),
     ("arena", unit.arena.toJson),
     ("root", unit.root.toJson),
     ("bindings", Json.list NodeBinding.toJson unit.bindings)]

/-- Reads what `toJson` writes. -/
def read (value : Json) : Except ReadError UnitDocument := do
  let record ← Json.readRecord ["file", "arena", "root", "bindings"] value
  let file ← record.required "file" Json.readText
  let arena ← record.required "arena" NodeArena.read
  let root ← record.required "root" NodeId.read
  let bindings ← record.list "bindings" NodeBinding.read
  return { file, arena, root, bindings }

end UnitDocument

namespace ProgramDocument

/-- A program as documents hold it. -/
def toJson (program : ProgramDocument) : Json :=
  .object
    [("assembly", program.assembly.toJson),
     ("symbols", program.symbols.toJson),
     ("default_values", Json.list DefaultValue.toJson program.defaultValues),
     ("units", Json.list UnitDocument.toJson program.units)]

/-- Reads what `toJson` writes. Nothing is said yet about where handles point. -/
def read (value : Json) : Except ReadError ProgramDocument := do
  let record ← Json.readRecord ["assembly", "symbols", "default_values", "units"] value
  let assembly ← record.required "assembly" AssemblyId.read
  let symbols ← record.required "symbols" SymbolArena.read
  let defaultValues ← record.list "default_values" DefaultValue.read
  let units ← record.list "units" UnitDocument.read
  return { assembly, symbols, defaultValues, units }

end ProgramDocument

/-! ### Validity -/

/-- Why a program document is refused. -/
inductive ProgramError where
  | unreadable (error : ReadError)
  | danglingNode (file : String) (node : NodeId)
  | danglingSymbol (file : String) (symbol : SymbolId)
  | cyclicSymbol (symbol : SymbolId)
  | cyclicNamespace (id : NamespaceId)
  deriving DecidableEq, Repr

namespace ProgramError

/-- What stands for a file where the fault lies in the symbols. -/
def symbolsFile : String := "<symbols>"

/-- What stands for a file where the fault lies in the default values. -/
def defaultValuesFile : String := "<default values>"

/-- The fault of a document in words. -/
def message : ProgramError → String
  | unreadable _ => "malformed program document"
  | danglingNode file node => file ++ ": reference to missing node " ++ node.display
  | danglingSymbol file symbol =>
    file ++ ": reference to missing symbol " ++ toString symbol.index
  | cyclicSymbol symbol =>
    symbolsFile ++ ": symbol " ++ toString symbol.index ++ " is part of a reference cycle"
  | cyclicNamespace id =>
    symbolsFile ++ ": namespace " ++ toString id.index ++ " is its own ancestor"

end ProgramError

namespace NodeBinding

/-- Refuses a binding of a missing node or to a missing symbol. -/
def validate (binding : NodeBinding) (symbols : SymbolArena) (file : String)
    (arena : NodeArena) : Except ProgramError Unit := do
  if !arena.contains binding.node then throw (.danglingNode file binding.node)
  let bound := binding.symbol.toList ++ binding.type.toList
  if let some symbol := bound.find? fun id => (symbols.get? id).isNone then
    throw (.danglingSymbol file symbol)

end NodeBinding

namespace UnitDocument

/-- Refuses a unit whose root is missing or whose bindings point nowhere. -/
def validate (unit : UnitDocument) (symbols : SymbolArena) : Except ProgramError Unit := do
  if !unit.arena.contains unit.root then throw (.danglingNode unit.file unit.root)
  unit.bindings.forM fun binding => binding.validate symbols unit.file unit.arena

end UnitDocument

namespace ProgramDocument

/-- Refuses a program whose symbols are not well formed. -/
def validateSymbols (symbols : SymbolArena) : Except ProgramError Unit := do
  if let some symbol := symbols.firstDanglingReference? then
    throw (.danglingSymbol ProgramError.symbolsFile symbol)
  if let some symbol := symbols.firstCyclicReference? then
    throw (.cyclicSymbol symbol)
  if let some id := symbols.firstCyclicNamespace? then
    throw (.cyclicNamespace id)

/-- Refuses a default value of a missing method. -/
def validateDefaultValue (symbols : SymbolArena) (value : DefaultValue) :
    Except ProgramError Unit :=
  if (symbols.get? value.method).isNone then
    .error (.danglingSymbol ProgramError.defaultValuesFile value.method)
  else .ok ()

/-- Refuses a program for its first fault: in the symbols, in the default values, or in a unit. -/
def validate (program : ProgramDocument) : Except ProgramError Unit := do
  validateSymbols program.symbols
  program.defaultValues.forM (validateDefaultValue program.symbols)
  program.units.forM fun unit => unit.validate program.symbols

/-- The valid program that a value holds. -/
def load (value : Json) : Except ProgramError ProgramDocument :=
  match read value with
  | .error error => .error (.unreadable error)
  | .ok program => program.validate.map fun _ => program

/-- The valid program that a text holds. -/
def parse (text : String) : Except ProgramError ProgramDocument :=
  match Json.parse? text with
  | none => .error (.unreadable .malformed)
  | some value => load value

end ProgramDocument

end Portability
