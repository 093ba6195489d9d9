import Portability.Program.Document

/-!
# Semantic models

The check asks for the meaning of nodes only through a `SemanticModel`: which symbol a node
resolves to, which type it has, and what the default value of a parameter means where it is
declared. `ProgramIndex` and `UnitBindings` answer these questions from a program document.
-/

namespace Portability

/-- What is known about the nodes of a compilation unit. -/
structure SemanticModel where
  symbols : SymbolArena
  /-- The program's own assembly; every other one is external. -/
  programAssembly : AssemblyId
  /-- The symbol that a node resolves to: the method of an invocation, the member of a member
  access, the type of a type's name, the operator of a cast. -/
  symbolOf : NodeId → Option SymbolId
  /-- The type of an expression, or the declared type of a declarator. -/
  typeOf : NodeId → Option SymbolId
  /-- The text of a parameter's default value where it is declared. -/
  defaultValueText : SymbolId → Nat → Option String
  /-- What a text means in the scope of a method's declaration. -/
  resolveInScope : SymbolId → String → Option ResolvedExpression

/-- What all units of a program share. -/
structure ProgramIndex where
  assembly : AssemblyId
  symbols : SymbolArena
  /-- At most one value for each parameter of each method. -/
  defaultValues : List DefaultValue := []

namespace ProgramIndex

/-- Adds a default value in place of the one that its parameter had. -/
def addDefaultValue (index : ProgramIndex) (value : DefaultValue) : ProgramIndex :=
  let others := index.defaultValues.filter fun other =>
    !(other.method == value.method && other.parameter == value.parameter)
  { index with defaultValues := others ++ [value] }

/-- The default value of a parameter. -/
def defaultValue? (index : ProgramIndex) (method : SymbolId) (parameter : Nat) :
    Option DefaultValue :=
  index.defaultValues.find? fun value => value.method == method && value.parameter == parameter

/-- What a text means in the scope of a method: the resolution of the first default value of the
method that is spelled so. -/
def resolve? (index : ProgramIndex) (method : SymbolId) (text : String) :
    Option ResolvedExpression :=
  (index.defaultValues.find? fun value => value.method == method && value.text == text).bind
    (·.resolved)

/-- An index with the given default values, added one after the other. -/
def ofDefaultValues (assembly : AssemblyId) (symbols : SymbolArena)
    (values : List DefaultValue) : ProgramIndex :=
  values.foldl addDefaultValue { assembly, symbols }

end ProgramIndex

/-- What the nodes of a unit resolve to. -/
structure UnitBindings where
  bindings : List NodeBinding := []

namespace UnitBindings

/-- The symbol bound last to a node. -/
def symbolOf (unit : UnitBindings) (node : NodeId) : Option SymbolId :=
  unit.bindings.reverse.findSome? fun binding =>
    if binding.node == node then binding.symbol else none

/-- The type bound last to a node. -/
def typeOf (unit : UnitBindings) (node : NodeId) : Option SymbolId :=
  unit.bindings.reverse.findSome? fun binding =>
    if binding.node == node then binding.type else none

end UnitBindings

/-- The model of a unit of a program. -/
def SemanticModel.ofProgram (index : ProgramIndex) (bindings : UnitBindings) : SemanticModel where
  symbols := index.symbols
  programAssembly := index.assembly
  symbolOf := bindings.symbolOf
  typeOf := bindings.typeOf
  defaultValueText method parameter := (index.defaultValue? method parameter).map (·.text)
  resolveInScope := index.resolve?

/-- The index that all units of a program share. -/
def ProgramDocument.index (program : ProgramDocument) : ProgramIndex :=
  .ofDefaultValues program.assembly program.symbols program.defaultValues

/-- The model of one of a program's units. -/
def ProgramDocument.modelOf (program : ProgramDocument) (unit : UnitDocument) : SemanticModel :=
  .ofProgram program.index { bindings := unit.bindings }

end Portability
