import Portability.Symbol.Arena

/-!
# Symbols in documents

Every type of the symbol arena has a `toJson`, which writes all its fields in the order of their
declaration, and a `read` that accepts what `toJson` writes. Fields that are lists, options or
flags may be missing. A symbol is tagged by its alternative in the field `symbol`.
-/

namespace Portability

/-! ### Handles -/

/-- A handle is written as its number. -/
def SymbolId.toJson (id : SymbolId) : Json :=
  Json.nat id.index

/-- A handle is a number of 32 bits. -/
def SymbolId.read (value : Json) : Except ReadError SymbolId :=
  (Json.readNatOfBits 32 value).map SymbolId.mk

/-- A handle is written as its number. -/
def NamespaceId.toJson (id : NamespaceId) : Json :=
  Json.nat id.index

/-- A handle is a number of 32 bits. -/
def NamespaceId.read (value : Json) : Except ReadError NamespaceId :=
  (Json.readNatOfBits 32 value).map NamespaceId.mk

/-- A handle is written as its number. -/
def AssemblyId.toJson (id : AssemblyId) : Json :=
  Json.nat id.index

/-- A handle is a number of 32 bits. -/
def AssemblyId.read (value : Json) : Except ReadError AssemblyId :=
  (Json.readNatOfBits 32 value).map AssemblyId.mk

/-! ### Namespaces -/

namespace Namespace

/-- A namespace as documents hold it. -/
def toJson (ns : Namespace) : Json :=
  .object
    [("name", .string ns.name),
     ("parent", Json.option NamespaceId.toJson ns.parent),
     ("children", Json.list NamespaceId.toJson ns.children)]

/-- Reads what `toJson` writes. -/
def read (value : Json) : Except ReadError Namespace := do
  let record ← Json.readRecord ["name", "parent", "children"] value
  let name ← record.required "name" Json.readText
  let parent ← record.optional "parent" NamespaceId.read
  let children ← record.list "children" NamespaceId.read
  return { name, parent, children }

end Namespace

/-! ### Parameters -/

namespace Parameter

/-- A parameter as documents hold it. -/
def toJson (parameter : Parameter) : Json :=
  .object
    [("name", .string parameter.name),
     ("ty", parameter.type.toJson),
     ("ref_kind", Named.toJson parameter.refKind),
     ("is_params", .bool parameter.isParams),
     ("default", Json.option Constant.toJson parameter.defaultValue)]

/-- Reads what `toJson` writes. A parameter is always a part of a tagged value. -/
def read (value : Json) : Except ReadError Parameter := do
  let record ← Json.readRecord ["name", "ty", "ref_kind", "is_params", "default"] value
  let name ← record.required "name" Json.readText
  let type ← record.required "ty" SymbolId.read
  let refKind ← record.withDefault "ref_kind" .none Named.readInTagged
  let isParams ← record.withDefault "is_params" false Json.readBool
  let defaultValue ← record.optional "default" Constant.readInTagged
  return { name, type, refKind, isParams, defaultValue }

end Parameter

/-! ### Symbols -/

namespace TypeSymbol

/-- The names of a type's fields, in the order of their declaration. -/
def fieldNames : List String :=
  ["name", "kind", "assembly", "namespace", "containing_type", "type_parameters",
   "type_arguments", "element_type", "interfaces", "special"]

/-- The fields of a type. -/
def fields (type : TypeSymbol) : List (String × Json) :=
  [("name", .string type.name),
   ("kind", Named.toJson type.kind),
   ("assembly", type.assembly.toJson),
   ("namespace", Json.option NamespaceId.toJson type.namespaceId),
   ("containing_type", Json.option SymbolId.toJson type.containingType),
   ("type_parameters", Json.strings type.typeParameters),
   ("type_arguments", Json.list SymbolId.toJson type.typeArguments),
   ("element_type", Json.option SymbolId.toJson type.elementType),
   ("interfaces", Json.list SymbolId.toJson type.interfaces),
   ("special", Named.toJson type.special)]

/-- A type from its fields. -/
def ofRecord (record : Json.Record) : Except ReadError TypeSymbol := do
  let name ← record.required "name" Json.readText
  let kind ← record.required "kind" Named.readInTagged
  let assembly ← record.required "assembly" AssemblyId.read
  let namespaceId ← record.optional "namespace" NamespaceId.read
  let containingType ← record.optional "containing_type" SymbolId.read
  let typeParameters ← record.list "type_parameters" Json.readText
  let typeArguments ← record.list "type_arguments" SymbolId.read
  let elementType ← record.optional "element_type" SymbolId.read
  let interfaces ← record.list "interfaces" SymbolId.read
  let special ← record.withDefault "special" .none Named.readInTagged
  return { name, kind, assembly, namespaceId, containingType, typeParameters, typeArguments,
           elementType, interfaces, special }

end TypeSymbol

namespace MethodSymbol

/-- The names of a method's fields, in the order of their declaration. -/
def fieldNames : List String :=
  ["name", "containing_type", "assembly", "kind", "type_parameters", "type_arguments",
   "parameters", "return_type", "is_extension"]

/-- The fields of a method. -/
def fields (method : MethodSymbol) : List (String × Json) :=
  [("name", .string method.name),
   ("containing_type", method.containingType.toJson),
   ("assembly", method.assembly.toJson),
   ("kind", Named.toJson method.kind),
   ("type_parameters", Json.strings method.typeParameters),
   ("type_arguments", Json.list SymbolId.toJson method.typeArguments),
   ("parameters", Json.list Parameter.toJson method.parameters),
   ("return_type", Json.option SymbolId.toJson method.returnType),
   ("is_extension", .bool method.isExtension)]

/-- A method from its fields. -/
def ofRecord (record : Json.Record) : Except ReadError MethodSymbol := do
  let name ← record.required "name" Json.readText
  let containingType ← record.required "containing_type" SymbolId.read
  let assembly ← record.required "assembly" AssemblyId.read
  let kind ← record.withDefault "kind" .ordinary Named.readInTagged
  let typeParameters ← record.list "type_parameters" Json.readText
  let typeArguments ← record.list "type_arguments" SymbolId.read
  let parameters ← record.list "parameters" Parameter.read
  let returnType ← record.optional "return_type" SymbolId.read
  let isExtension ← record.withDefault "is_extension" false Json.readBool
  return { name, containingType, assembly, kind, typeParameters, typeArguments, parameters,
           returnType, isExtension }

end MethodSymbol

namespace MemberSymbol

/-- The names of a member's fields, in the order of their declaration. -/
def fieldNames : List String :=
  ["name", "containing_type", "assembly", "ty"]

/-- The fields of a member. -/
def fields (member : MemberSymbol) : List (String × Json) :=
  [("name", .string member.name),
   ("containing_type", member.containingType.toJson),
   ("assembly", member.assembly.toJson),
   ("ty", member.type.toJson)]

/-- A member from its fields. -/
def ofRecord (record : Json.Record) : Except ReadError MemberSymbol := do
  let name ← record.required "name" Json.readText
  let containingType ← record.required "containing_type" SymbolId.read
  let assembly ← record.required "assembly" AssemblyId.read
  let type ← record.required "ty" SymbolId.read
  return { name, containingType, assembly, type }

end MemberSymbol

namespace OtherSymbol

/-- The names of the fields of any other symbol, in the order of their declaration. -/
def fieldNames : List String :=
  ["name", "assembly", "ty"]

/-- The fields of any other symbol. -/
def fields (other : OtherSymbol) : List (String × Json) :=
  [("name", .string other.name),
   ("assembly", other.assembly.toJson),
   ("ty", Json.option SymbolId.toJson other.type)]

/-- Any other symbol from its fields. -/
def ofRecord (record : Json.Record) : Except ReadError OtherSymbol := do
  let name ← record.required "name" Json.readText
  let assembly ← record.required "assembly" AssemblyId.read
  let type ← record.optional "ty" SymbolId.read
  return { name, assembly, type }

end OtherSymbol

/-- The alternatives of `Symbol`. -/
inductive SymbolKind where
  | type
  | method
  | field
  | property
  | event
  | other
  deriving DecidableEq, Repr, Inhabited

namespace SymbolKind

/-- The names of the kinds of symbols in documents. -/
instance : Named SymbolKind where
  all := [.type, .method, .field, .property, .event, .other]
  name
    | .type => "Type"
    | .method => "Method"
    | .field => "Field"
    | .property => "Property"
    | .event => "Event"
    | .other => "Other"

/-- The names of the fields of an alternative, in the order of their declaration. -/
def fieldNames : SymbolKind → List String
  | type => TypeSymbol.fieldNames
  | method => MethodSymbol.fieldNames
  | field | property | event => MemberSymbol.fieldNames
  | other => OtherSymbol.fieldNames

end SymbolKind

namespace Symbol

/-- The alternative of a symbol. -/
def kind : Symbol → SymbolKind
  | type _ => .type
  | method _ => .method
  | field _ => .field
  | property _ => .property
  | event _ => .event
  | other _ => .other

/-- The fields of a symbol, without its tag. -/
def fields : Symbol → List (String × Json)
  | type t => t.fields
  | method m => m.fields
  | field m | property m | event m => m.fields
  | other o => o.fields

/-- A symbol from its tag and its fields. -/
def ofRecord (kind : SymbolKind) (record : Json.Record) : Except ReadError Symbol :=
  match kind with
  | .type => (TypeSymbol.ofRecord record).map type
  | .method => (MethodSymbol.ofRecord record).map method
  | .field => (MemberSymbol.ofRecord record).map field
  | .property => (MemberSymbol.ofRecord record).map property
  | .event => (MemberSymbol.ofRecord record).map event
  | .other => (OtherSymbol.ofRecord record).map other

/-- A symbol as documents hold it. -/
def toJson (symbol : Symbol) : Json :=
  .object (("symbol", Named.toJson symbol.kind) :: symbol.fields)

/-- Reads what `toJson` writes. -/
def read (value : Json) : Except ReadError Symbol := do
  let (tag, content) ← Json.readTagged "symbol" value
  match (Named.ofName? tag : Option SymbolKind) with
  | none => throw (.unknownName tag)
  | some kind => ofRecord kind (← Json.readRecord kind.fieldNames content)

end Symbol

/-! ### Arenas -/

namespace SymbolArena

/-- An arena as documents hold it. -/
def toJson (arena : SymbolArena) : Json :=
  .object
    [("assemblies", Json.strings arena.assemblies.toList),
     ("namespaces", Json.list Namespace.toJson arena.namespaces.toList),
     ("symbols", Json.list Symbol.toJson arena.symbols.toList)]

/-- Reads what `toJson` writes. Without namespaces there is the global one. -/
def read (value : Json) : Except ReadError SymbolArena := do
  let record ← Json.readRecord ["assemblies", "namespaces", "symbols"] value
  let assemblies ← record.list "assemblies" Json.readText
  let namespaces ← record.withDefault "namespaces" Namespace.globalOnly.toList
    (Json.readList Namespace.read)
  let symbols ← record.list "symbols" Symbol.read
  return {
    assemblies := assemblies.toArray
    namespaces := namespaces.toArray
    symbols := symbols.toArray }

end SymbolArena

end Portability
