import Portability.RefKind
import Portability.Symbol.Constant

/-!
# Symbols

What the names of a program resolve to: types, methods, fields, properties, events and the rest.
Symbols refer to each other, to their namespace and to their assembly by handles into an arena
(`Portability.SymbolArena`), which may point nowhere.
-/

namespace Portability

/-- The handle of a symbol. -/
structure SymbolId where
  index : Nat
  deriving DecidableEq, Repr, Inhabited

/-- The handle of a namespace. -/
structure NamespaceId where
  index : Nat
  deriving DecidableEq, Repr, Inhabited

/-- The namespace that holds every other one. -/
def NamespaceId.global : NamespaceId := ⟨0⟩

/-- The handle of an assembly, the unit a program is compiled to. -/
structure AssemblyId where
  index : Nat
  deriving DecidableEq, Repr, Inhabited

/-- The kinds of types. -/
inductive TypeKind where
  | classType
  | struct
  | interface
  | enum
  | delegate
  | typeParameter
  /-- `T[]` -/
  | array
  /-- `T?` over a value type `T` -/
  | nullable
  deriving DecidableEq, Repr, Inhabited

namespace TypeKind

/-- Whether a type of this kind stands for its element type. -/
def isContainer : TypeKind → Bool
  | array | nullable => true
  | _ => false

/-- The names of the kinds of types in documents. -/
instance : Named TypeKind where
  all := [.classType, .struct, .interface, .enum, .delegate, .typeParameter, .array, .nullable]
  name
    | .classType => "Class"
    | .struct => "Struct"
    | .interface => "Interface"
    | .enum => "Enum"
    | .delegate => "Delegate"
    | .typeParameter => "TypeParameter"
    | .array => "Array"
    | .nullable => "Nullable"

end TypeKind

/-- Marks the type that every value can be boxed into. -/
inductive SpecialType where
  | none
  | object
  deriving DecidableEq, Repr, Inhabited

/-- The names of the special types in documents. -/
instance : Named SpecialType where
  all := [.none, .object]
  name
    | .none => "None"
    | .object => "Object"

/-- The kinds of methods. -/
inductive MethodKind where
  | ordinary
  | constructor
  /-- A conversion operator that a program defines. -/
  | conversion
  deriving DecidableEq, Repr, Inhabited

/-- The names of the kinds of methods in documents. -/
instance : Named MethodKind where
  all := [.ordinary, .constructor, .conversion]
  name
    | .ordinary => "Ordinary"
    | .constructor => "Constructor"
    | .conversion => "Conversion"

/-- A type. A constructed generic type repeats the parameters of its definition and has an argument
for each; the definition itself has no arguments. -/
structure TypeSymbol where
  name : String
  kind : TypeKind
  assembly : AssemblyId
  namespaceId : Option NamespaceId := none
  containingType : Option SymbolId := none
  typeParameters : List String := []
  typeArguments : List SymbolId := []
  /-- The type that an array or a nullable type contains. -/
  elementType : Option SymbolId := none
  interfaces : List SymbolId := []
  special : SpecialType := .none
  deriving DecidableEq, Repr, Inhabited

namespace TypeSymbol

/-- Whether a type has type parameters. -/
def isGeneric (type : TypeSymbol) : Bool :=
  !type.typeParameters.isEmpty

/-- Whether a type is a delegate. -/
def isDelegate (type : TypeSymbol) : Bool :=
  type.kind == .delegate

/-- Whether a type is an interface. -/
def isInterface (type : TypeSymbol) : Bool :=
  type.kind == .interface

end TypeSymbol

/-- A parameter of a method. -/
structure Parameter where
  name : String
  type : SymbolId
  refKind : RefKind := .none
  /-- Whether the parameter takes all arguments that are left. -/
  isParams : Bool := false
  defaultValue : Option Constant := none
  deriving DecidableEq, Repr, Inhabited

/-- A method. -/
structure MethodSymbol where
  name : String
  containingType : SymbolId
  assembly : AssemblyId
  kind : MethodKind := .ordinary
  typeParameters : List String := []
  typeArguments : List SymbolId := []
  parameters : List Parameter := []
  /-- Absent where nothing is returned. -/
  returnType : Option SymbolId := none
  isExtension : Bool := false
  deriving DecidableEq, Repr, Inhabited

/-- Whether a method has type parameters. -/
def MethodSymbol.isGeneric (method : MethodSymbol) : Bool :=
  !method.typeParameters.isEmpty

/-- A field, a property or an event. -/
structure MemberSymbol where
  name : String
  containingType : SymbolId
  assembly : AssemblyId
  type : SymbolId
  deriving DecidableEq, Repr, Inhabited

/-- A local, a parameter, a label, or anything else that the policy does not look into. -/
structure OtherSymbol where
  name : String
  assembly : AssemblyId
  type : Option SymbolId := none
  deriving DecidableEq, Repr, Inhabited

/-- What a name resolves to. -/
inductive Symbol where
  | type (type : TypeSymbol)
  | method (method : MethodSymbol)
  | field (field : MemberSymbol)
  | property (property : MemberSymbol)
  | event (event : MemberSymbol)
  | other (other : OtherSymbol)
  deriving DecidableEq, Repr, Inhabited

namespace Symbol

/-- The name a symbol is declared with. -/
def name : Symbol → String
  | type t => t.name
  | method m => m.name
  | field m | property m | event m => m.name
  | other o => o.name

/-- The assembly a symbol is compiled to. -/
def assembly : Symbol → AssemblyId
  | type t => t.assembly
  | method m => m.assembly
  | field m | property m | event m => m.assembly
  | other o => o.assembly

/-- The type that declares a nested type or a member. -/
def containingType : Symbol → Option SymbolId
  | type t => t.containingType
  | method m => some m.containingType
  | field m | property m | event m => some m.containingType
  | other _ => none

/-- The namespace that declares a type. Members and nested types have theirs through their
containing type. -/
def declaredNamespace : Symbol → Option NamespaceId
  | type t => t.namespaceId
  | _ => none

/-- The names of a symbol's type parameters. -/
def typeParameters : Symbol → List String
  | type t => t.typeParameters
  | method m => m.typeParameters
  | _ => []

/-- A symbol as a type, if it is one. -/
def asType? : Symbol → Option TypeSymbol
  | type t => some t
  | _ => none

/-- A symbol as a method, if it is one. -/
def asMethod? : Symbol → Option MethodSymbol
  | method m => some m
  | _ => none

/-- Whether a symbol is a type. -/
def isType (symbol : Symbol) : Bool :=
  symbol.asType?.isSome

/-- The symbols that the naming and the legality of a symbol depend on: the containing type and,
for a type, its element type and its type arguments. -/
def structuralReferences : Symbol → List SymbolId
  | type t => t.containingType.toList ++ t.elementType.toList ++ t.typeArguments
  | symbol => symbol.containingType.toList

/-- Every symbol that a symbol refers to. -/
def references : Symbol → List SymbolId
  | type t =>
    t.containingType.toList ++ t.elementType.toList ++ t.typeArguments ++ t.interfaces
  | method m =>
    m.containingType :: m.returnType.toList ++ m.typeArguments ++ m.parameters.map (·.type)
  | field m | property m | event m => [m.containingType, m.type]
  | other o => o.type.toList

end Symbol

end Portability
