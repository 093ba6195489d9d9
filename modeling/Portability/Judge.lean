import Portability.Policy.Lookup
import Portability.Program.Model
import Portability.Symbol.Name

/-!
# Judging symbols

A symbol of another assembly than the program's own is *external*. The judge says whether an
external symbol may be used where it occurs, by looking its names up in the policy. Questions to
the legal lists are `Checked`, since a miss is recorded; questions to the deny lists are not.
-/

namespace Portability

/-- Where a type occurs. -/
inductive TypePosition where
  /-- Constructed, asked for, or used as a value. -/
  | general
  /-- A parameter, a return value or a member of external code. -/
  | parameter
  /-- The type whose member is accessed. -/
  | memberHost
  deriving DecidableEq, Repr, Inhabited

namespace TypePosition

/-- The list that allows generic types at a position. -/
def list : TypePosition → LegalList
  | general | memberHost => .genericType
  | parameter => .parameterGenericType

/-- The group in which generic types at a position are missed. -/
def bucket : TypePosition → MissBucket
  | general => .genericType
  | parameter => .parameterGenericType
  | memberHost => .memberHost

end TypePosition

/-- A program's symbols and the policy they are judged by. -/
structure Judge where
  model : SemanticModel
  policy : RulePolicy

namespace Judge

/-- The symbols of the program. -/
def symbols (judge : Judge) : SymbolArena :=
  judge.model.symbols

/-- Whether a symbol belongs to another assembly. Arrays and nullable types answer for what they
contain, and a missing symbol is not external. -/
def isExternal (judge : Judge) (id : SymbolId) : Bool :=
  match judge.symbols.get? (judge.symbols.core id) with
  | some symbol => symbol.assembly != judge.model.programAssembly
  | none => false

/-! ### Types -/

/-- Whether the list of a position allows a generic type by its canonical or its extended name. -/
def lookupGeneric (judge : Judge) (id : SymbolId) (position : TypePosition) : Checked Bool :=
  judge.policy.lookupInto position.list (judge.symbols.canonicalName id)
    (some (judge.symbols.displayName id)) position.bucket

/-- Whether a type is denied by its canonical or its extended name. -/
def deniesType (judge : Judge) (id : SymbolId) : Bool :=
  judge.policy.denies .type (judge.symbols.canonicalName id) ||
    judge.policy.denies .type (judge.symbols.displayName id)

/-- Whether a type may occur at a position, where containers are followed through at most `fuel`
types. -/
def allowsTypeTo (judge : Judge) (position : TypePosition) : Nat → SymbolId → Checked Bool
  | 0, _ => pure true
  | fuel + 1, id =>
    match judge.symbols.type? id with
    | none => pure true
    | some type =>
      if type.kind.isContainer then
        match type.elementType with
        | some element => judge.allowsTypeTo position fuel element
        | none => pure true
      else if type.isDelegate || type.kind == .typeParameter || !judge.isExternal id then pure true
      else if type.isGeneric then judge.lookupGeneric id position
      else pure (!judge.deniesType id)

/-- Whether a type may occur at a position. What is not a type may; a container may where what it
contains may; delegates, type parameters and the program's own types always may. -/
def allowsType (judge : Judge) (id : SymbolId) (position : TypePosition) : Checked Bool :=
  judge.allowsTypeTo position judge.symbols.symbols.size id

/-- Whether a generic type may be used, or may have its members accessed. -/
def allowsGenericType (judge : Judge) (id : SymbolId) (asHost : Bool) : Checked Bool :=
  if judge.isExternal id then
    judge.lookupGeneric id (if asHost then .memberHost else .general)
  else pure true

/-- Whether a generic type may occur in a signature. -/
def allowsParameterGenericType (judge : Judge) (id : SymbolId) : Checked Bool :=
  if judge.isExternal id then judge.lookupGeneric id .parameter else pure true

/-- Whether the members of a type are exempt from the checks of the types they mention: those of
delegates, and of generic types that may have their members accessed. -/
def isExemptHost (judge : Judge) (id : SymbolId) : Checked Bool :=
  match judge.symbols.type? id with
  | none => pure false
  | some type =>
    if type.isDelegate then pure true
    else if type.isGeneric then judge.allowsGenericType id true
    else pure false

/-- The container interfaces that must not be given the program's own containers. -/
def containerInterfaces : List String :=
  ["IEnumerable", "ICollection", "IList", "IDictionary"]

/-- Whether a type is an external container interface in the namespace `System` or below. -/
def isSystemContainerInterface (judge : Judge) (id : SymbolId) : Bool :=
  match judge.symbols.type? id with
  | none => false
  | some type =>
    let path := match judge.symbols.containingNamespace? id with
      | some ns => judge.symbols.namespacePath ns
      | none => ""
    type.isInterface && judge.isExternal id && containerInterfaces.contains type.name &&
      (path == "System" || Dotted.startsWith path "System.")

/-! ### Members -/

/-- Whether the type that declares an extension method is listed. A method that is not declared by
a type may be used. -/
def allowsExtension (judge : Judge) (method : SymbolId) : Checked Bool :=
  match judge.symbols.containingType? method with
  | some host => judge.policy.lookup .extension (judge.symbols.canonicalName host)
  | none => pure true

/-- Whether a generic method is listed. -/
def allowsGenericMethod (judge : Judge) (method : SymbolId) : Checked Bool :=
  judge.policy.lookup .genericMethod (judge.symbols.memberName method)

/-- Whether a method is denied. -/
def deniesMethod (judge : Judge) (method : SymbolId) : Bool :=
  judge.policy.denies .method (judge.symbols.memberName method)

/-- Whether a property is denied. -/
def deniesProperty (judge : Judge) (property : SymbolId) : Bool :=
  judge.policy.denies .property (judge.symbols.memberName property)

/-- Whether a field is denied. -/
def deniesField (judge : Judge) (field : SymbolId) : Bool :=
  judge.policy.denies .field (judge.symbols.memberName field)

/-! ### Conversions -/

/-- Whether a type is an external type that every value can be boxed into. -/
def isBoxedObject (judge : Judge) (id : SymbolId) (type : TypeSymbol) : Bool :=
  type.special == .object && judge.isExternal id

/-- Whether a type is generic or the program's own. -/
def isGenericOrLocal (judge : Judge) (id : SymbolId) (type : TypeSymbol) : Bool :=
  type.isGeneric || !judge.isExternal id

/-- The extended name of a symbol where it differs from the canonical one. -/
def extension? (judge : Judge) (id : SymbolId) : Option String :=
  let extended := judge.symbols.displayName id
  if extended = judge.symbols.canonicalName id then none else some extended

/-- Whether the conversion between two types is listed. -/
def lookupConversion (judge : Judge) (source target : SymbolId) : Checked Bool :=
  judge.policy.lookupConversion
    (judge.symbols.canonicalName source) (judge.extension? source)
    (judge.symbols.canonicalName target) (judge.extension? target)

/-- Whether a value of one type may be converted to another. The list of conversions is asked only
for a boxed object on one side and a generic type or one of the program's own on the other, and for
a plain external type that is converted to a generic one; delegates are never asked for. -/
def allowsConversion (judge : Judge) (source target : SymbolId) : Checked Bool :=
  if source = target then pure true
  else
    match judge.symbols.type? source, judge.symbols.type? target with
    | some src, some dst =>
      if judge.isBoxedObject source src && !dst.isDelegate && judge.isGenericOrLocal target dst then
        judge.lookupConversion source target
      else if judge.isBoxedObject target dst && !src.isDelegate &&
          judge.isGenericOrLocal source src then
        judge.lookupConversion source target
      else if src.isDelegate || dst.isDelegate then pure true
      else if !src.isGeneric && judge.isExternal source && dst.isGeneric then
        judge.lookupConversion source target
      else pure true
    | _, _ => pure true

end Judge

end Portability
