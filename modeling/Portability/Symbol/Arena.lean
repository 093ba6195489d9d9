import Portability.Symbol.Basic
import Portability.Text.Dotted

/-!
# Symbol arenas

An arena owns the assemblies, the namespaces and the symbols of a program. Handles are positions;
entries are added at the end and never removed, so a handle keeps its meaning.

Namespaces form a tree below the global one, in which each knows its parent and its children.
-/

namespace Portability

/-- A namespace: its own name, without those of its parents, and its place in the tree. -/
structure Namespace where
  name : String
  parent : Option NamespaceId := none
  children : List NamespaceId := []
  deriving DecidableEq, Repr, Inhabited

/-- The namespaces of an empty program: the global one. -/
def Namespace.globalOnly : Array Namespace :=
  #[{ name := "" }]

/-- The owner of a program's assemblies, namespaces and symbols. -/
structure SymbolArena where
  assemblies : Array String := #[]
  namespaces : Array Namespace := Namespace.globalOnly
  symbols : Array Symbol := #[]
  deriving DecidableEq, Repr, Inhabited

namespace SymbolArena

/-- The arena of an empty program. -/
def empty : SymbolArena := {}

/-! ### Assemblies -/

/-- The handle of an assembly, which is added where no assembly has its name. -/
def addAssembly (arena : SymbolArena) (name : String) : AssemblyId × SymbolArena :=
  match arena.assemblies.toList.findIdx? (· == name) with
  | some index => (⟨index⟩, arena)
  | none =>
    (⟨arena.assemblies.size⟩, { arena with assemblies := arena.assemblies.push name })

/-- The name of an assembly. -/
def assemblyName? (arena : SymbolArena) (id : AssemblyId) : Option String :=
  arena.assemblies[id.index]?

/-! ### Namespaces -/

/-- A namespace by its handle. -/
def namespace? (arena : SymbolArena) (id : NamespaceId) : Option Namespace :=
  arena.namespaces[id.index]?

/-- The parent of a namespace. A handle that points nowhere has no parent. -/
def parent? (arena : SymbolArena) (id : NamespaceId) : Option NamespaceId :=
  (arena.namespace? id).bind (·.parent)

/-- The children of a namespace. A handle that points nowhere has none. -/
def children (arena : SymbolArena) (id : NamespaceId) : List NamespaceId :=
  match arena.namespace? id with
  | some ns => ns.children
  | none => []

/-- The first child of a namespace that has the given name. -/
def namespaceChild? (arena : SymbolArena) (parent : NamespaceId) (name : String) :
    Option NamespaceId :=
  (arena.children parent).find? fun child =>
    match arena.namespace? child with
    | some ns => ns.name == name
    | none => false

/-- The child of a namespace with the given name, which is added where there is none. -/
def addNamespace (arena : SymbolArena) (parent : NamespaceId) (name : String) :
    NamespaceId × SymbolArena :=
  match arena.namespaceChild? parent name with
  | some existing => (existing, arena)
  | none =>
    let id : NamespaceId := ⟨arena.namespaces.size⟩
    let grown := arena.namespaces.push { name := name, parent := some parent }
    let linked := grown.modify parent.index fun ns => { ns with children := ns.children ++ [id] }
    (id, { arena with namespaces := linked })

/-- Adds the namespaces that the given names lead to, one below the other. -/
def addNamespaces (arena : SymbolArena) (parent : NamespaceId) :
    List String → NamespaceId × SymbolArena
  | [] => (parent, arena)
  | name :: rest =>
    let (child, arena) := arena.addNamespace parent name
    arena.addNamespaces child rest

/-- The namespace of a dotted path, added with all that lead to it where they are missing. -/
def addNamespacePath (arena : SymbolArena) (path : String) : NamespaceId × SymbolArena :=
  arena.addNamespaces .global (Dotted.segments path)

/-- The namespace of a dotted path. -/
def namespaceByPath? (arena : SymbolArena) (path : String) : Option NamespaceId :=
  (Dotted.segments path).foldlM arena.namespaceChild? NamespaceId.global

/-- The handles of all namespaces. -/
def namespaceIds (arena : SymbolArena) : List NamespaceId :=
  (List.range arena.namespaces.size).map NamespaceId.mk

/-- The names of a namespace and its parents, innermost first, up to the first that is missing or
unnamed. At most `fuel` namespaces are looked at. -/
def namespaceNamesFrom (arena : SymbolArena) : Nat → Option NamespaceId → List String
  | 0, _ => []
  | _, none => []
  | fuel + 1, some id =>
    match arena.namespace? id with
    | some ns => if ns.name = "" then [] else ns.name :: arena.namespaceNamesFrom fuel ns.parent
    | none => []

/-- The names of a namespace and its parents, innermost first. Where parents do not go round in
circles there are no more of them than namespaces. -/
def namespaceNames (arena : SymbolArena) (id : Option NamespaceId) : List String :=
  arena.namespaceNamesFrom arena.namespaces.size id

/-- The dotted path of a namespace; that of the global one is empty. -/
def namespacePath (arena : SymbolArena) (id : NamespaceId) : String :=
  Dotted.join (arena.namespaceNames (some id)).reverse

/-! ### Symbols -/

/-- Adds a symbol at the end. -/
def add (arena : SymbolArena) (symbol : Symbol) : SymbolId × SymbolArena :=
  (⟨arena.symbols.size⟩, { arena with symbols := arena.symbols.push symbol })

/-- A symbol by its handle. -/
def get? (arena : SymbolArena) (id : SymbolId) : Option Symbol :=
  arena.symbols[id.index]?

/-- A type by its handle. -/
def type? (arena : SymbolArena) (id : SymbolId) : Option TypeSymbol :=
  (arena.get? id).bind Symbol.asType?

/-- A method by its handle. -/
def method? (arena : SymbolArena) (id : SymbolId) : Option MethodSymbol :=
  (arena.get? id).bind Symbol.asMethod?

/-- A handle names a type if it names a symbol that is one. -/
theorem type?_eq_some {arena : SymbolArena} {id : SymbolId} {type : TypeSymbol} :
    arena.type? id = some type ↔ arena.get? id = some (.type type) := by
  rw [type?, Option.bind_eq_some_iff]
  constructor
  · rintro ⟨symbol, hsymbol, htype⟩
    cases symbol <;> simp_all [Symbol.asType?]
  · exact fun h => ⟨_, h, rfl⟩

/-- A handle names a method if it names a symbol that is one. -/
theorem method?_eq_some {arena : SymbolArena} {id : SymbolId} {method : MethodSymbol} :
    arena.method? id = some method ↔ arena.get? id = some (.method method) := by
  rw [method?, Option.bind_eq_some_iff]
  constructor
  · rintro ⟨symbol, hsymbol, hmethod⟩
    cases symbol <;> simp_all [Symbol.asMethod?]
  · exact fun h => ⟨_, h, rfl⟩

/-- The handles of all symbols. -/
def symbolIds (arena : SymbolArena) : List SymbolId :=
  (List.range arena.symbols.size).map SymbolId.mk

/-- The containing type of a symbol. -/
def containingType? (arena : SymbolArena) (id : SymbolId) : Option SymbolId :=
  (arena.get? id).bind Symbol.containingType

/-- A symbol and its containing types, innermost first, at most `fuel` of them. A handle that
points nowhere is the last. -/
def containersFrom (arena : SymbolArena) : Nat → Option SymbolId → List SymbolId
  | 0, _ => []
  | _, none => []
  | fuel + 1, some id => id :: arena.containersFrom fuel (arena.containingType? id)

/-- The containing types of a symbol, innermost first. Where containing types do not go round in
circles there are no more of them than symbols. -/
def containers (arena : SymbolArena) (id : SymbolId) : List SymbolId :=
  arena.containersFrom arena.symbols.size (arena.containingType? id)

/-- The namespace that holds a symbol: the first that the symbol or one of its containing types
declares. -/
def containingNamespace? (arena : SymbolArena) (id : SymbolId) : Option NamespaceId :=
  (id :: arena.containers id).findSome? fun container =>
    (arena.get? container).bind Symbol.declaredNamespace

/-- The symbol reached by following element types through arrays and nullable types, in at most
`fuel` steps. -/
def coreFrom (arena : SymbolArena) : Nat → SymbolId → SymbolId
  | 0, id => id
  | fuel + 1, id =>
    match arena.type? id with
    | some type =>
      match type.kind.isContainer, type.elementType with
      | true, some element => arena.coreFrom fuel element
      | _, _ => id
    | none => id

/-- The innermost element type of a container, and any other symbol itself. -/
def core (arena : SymbolArena) (id : SymbolId) : SymbolId :=
  arena.coreFrom arena.symbols.size id

end SymbolArena

end Portability
