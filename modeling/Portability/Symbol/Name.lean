import Portability.Symbol.Arena

/-!
# Names of symbols

The *canonical name* of a symbol is the dotted path of its namespaces and containing types followed
by its own name. A type's segment carries the names of its type parameters joined by `_`, so all
instantiations of `Dictionary<TKey, TValue>` are named
`System.Collections.Generic.Dictionary_TKey_TValue`.

The *extended name* adds the instantiation, `base|argument, argument`. A delegate argument stands
in quotes, a type parameter by its bare name, every other argument by its canonical name.

These names are the keys of the policy's lists and are what diagnostics show.
-/

namespace Portability

namespace SymbolArena

/-- The name of a symbol with the names of its own type parameters, `Map_K_V`. -/
def ownName (arena : SymbolArena) (id : SymbolId) : String :=
  match arena.get? id with
  | none => ""
  | some (.type t) => t.typeParameters.foldl (fun name parameter => name ++ "_" ++ parameter) t.name
  | some symbol => symbol.name

/-- The namespace declared by the outermost of a symbol's containing types that exist. -/
def outermostNamespace? (arena : SymbolArena) (id : SymbolId) : Option NamespaceId :=
  ((id :: arena.containers id).filterMap arena.get?).getLast?.bind Symbol.declaredNamespace

/-- The segments of a symbol's path from the inside out, with or without its own. -/
def pathSegments (arena : SymbolArena) (id : SymbolId) (includeSelf : Bool) : List String :=
  (if includeSelf then [arena.ownName id] else []) ++
    (arena.containers id).map arena.ownName ++
    arena.namespaceNames (arena.outermostNamespace? id)

/-- The dotted path of a symbol, with or without its own name. A handle that points nowhere has
the empty path. -/
def canonicalPath (arena : SymbolArena) (id : SymbolId) (includeSelf : Bool) : String :=
  match arena.get? id with
  | none => ""
  | some _ => Dotted.join (arena.pathSegments id includeSelf).reverse

/-- The canonical name of a symbol. -/
def canonicalName (arena : SymbolArena) (id : SymbolId) : String :=
  arena.canonicalPath id true

/-- A type argument as an extended name spells it. -/
def argumentName (arena : SymbolArena) (argument : SymbolId) : String :=
  match (arena.type? argument).map TypeSymbol.kind with
  | some .delegate => "\"" ++ arena.canonicalName argument ++ "\""
  | some .typeParameter => ((arena.get? argument).map Symbol.name).getD ""
  | _ => arena.canonicalName argument

/-- `base` with an instantiation added; unchanged where there are no type parameters. A generic
definition spells its own parameters. -/
def withInstantiation (arena : SymbolArena) (base : String) (parameters : List String)
    (arguments : List SymbolId) : String :=
  if parameters.isEmpty then base
  else
    let spelled := if arguments.isEmpty then parameters else arguments.map arena.argumentName
    base ++ "|" ++ String.intercalate ", " spelled

/-- `base` with the instantiation of a symbol added; unchanged for a symbol that is not generic. -/
def extendedName (arena : SymbolArena) (base : String) (id : SymbolId) : String :=
  match arena.get? id with
  | some (.type t) => arena.withInstantiation base t.typeParameters t.typeArguments
  | some (.method m) => arena.withInstantiation base m.typeParameters m.typeArguments
  | _ => base

/-- The canonical name of a symbol with its instantiation, as diagnostics show it. -/
def displayName (arena : SymbolArena) (id : SymbolId) : String :=
  arena.extendedName (arena.canonicalName id) id

/-- The key of a member in the policy's lists, `Type.member`. -/
def memberKey (arena : SymbolArena) (containingType : SymbolId) (member : String) : String :=
  arena.canonicalName containingType ++ "." ++ member

/-- The key of a symbol in the policy's member lists. A symbol without containing type goes by its
own name. -/
def memberName (arena : SymbolArena) (id : SymbolId) : String :=
  match arena.get? id with
  | none => ""
  | some symbol =>
    match symbol.containingType with
    | some host => arena.memberKey host symbol.name
    | none => symbol.name

end SymbolArena

end Portability
