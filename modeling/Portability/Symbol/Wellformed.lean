import Portability.Symbol.Arena

/-!
# Well-formed symbol arenas

Naming and classifying a symbol follow its containing types, element types, type arguments and
namespaces. Those walks are well founded in arenas that pass three checks, each of which answers
the first offender it meets:

* `firstDanglingReference?`: a symbol that is referred to and does not exist,
* `firstCyclicReference?`: a symbol on a cycle of containing types, element types and arguments,
* `firstCyclicNamespace?`: a namespace whose chain of parents is too long to end.
-/

namespace Portability

namespace SymbolArena

/-- The first reference, symbol by symbol, that points nowhere. -/
def firstDanglingReference? (arena : SymbolArena) : Option SymbolId :=
  arena.symbols.toList.findSome? fun symbol =>
    symbol.references.find? fun id => (arena.get? id).isNone

/-! ### Cycles of symbols -/

/-- The structural references of a symbol; those of a missing one are none. -/
def structuralReferences (arena : SymbolArena) (id : SymbolId) : List SymbolId :=
  match arena.get? id with
  | some symbol => symbol.structuralReferences
  | none => []

/-- Searches depth first below the symbol `id` for a reference back to the path that leads to it.
The symbols in `finished` are known to lead to no cycle; the answer is `finished` with those found
on the way, or the symbol at which a cycle closes. A path holds no symbol twice, so `fuel` need
not exceed the number of symbols. -/
def searchCycle (arena : SymbolArena) :
    Nat → List SymbolId → List SymbolId → SymbolId → Except SymbolId (List SymbolId)
  | 0, _, finished, _ => .ok finished
  | fuel + 1, path, finished, id => do
    let finished ← (arena.structuralReferences id).foldlM
      (fun finished next =>
        if (id :: path).contains next then .error next
        else if finished.contains next then .ok finished
        else if (arena.get? next).isNone then .ok finished
        else arena.searchCycle fuel (id :: path) finished next)
      finished
    return id :: finished

/-- The symbol at which the first cycle of structural references closes. -/
def firstCyclicReference? (arena : SymbolArena) : Option SymbolId :=
  let search := arena.symbolIds.foldlM
    (fun finished id =>
      if finished.contains id then .ok finished
      else arena.searchCycle arena.symbols.size [] finished id)
    []
  match search with
  | .error id => some id
  | .ok _ => none

/-! ### Cycles of namespaces -/

/-- Whether a chain of parents is seen to end within `steps` steps. -/
def parentsEndWithin (arena : SymbolArena) : Nat → Option NamespaceId → Bool
  | 0, _ => false
  | _ + 1, none => true
  | steps + 1, some id => arena.parentsEndWithin steps (arena.parent? id)

/-- The first namespace whose parents do not end within as many steps as there are namespaces. -/
def firstCyclicNamespace? (arena : SymbolArena) : Option NamespaceId :=
  arena.namespaceIds.find? fun id =>
    !arena.parentsEndWithin arena.namespaces.size (arena.parent? id)

end SymbolArena

end Portability
