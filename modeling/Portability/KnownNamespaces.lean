import Portability.Symbol.Arena

/-!
# Known namespaces

A run has a root namespace, which is dissolved together with everything below it. The full names of
these namespaces are *known*: a name qualified by one of them is shortened, since what it names
stands at the top of its unit now.

* `KnownNamespaces.collect` finds them in a symbol arena, the root first and then level by level.
* `KnownNamespaces.longestBelow?` is what shortening asks for: the longest known namespace that a
  text goes on after.
-/

namespace Portability

/-- The namespaces that are dissolved in a run. -/
structure KnownNamespaces where
  root : String := ""
  /-- The full names, each once. -/
  names : List String := []
  /-- The segments of the names from the place of the root's last segment on, each once. Segments
  before it still name something that is not dissolved. -/
  components : List String := []
  deriving DecidableEq, Repr, Inhabited

/-- A list with an item added at the end, unless the list holds it already. -/
def insertLast (items : List String) (item : String) : List String :=
  if items.contains item then items else items ++ [item]

/-- The namespaces of some levels of the tree below those given, level by level. -/
def SymbolArena.levelsFrom (arena : SymbolArena) : Nat → List NamespaceId → List NamespaceId
  | 0, _ => []
  | levels + 1, level =>
    if level.isEmpty then []
    else level ++ arena.levelsFrom levels (level.flatMap arena.children)

/-- A namespace and all below it, level by level. A tree is no deeper than it has namespaces, and
one level more is left for children that do not exist. -/
def SymbolArena.descendants (arena : SymbolArena) (start : NamespaceId) : List NamespaceId :=
  arena.levelsFrom (arena.namespaces.size + 1) [start]

namespace KnownNamespaces

/-- The number of segments before a root's last one. -/
def depthAbove (root : String) : Nat :=
  (Dotted.pieces root).length - 1

/-- Adds a full name. The empty name is that of the global namespace and is never known. -/
def insert (known : KnownNamespaces) (name : String) : KnownNamespaces :=
  if name = "" then known
  else
    let inner := (Dotted.pieces name).drop (depthAbove known.root)
    { known with
      names := insertLast known.names name
      components := inner.foldl insertLast known.components }

/-- The given full names under a root. -/
def ofNames (root : String) (names : List String) : KnownNamespaces :=
  names.foldl insert { root }

/-- The root and every namespace below it in a symbol arena. Nothing is known where the root is
empty or does not exist. -/
def collect (arena : SymbolArena) (root : String) : KnownNamespaces :=
  if root = "" then { root }
  else
    match arena.namespaceByPath? root with
    | none => { root }
    | some start => ofNames root ((arena.descendants start).map arena.namespacePath)

/-- Whether a full name is known. -/
def contains (known : KnownNamespaces) (name : String) : Bool :=
  known.names.contains name

/-- Whether a text is a segment of a known name from the place of the root's last segment on. -/
def containsComponent (known : KnownNamespaces) (segment : String) : Bool :=
  known.components.contains segment

/-- The longest known namespace that `text` goes on after, and the text beneath it. -/
def longestBelow? (known : KnownNamespaces) (text : String) : Option (String × String) :=
  let candidates := known.names.filterMap fun name =>
    (Dotted.below? name text).map fun rest => (name, rest)
  candidates.foldl (fun longest candidate =>
    match longest with
    | none => some candidate
    | some best => if best.1.length ≤ candidate.1.length then some candidate else some best) none

end KnownNamespaces

end Portability
