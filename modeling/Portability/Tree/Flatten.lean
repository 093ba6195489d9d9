import Portability.Tree.Spelling

/-!
# Flattening of namespaces

Flattening dissolves every namespace declared at the top of a compilation unit whose name starts
with a given root: its aliases, its imports and its members, and those of the namespaces inside it,
move to the unit.

```text
namespace App.Main {                  using System;
    using System;              =>     class A
    class A                           class B
    namespace Inner { class B }
}
```

Imports of names that start with the root are dropped, since what they bring in stands at the top
now. The flattened unit is a new node with the comments of the old one.
-/

namespace Portability

/-- What dissolved namespaces bring to their unit. -/
structure Dissolved where
  externs : List NodeId := []
  usings : List NodeId := []
  members : List NodeId := []
  deriving DecidableEq, Repr, Inhabited

namespace Dissolved

/-- The parts of two dissolved namespaces, one after the other. -/
def append (first second : Dissolved) : Dissolved where
  externs := first.externs ++ second.externs
  usings := first.usings ++ second.usings
  members := first.members ++ second.members

/-- What is dissolved of two lists is joined part by part. -/
instance : Append Dissolved := ⟨append⟩

/-- The parts of several dissolved namespaces, in order. -/
def concat (parts : List Dissolved) : Dissolved :=
  parts.foldl append {}

end Dissolved

namespace NodeArena

/-- Whether a node is an import of a name that starts with `root`. -/
def importsFrom (arena : NodeArena) (root : String) (id : NodeId) : Bool :=
  match arena.data? id with
  | some (.usingDirective _ name) => Dotted.startsWith (arena.spell name) root
  | _ => false

/-- Whether a node declares a namespace. -/
def isNamespace (arena : NodeArena) (id : NodeId) : Bool :=
  match arena.data? id with
  | some data => data.isNamespace
  | none => false

/-- Whether a node declares a namespace whose name starts with `root`. -/
def isDissolved (arena : NodeArena) (root : String) (id : NodeId) : Bool :=
  match arena.data? id with
  | some (.namespaceDeclaration name _ _ _) => Dotted.startsWith (arena.spell name) root
  | _ => false

/-- What dissolving a namespace brings to its unit: its own aliases and imports, then those of the
namespaces inside it, and all members that are no namespaces in the order of the source. Namespaces
are nested at most as deep as the arena has nodes. -/
def dissolveTo (arena : NodeArena) (root : String) : Nat → NodeId → Dissolved
  | 0, _ => {}
  | depth + 1, id =>
    match arena.data? id with
    | some (.namespaceDeclaration _ externs usings members) =>
      let own : Dissolved :=
        { externs, usings := usings.filter fun item => !arena.importsFrom root item }
      own ++ Dissolved.concat (members.map fun item =>
        if arena.isNamespace item then arena.dissolveTo root depth item else { members := [item] })
    | _ => {}

/-- What dissolving a namespace brings to its unit. -/
def dissolve (arena : NodeArena) (root : String) (id : NodeId) : Dissolved :=
  arena.dissolveTo root arena.size id

/-- The unit with the namespaces below `root` dissolved, as a new node. A node that is no
compilation unit is left as it is. -/
def flatten (arena : NodeArena) (unit : NodeId) (root : String) : NodeId × NodeArena :=
  match arena.data? unit with
  | some (.compilationUnit externs usings attributeLists members) =>
    let own : Dissolved :=
      { externs, usings := usings.filter fun item => !arena.importsFrom root item }
    let all := own ++ Dissolved.concat (members.map fun item =>
      if arena.isDissolved root item then arena.dissolve root item else { members := [item] })
    let (flattened, grown) :=
      arena.alloc (.compilationUnit all.externs all.usings attributeLists all.members)
    (flattened, grown.copyComments unit flattened)
  | _ => (unit, arena)

end NodeArena

end Portability
