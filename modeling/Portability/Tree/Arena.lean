import Portability.Text.Dotted
import Portability.Tree.Node

/-!
# Node arenas

An arena owns the nodes of one compilation unit. Nodes are added at the end and never removed, so
a handle keeps naming the same node for as long as the arena lives; a pass that replaces a node
adds another one and relinks the parent.
-/

namespace Portability

/-- The owner of the nodes of a compilation unit. -/
structure NodeArena where
  nodes : Array Node := #[]
  deriving DecidableEq, Repr, Inhabited

namespace NodeArena

/-- The arena without nodes. -/
def empty : NodeArena := {}

/-- The number of nodes. -/
def size (arena : NodeArena) : Nat :=
  arena.nodes.size

/-- A node by its handle. -/
def node? (arena : NodeArena) : NodeId → Option Node
  | .none => none
  | .ofIndex index => arena.nodes[index]?

/-- The data of a node. -/
def data? (arena : NodeArena) (id : NodeId) : Option NodeData :=
  (arena.node? id).map (·.data)

/-- The comments in front of a node. -/
def comments? (arena : NodeArena) (id : NodeId) : Option (List String) :=
  (arena.node? id).map (·.leadingComments)

/-- Whether a handle names a node of the arena. -/
def contains (arena : NodeArena) (id : NodeId) : Bool :=
  (arena.node? id).isSome

/-- Adds a node without comments. -/
def alloc (arena : NodeArena) (data : NodeData) : NodeId × NodeArena :=
  (.ofIndex arena.nodes.size, { nodes := arena.nodes.push { data } })

/-- Changes a node. An arena without the node stays as it is. -/
def modify (arena : NodeArena) (id : NodeId) (f : Node → Node) : NodeArena :=
  match id with
  | .none => arena
  | .ofIndex index => { nodes := arena.nodes.modify index f }

/-- Replaces the data of a node and keeps its comments. -/
def setData (arena : NodeArena) (id : NodeId) (data : NodeData) : NodeArena :=
  arena.modify id fun node => { node with data }

/-- Puts a comment in front of those that a node has. -/
def prependComment (arena : NodeArena) (id : NodeId) (comment : String) : NodeArena :=
  arena.modify id fun node => { node with leadingComments := comment :: node.leadingComments }

/-- Gives a node the comments of another one, or none where the other does not exist. -/
def copyComments (arena : NodeArena) (source target : NodeId) : NodeArena :=
  let comments := (arena.comments? source).getD []
  arena.modify target fun node => { node with leadingComments := comments }

/-! ### Construction -/

/-- Adds an identifier. -/
def identifier (arena : NodeArena) (text : String) : NodeId × NodeArena :=
  arena.alloc (.identifierName text)

/-- Adds the rest of a dotted name below `left`: an identifier and a qualified name for each
segment. A name that starts with no node starts with its first identifier. -/
def dottedNameFrom (arena : NodeArena) (left : NodeId) : List String → NodeId × NodeArena
  | [] => (left, arena)
  | segment :: rest =>
    let (right, arena) := arena.identifier segment
    if left.isNone then arena.dottedNameFrom right rest
    else
      let (qualified, arena) := arena.alloc (.qualifiedName left right)
      arena.dottedNameFrom qualified rest

/-- Adds `A.B.C` as qualified names nested to the left. A single segment is a bare identifier, and
a path without segments is no node. -/
def dottedName (arena : NodeArena) (path : String) : NodeId × NodeArena :=
  arena.dottedNameFrom .none (Dotted.segments path)

/-- Adds the access to a member of an expression, its name first. -/
def memberAccess (arena : NodeArena) (expression : NodeId) (name : String) : NodeId × NodeArena :=
  let (name, arena) := arena.identifier name
  arena.alloc (.memberAccess expression name)

/-- Adds the import of a dotted name, the name first. -/
def usingDirective (arena : NodeArena) (path : String) : NodeId × NodeArena :=
  let (name, arena) := arena.dottedName path
  arena.alloc (.usingDirective none name)

/-- Adds the declaration of a namespace with a dotted name, the name first. -/
def namespaceDeclaration (arena : NodeArena) (path : String)
    (externs usings members : List NodeId) : NodeId × NodeArena :=
  let (name, arena) := arena.dottedName path
  arena.alloc (.namespaceDeclaration name externs usings members)

end NodeArena

end Portability
