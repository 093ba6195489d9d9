import Portability.Pass.Check

/-!
# The pass over a tree

The pass visits a tree depth first. A node is passed through, replaced by a shorter name, or found
fault with; its children are relinked to what stands in their place. Names are shortened where a
known namespace qualifies them, and compilation units are flattened at the end of their visit. What
the checks find is reported at once, so faults come in the order of the visits.

Every visitor is written for an arbitrary way to visit children, and `PassContext.visitTo` ties the
knot by recursion on the number of levels that are left. Below `maxDepth` levels nodes are left
alone.
-/

namespace Portability

/-- How many levels of a tree are visited. -/
def maxDepth : Nat := 500

/-- A way to visit a node, told whether the node is called. The answer stands in its place. -/
abbrev Visitor := NodeId → Bool → PassM NodeId

namespace PassContext

variable (context : PassContext) (visit : Visitor)

/-- Visits the children of a node in the order of their slots and relinks the node to what stands
in their place. -/
def visitChildren (id : NodeId) (data : NodeData) : PassM Unit := do
  let slots ← data.slots.mapM fun slot => if slot.isNone then pure slot else visit slot false
  PassM.change (·.setData id (data.withSlots slots))

/-! ### Names -/

/-- Visits a qualified name. The name of a known namespace is left alone; what a known namespace
qualifies stands for itself; a longer qualifier loses the longest known namespace it goes on
after; any other name has its parts visited. -/
def visitQualifiedName (id left right : NodeId) : PassM NodeId := do
  if context.namespaces.contains (← PassM.inspect (·.spell id)) then return id
  let qualifier ← PassM.inspect (·.spell left)
  if context.namespaces.contains qualifier then
    let name ← visit right false
    PassM.change (·.copyComments id name)
    return name
  match context.namespaces.longestBelow? qualifier with
  | some (_, rest) =>
    let left ← PassM.build (·.dottedName rest)
    let name ← visit right false
    let shortened ← PassM.build (·.alloc (.qualifiedName left name))
    PassM.change (·.copyComments id shortened)
    return shortened
  | none =>
    let left ← visit left false
    let right ← visit right false
    PassM.change (·.setData id (.qualifiedName left right))
    return id

/-- Whether an expression is an identifier that names no symbol and is a known namespace or a part
of one. -/
def isNamespaceQualifier (arena : NodeArena) (expression : NodeId) : Bool :=
  match arena.data? expression with
  | some (.identifierName text) =>
    (context.namespaces.contains text || context.namespaces.containsComponent text) &&
      (context.model.symbolOf expression).isNone
  | _ => false

/-- Visits the parts of a member access. An access through a known namespace is replaced by the
member's name. -/
def visitAccess (id expression name : NodeId) : PassM NodeId := do
  if ← PassM.inspect (context.isNamespaceQualifier · expression) then
    let name ← visit name false
    PassM.change (·.copyComments id name)
    return name
  else
    let expression ← visit expression false
    let name ← visit name false
    PassM.change (·.setData id (.memberAccess expression name))
    return id

/-- Visits a member access and checks it. -/
def visitMemberAccess (id expression name : NodeId) (isCallee : Bool) : PassM NodeId := do
  let result ← context.visitAccess visit id expression name
  context.settle (context.checkMemberAccess id result isCallee)
  return result

/-! ### Invocations -/

/-- Visits an invocation and checks it. The arguments are planned before any of them is visited,
while their nodes still are what the model knows. -/
def visitInvocation (id callee : NodeId) (arguments : List NodeId) : PassM NodeId := do
  let call ← PassM.inspect (context.plannedCall? · id callee arguments)
  let newCallee ← visit callee true
  let newArguments ← arguments.mapM fun argument => visit argument false
  PassM.change (·.setData id (.invocation newCallee newArguments))
  match call with
  | some (symbol, plan) => context.settle (context.checkInvocation id symbol plan)
  | none => pure ()
  return id

/-! ### Nodes -/

/-- Visits a node with the given data. -/
def visitNode (id : NodeId) (data : NodeData) (isCallee : Bool) : PassM NodeId := do
  match data with
  | .qualifiedName left right => context.visitQualifiedName visit id left right
  | .memberAccess expression name => context.visitMemberAccess visit id expression name isCallee
  | .invocation callee arguments => context.visitInvocation visit id callee arguments
  | .compilationUnit .. =>
    visitChildren visit id data
    if context.namespaces.root = "" then return id
    else PassM.build (·.flatten id context.namespaces.root)
  | _ =>
    context.settle (checkConstruct id data)
    visitChildren visit id data
    context.settle (context.checkTypes id data)
    return id

/-- Visits a node and at most `levels` levels of the tree below and including it. -/
def visitTo : Nat → Visitor
  | 0, id, _ => pure id
  | levels + 1, id, isCallee => do
    match ← PassM.inspect (·.data? id) with
    | some data => context.visitNode (visitTo levels) id data isCallee
    | none => return id

/-- The pass over the tree below a root. The answer is the root that stands in its place. -/
def run (root : NodeId) : PassM NodeId :=
  context.visitTo maxDepth root false

/-- The pass over the tree below a root of an arena, starting from what was missed before. -/
def runFrom (misses : MissLog) (arena : NodeArena) (root : NodeId) : NodeId × PassState :=
  (context.run root).run { arena, misses }

end PassContext

end Portability
