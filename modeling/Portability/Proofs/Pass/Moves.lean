import Portability.Pass.Visit
import Portability.Proofs.Tree.Children

/-!
# The moves of a visit

However a node is visited, the visit is one of a few moves, and which one is decided before anything
below the node is visited:

* the node is left alone,
* `relink`: what its slots hold is visited between two checks, and the node stays in its place,
* `standIn`: a part of it is visited and stands in its place,
* `requalify`: the right part of a name is visited and put behind another qualifier.

A unit is relinked and then flattened. The equations below tell every visitor in these terms.
-/

namespace Portability

namespace NodeData

/-- What is visited of a node that stays in its place, each with whether it is called: what the
slots hold, in order. -/
def calls : NodeData → List (NodeId × Bool)
  | invocation callee arguments => (callee, true) :: arguments.map (·, false)
  | data => data.slots.map (·, false)

/-- The calls of a node are of its slots, in their order. -/
theorem map_fst_calls (data : NodeData) : data.calls.map Prod.fst = data.slots := by
  cases data <;> simp [calls, slots, Function.comp_def]

/-- Whether a node always stays in its place. -/
def isSteady : NodeData → Bool
  | qualifiedName .. | memberAccess .. | compilationUnit .. => false
  | _ => true

end NodeData

namespace PassContext

variable (context : PassContext) (visit : Visitor)

/-- Visits what the slots of a node hold and relinks the node to what answers. -/
def visitSlots (id : NodeId) (data : NodeData) : PassM Unit := do
  let ids ← data.calls.mapM fun (slot, isCallee) => visit slot isCallee
  PassM.change (·.setData id (data.withSlots ids))

/-- What is checked of a node after the visit of its slots, by what was there before. -/
def checkAfter (arena : NodeArena) (id : NodeId) (data : NodeData) (isCallee : Bool) :
    Inspection Unit :=
  match data with
  | .memberAccess .. => context.checkMemberAccess id id isCallee
  | .invocation callee arguments =>
    match context.plannedCall? arena id callee arguments with
    | some (symbol, plan) => context.checkInvocation id symbol plan
    | none => pure ()
  | data => context.checkTypes id data

/-- Visits what the slots of a node hold, between the check of the node as a construct and another
one. -/
def relink (id : NodeId) (data : NodeData) (after : Inspection Unit) : PassM NodeId := do
  context.settle (checkConstruct id data)
  visitSlots visit id data
  context.settle after
  return id

/-- Visits a part of a node. What answers it stands for the node and takes over its comments. -/
def standIn (id part : NodeId) : PassM NodeId := do
  let name ← visit part false
  PassM.change (·.copyComments id name)
  return name

/-- Visits the right part of a name and puts it behind another qualifier, as a new name with the
comments of the old. -/
def requalify (id : NodeId) (qualifier : String) (right : NodeId) : PassM NodeId := do
  let left ← PassM.build (·.dottedName qualifier)
  let name ← visit right false
  let shortened ← PassM.build (·.alloc (.qualifiedName left name))
  PassM.change (·.copyComments id shortened)
  return shortened

/-! ### Equations -/

/-- A node is relinked with what the visits of its children answer. -/
theorem visitChildren_eq_mapChildrenM (id : NodeId) (data : NodeData) :
    visitChildren visit id data = (do
      let relinked ← data.mapChildrenM fun child => visit child false
      PassM.change (·.setData id relinked)) := by
  rw [visitChildren, NodeData.mapChildrenM, bind_assoc]
  rfl

/-- Settling an inspection that found nothing does nothing. -/
theorem settle_nothing : context.settle (pure ()) = pure () := by
  funext s
  refine (context.run_settle (pure ()) s).trans ?_
  simp [MissLog.insertAll]
  rfl

/-- A node that is no construct is relinked with one check. -/
theorem relink_of_unsupported?_eq_none {data : NodeData} (h : unsupported? data = none)
    (id : NodeId) (after : Inspection Unit) :
    context.relink visit id data after = (do
      visitSlots visit id data
      context.settle after
      return id) := by
  rw [relink, checkConstruct, h]
  exact congrArg (· >>= _) context.settle_nothing

/-- A call is relinked and then checked, by what its arguments were before. -/
theorem run_visitInvocation (id callee : NodeId) (arguments : List NodeId) (isCallee : Bool)
    (s : PassState) :
    (context.visitInvocation visit id callee arguments).run s =
      (context.relink visit id (.invocation callee arguments)
        (context.checkAfter s.arena id (.invocation callee arguments) isCallee)).run s := by
  rw [relink_of_unsupported?_eq_none _ _ rfl, visitInvocation, PassM.run_bind, PassM.run_inspect,
    visitSlots, checkAfter, NodeData.calls, List.mapM_cons, List.mapM_map]
  cases context.plannedCall? s.arena id callee arguments with
  | some call => rfl
  | none =>
      rw [settle_nothing]
      rfl

/-- Two slots that are visited one after the other. -/
theorem relink_pair (id first second : NodeId) {relinked : NodeId → NodeId → NodeData}
    (hcalls : (relinked first second).calls = [(first, false), (second, false)])
    (hslots : ∀ newFirst newSecond,
      (relinked first second).withSlots [newFirst, newSecond] = relinked newFirst newSecond)
    (hconstruct : unsupported? (relinked first second) = none) (after : Inspection Unit) :
    context.relink visit id (relinked first second) after = (do
      let newFirst ← visit first false
      let newSecond ← visit second false
      PassM.change (·.setData id (relinked newFirst newSecond))
      context.settle after
      return id) := by
  rw [relink_of_unsupported?_eq_none _ _ hconstruct, visitSlots, hcalls]
  simp only [List.mapM_cons, List.mapM_nil, bind_assoc, pure_bind, hslots]

/-- How a qualified name is visited goes by what it and its qualifier are spelled by before. -/
theorem run_visitQualifiedName (id left right : NodeId) (s : PassState) :
    (context.visitQualifiedName visit id left right).run s =
      if context.namespaces.contains (s.arena.spell id) then (id, s)
      else if context.namespaces.contains (s.arena.spell left) then
        (standIn visit id right).run s
      else match context.namespaces.longestBelow? (s.arena.spell left) with
        | some (_, rest) => (requalify visit id rest right).run s
        | none => (context.relink visit id (.qualifiedName left right) (pure ())).run s := by
  rw [visitQualifiedName, PassM.run_bind, PassM.run_inspect]
  cases context.namespaces.contains (s.arena.spell id) with
  | true => rfl
  | false =>
      rw [if_neg Bool.false_ne_true, if_neg Bool.false_ne_true, PassM.run_bind, PassM.run_inspect]
      cases context.namespaces.contains (s.arena.spell left) with
      | true => rfl
      | false =>
          cases context.namespaces.longestBelow? (s.arena.spell left) with
          | some longest => rfl
          | none =>
              rw [relink_pair _ _ _ _ _ rfl (fun _ _ => rfl) rfl, settle_nothing]
              rfl

/-- An access through a known namespace is replaced by its name, and any other one relinked. -/
theorem run_visitMemberAccess (id expression name : NodeId) (isCallee : Bool) (s : PassState) :
    (context.visitMemberAccess visit id expression name isCallee).run s =
      if context.isNamespaceQualifier s.arena expression then
        (do
          let result ← standIn visit id name
          context.settle (context.checkMemberAccess id result isCallee)
          return result : PassM NodeId).run s
      else
        (context.relink visit id (.memberAccess expression name)
          (context.checkMemberAccess id id isCallee)).run s := by
  rw [visitMemberAccess, visitAccess, bind_assoc, PassM.run_bind, PassM.run_inspect]
  cases context.isNamespaceQualifier s.arena expression with
  | true => rfl
  | false =>
      rw [relink_pair _ _ _ _ _ rfl (fun _ _ => rfl) rfl]
      rfl

section

variable (hnone : ∀ isCallee, visit .none isCallee = pure .none)

include hnone

/-- Visiting children and visiting what slots hold are the same where nothing is called. -/
theorem visitChildren_eq {data : NodeData} (h : data.calls = data.slots.map (·, false))
    (id : NodeId) : visitChildren visit id data = visitSlots visit id data := by
  have hslot (slot : NodeId) :
      (if slot.isNone then pure slot else visit slot false) = visit slot false := by
    cases slot with
    | none => exact (hnone false).symm
    | ofIndex index => rfl
  rw [visitChildren, visitSlots, h, List.mapM_map]
  simp only [hslot]
  rfl

/-- A unit is relinked and flattened. -/
theorem visitNode_unit (id : NodeId) (externs usings attributeLists members : List NodeId)
    (isCallee : Bool) :
    context.visitNode visit id (.compilationUnit externs usings attributeLists members) isCallee =
      (do
        let unit ← context.relink visit id
          (.compilationUnit externs usings attributeLists members) (pure ())
        if context.namespaces.root = "" then return unit
        else PassM.build (·.flatten unit context.namespaces.root)) := by
  rw [visitNode, visitChildren_eq visit hnone rfl, relink_of_unsupported?_eq_none _ _ rfl,
    settle_nothing]
  rfl

/-- A steady node is relinked. -/
theorem run_visitNode_of_isSteady {data : NodeData} (h : data.isSteady) (id : NodeId)
    (isCallee : Bool) (s : PassState) :
    (context.visitNode visit id data isCallee).run s =
      (context.relink visit id data (context.checkAfter s.arena id data isCallee)).run s := by
  have hother (hcalls : data.calls = data.slots.map (·, false)) :
      (do
        context.settle (checkConstruct id data)
        visitChildren visit id data
        context.settle (context.checkTypes id data)
        return id : PassM NodeId).run s =
        (context.relink visit id data (context.checkTypes id data)).run s := by
    rw [visitChildren_eq visit hnone hcalls]
    rfl
  cases data
  case qualifiedName | memberAccess | compilationUnit => cases h
  case invocation callee arguments =>
    exact context.run_visitInvocation visit id callee arguments isCallee s
  all_goals exact hother rfl

end

/-- The visit of a node goes by its data, and has a level less for the slots. -/
theorem run_visitTo_of_data? {id : NodeId} {data : NodeData} {s : PassState}
    (h : s.arena.data? id = some data) (levels : Nat) (isCallee : Bool) :
    (context.visitTo (levels + 1) id isCallee).run s =
      (context.visitNode (context.visitTo levels) id data isCallee).run s := by
  rw [visitTo, PassM.run_bind, PassM.run_inspect, h]

/-- The visit of a qualified name goes by what the name is spelled by. -/
theorem run_visitTo_qualifiedName {id left right : NodeId} {s : PassState}
    (h : s.arena.data? id = some (.qualifiedName left right)) (levels : Nat) (isCallee : Bool) :
    (context.visitTo (levels + 1) id isCallee).run s =
      (context.visitQualifiedName (context.visitTo levels) id left right).run s :=
  context.run_visitTo_of_data? h levels isCallee

/-- The visit of what is no node answers it and does nothing. -/
theorem run_visitTo_of_data?_eq_none {id : NodeId} {s : PassState}
    (h : s.arena.data? id = none) (levels : Nat) (isCallee : Bool) :
    (context.visitTo levels id isCallee).run s = (id, s) := by
  cases levels with
  | zero => rfl
  | succ levels =>
      rw [visitTo, PassM.run_bind, PassM.run_inspect, h]
      rfl

/-- The visit of no node answers no node. -/
theorem visitTo_none (levels : Nat) (isCallee : Bool) :
    context.visitTo levels .none isCallee = pure .none :=
  funext fun _ => context.run_visitTo_of_data?_eq_none rfl levels isCallee

end PassContext

end Portability
