import Mathlib.Logic.Relation
import Portability.Proofs.Pass.Moves

/-!
# The visits of a pass

A pass is the visit of a root, which goes on to visits of parts, and so forth. `PassContext.opening`
tells what the visit of a node goes on to, and `PassContext.goesOn` that it goes on to nothing else,
whoever the visitor is. So the visits of a run can be told apart, each with the state it begins in
(`Visit.parts`, `PassContext.Makes`).

Nothing is assumed of the tree: a node that is shared, or on a cycle, is visited several times.

Diagnostics are never taken back. So what one visit reports the whole run reports
(`mem_diagnostics_of_makes`).
-/

namespace Portability

/-! ### Steps that take no diagnostic back -/

namespace PassM

variable {α β : Type}

/-- Whether a step adds diagnostics at most behind those there are. -/
def Appends (x : PassM α) : Prop :=
  ∀ s, s.diagnostics.toList <+: (x.run s).2.diagnostics.toList

namespace Appends

/-- A step that only answers takes no diagnostic back. -/
theorem pure (a : α) : (pure a : PassM α).Appends :=
  fun s => List.prefix_refl s.diagnostics.toList

/-- Steps one after the other take no diagnostic back if none of them does. -/
theorem bind {x : PassM α} {f : α → PassM β} (hx : x.Appends) (hf : ∀ a, (f a).Appends) :
    (x >>= f).Appends := by
  intro s
  rw [run_bind]
  exact (hx s).trans (hf _ _)

/-- A change of the arena takes no diagnostic back. -/
theorem change (f : NodeArena → NodeArena) : (change f).Appends :=
  fun s => List.prefix_refl s.diagnostics.toList

/-- Building nodes takes no diagnostic back. -/
theorem build (f : NodeArena → NodeId × NodeArena) : (build f).Appends :=
  fun s => List.prefix_refl s.diagnostics.toList

/-- Settling an inspection takes no diagnostic back. -/
theorem settle (context : PassContext) (inspection : Inspection Unit) :
    (context.settle inspection).Appends := by
  intro s
  rw [context.run_settle]
  exact ⟨_, Array.toList_appendList.symm⟩

/-- Steps for one item after the other take no diagnostic back if none of them does. -/
theorem mapM {f : α → PassM β} (hf : ∀ a, (f a).Appends) (items : List α) :
    (items.mapM f).Appends := by
  induction items with
  | nil => exact pure []
  | cons item rest ih =>
      rw [List.mapM_cons]
      exact bind (hf item) fun first => bind ih fun others => pure (first :: others)

end Appends

end PassM

/-! ### What a visit goes on to -/

/-- Visits one node after the other, each told whether it is called. -/
def visitAll (visit : Visitor) (calls : List (NodeId × Bool)) : PassM (List NodeId) :=
  calls.mapM fun (node, isCallee) => visit node isCallee

/-- The first node is visited, and then the others in the state that it leaves. -/
theorem run_visitAll_cons (visit : Visitor) (node : NodeId) (isCallee : Bool)
    (rest : List (NodeId × Bool)) (s : PassState) :
    (visitAll visit ((node, isCallee) :: rest)).run s =
      let first := (visit node isCallee).run s
      let others := (visitAll visit rest).run first.2
      (first.1 :: others.1, others.2) := by
  rw [visitAll, List.mapM_cons]
  rfl

namespace PassContext

variable (context : PassContext)

/-- What the visit of a node goes on to: the state in which the visits of parts begin, and the
parts, each with whether it is called. A qualifier that is shortened is built before the visits, and
a construct is found fault with. -/
def opening (s : PassState) (id : NodeId) : NodeData → PassState × List (NodeId × Bool)
  | .qualifiedName left right =>
    if context.namespaces.contains (s.arena.spell id) then (s, [])
    else if context.namespaces.contains (s.arena.spell left) then (s, [(right, false)])
    else match context.namespaces.longestBelow? (s.arena.spell left) with
      | some (_, rest) => ({ s with arena := (s.arena.dottedName rest).2 }, [(right, false)])
      | none => (s, [(left, false), (right, false)])
  | .memberAccess expression name =>
    if context.isNamespaceQualifier s.arena expression then (s, [(name, false)])
    else (s, [(expression, false), (name, false)])
  | data => (((context.settle (checkConstruct id data)).run s).2, data.calls)

/-- What follows the visits of the slots of a node that is relinked. -/
def relinked (id : NodeId) (data : NodeData) (after : Inspection Unit) (ids : List NodeId) :
    PassM NodeId := do
  PassM.change (·.setData id (data.withSlots ids))
  context.settle after
  return id

/-- What follows the visit of a part that stands in for a node. -/
def stoodIn (id : NodeId) (ids : List NodeId) : PassM NodeId :=
  standIn (fun _ _ => pure (ids.headD .none)) id .none

/-- What follows the visit of the right part of a name that gets another qualifier. -/
def requalified (id left : NodeId) (ids : List NodeId) : PassM NodeId := do
  let shortened ← PassM.build (·.alloc (.qualifiedName left (ids.headD .none)))
  PassM.change (·.copyComments id shortened)
  return shortened

/-- Putting answers into slots takes no diagnostic back. -/
theorem appends_relinked (id : NodeId) (data : NodeData) (after : Inspection Unit)
    (ids : List NodeId) : (context.relinked id data after ids).Appends :=
  .bind (.change _) fun _ => .bind (.settle context after) fun _ => .pure id

/-- Standing in takes no diagnostic back. -/
theorem appends_stoodIn (id : NodeId) (ids : List NodeId) : (stoodIn id ids).Appends :=
  .bind (.pure _) fun name => .bind (.change _) fun _ => .pure name

/-- Adding a name with another qualifier takes no diagnostic back. -/
theorem appends_requalified (id left : NodeId) (ids : List NodeId) :
    (requalified id left ids).Appends :=
  .bind (.build _) fun name => .bind (.change _) fun _ => .pure name

/-- To relink a node is to check it as a construct, to visit its slots, and to finish. -/
theorem run_relink (visit : Visitor) (id : NodeId) (data : NodeData) (after : Inspection Unit)
    (s : PassState) :
    (context.relink visit id data after).run s =
      (visitAll visit data.calls >>= context.relinked id data after).run
        ((context.settle (checkConstruct id data)).run s).2 :=
  rfl

/-- To let a part stand in is to visit it, and to finish. -/
theorem run_standIn (visit : Visitor) (id part : NodeId) (s : PassState) :
    (standIn visit id part).run s = (visitAll visit [(part, false)] >>= stoodIn id).run s :=
  rfl

/-- To give a name another qualifier is to build this, to visit the last part, and to finish. -/
theorem run_requalify (visit : Visitor) (id : NodeId) (qualifier : String) (right : NodeId)
    (s : PassState) :
    (requalify visit id qualifier right).run s =
      (visitAll visit [(right, false)] >>=
        requalified id (s.arena.dottedName qualifier).1).run
        { s with arena := (s.arena.dottedName qualifier).2 } :=
  rfl

/-- Whether the visit of a node visits the parts of its `opening` one after the other and finishes.
Whoever visits the parts has no other say in it. -/
def GoesOn (s : PassState) (id : NodeId) (data : NodeData) (isCallee : Bool) : Prop :=
  ∃ finish : List NodeId → PassM NodeId, (∀ ids, (finish ids).Appends) ∧
    ∀ visit : Visitor, (∀ isCallee, visit .none isCallee = pure .none) →
      (context.visitNode visit id data isCallee).run s =
        (visitAll visit (context.opening s id data).2 >>= finish).run (context.opening s id data).1

/-- A steady node goes on to all of its slots. -/
theorem goesOn_of_isSteady {data : NodeData} (h : data.isSteady) (s : PassState) (id : NodeId)
    (isCallee : Bool) : context.GoesOn s id data isCallee := by
  have hopening : context.opening s id data =
      (((context.settle (checkConstruct id data)).run s).2, data.calls) := by
    cases data
    case qualifiedName | memberAccess | compilationUnit => cases h
    all_goals rfl
  refine ⟨_, context.appends_relinked id data (context.checkAfter s.arena id data isCallee), ?_⟩
  intro visit hnone
  rw [context.run_visitNode_of_isSteady visit hnone h, run_relink, hopening]

/-- A qualified name goes on to its parts, to the last one, or to none. -/
theorem goesOn_qualifiedName (s : PassState) (id left right : NodeId) (isCallee : Bool) :
    context.GoesOn s id (.qualifiedName left right) isCallee := by
  cases hname : context.namespaces.contains (s.arena.spell id) with
  | true =>
      refine ⟨fun _ => pure id, fun _ => .pure id, fun visit _ => ?_⟩
      simp only [visitNode, run_visitQualifiedName, opening, hname, if_true]
      rfl
  | false =>
      cases hqualifier : context.namespaces.contains (s.arena.spell left) with
      | true =>
          refine ⟨stoodIn id, appends_stoodIn id, fun visit _ => ?_⟩
          simp only [visitNode, run_visitQualifiedName, opening, hname, hqualifier,
            Bool.false_eq_true, if_false, if_true, run_standIn]
      | false =>
          cases hlongest : context.namespaces.longestBelow? (s.arena.spell left) with
          | some longest =>
              obtain ⟨known, rest⟩ := longest
              refine ⟨_, appends_requalified id (s.arena.dottedName rest).1, fun visit _ => ?_⟩
              simp only [visitNode, run_visitQualifiedName, opening, hname, hqualifier, hlongest,
                Bool.false_eq_true, if_false, run_requalify]
          | none =>
              refine ⟨_, context.appends_relinked id (.qualifiedName left right) (pure ()),
                fun visit _ => ?_⟩
              simp only [visitNode, run_visitQualifiedName, opening, hname, hqualifier, hlongest,
                Bool.false_eq_true, if_false, run_relink]
              rfl

/-- An access goes on to its name, and to its expression unless that is a namespace. -/
theorem goesOn_memberAccess (s : PassState) (id expression name : NodeId) (isCallee : Bool) :
    context.GoesOn s id (.memberAccess expression name) isCallee := by
  cases hqualifier : context.isNamespaceQualifier s.arena expression with
  | true =>
      refine ⟨fun ids => do
        let result ← stoodIn id ids
        context.settle (context.checkMemberAccess id result isCallee)
        return result, fun ids => ?_, fun visit _ => ?_⟩
      · exact .bind (appends_stoodIn id ids) fun result =>
          .bind (.settle context _) fun _ => .pure result
      · simp only [visitNode, run_visitMemberAccess, opening, hqualifier, if_true]
        rfl
  | false =>
      refine ⟨_, context.appends_relinked id (.memberAccess expression name)
        (context.checkMemberAccess id id isCallee), fun visit _ => ?_⟩
      simp only [visitNode, run_visitMemberAccess, opening, hqualifier, Bool.false_eq_true,
        if_false, run_relink]
      rfl

/-- A unit goes on to all of its slots, and is flattened only afterwards. -/
theorem goesOn_unit (s : PassState) (id : NodeId)
    (externs usings attributeLists members : List NodeId) (isCallee : Bool) :
    context.GoesOn s id (.compilationUnit externs usings attributeLists members) isCallee := by
  refine ⟨fun ids => do
    let unit ← context.relinked id (.compilationUnit externs usings attributeLists members)
      (pure ()) ids
    if context.namespaces.root = "" then return unit
    else PassM.build (·.flatten unit context.namespaces.root), fun ids => ?_, fun visit hnone => ?_⟩
  · refine .bind (context.appends_relinked id _ _ ids) fun unit => ?_
    split
    · exact .pure unit
    · exact .build _
  · rw [context.visitNode_unit visit hnone]
    rfl

/-- **What a visit goes on to**: the parts of its opening, one after the other, and nothing else. -/
theorem goesOn (s : PassState) (id : NodeId) (data : NodeData) (isCallee : Bool) :
    context.GoesOn s id data isCallee := by
  cases data
  case qualifiedName left right => exact context.goesOn_qualifiedName s id left right isCallee
  case memberAccess expression name =>
    exact context.goesOn_memberAccess s id expression name isCallee
  case compilationUnit externs usings attributeLists members =>
    exact context.goesOn_unit s id externs usings attributeLists members isCallee
  all_goals exact context.goesOn_of_isSteady rfl s id isCallee

/-- Opening a visit takes no diagnostic back. -/
theorem diagnostics_prefix_opening (s : PassState) (id : NodeId) (data : NodeData) :
    s.diagnostics.toList <+: (context.opening s id data).1.diagnostics.toList := by
  have hsettled := PassM.Appends.settle context (checkConstruct id data) s
  cases data
  case qualifiedName left right =>
    simp only [opening]
    split
    · exact List.prefix_refl _
    · split
      · exact List.prefix_refl _
      · split <;> exact List.prefix_refl _
  case memberAccess expression name =>
    simp only [opening]
    split <;> exact List.prefix_refl _
  all_goals exact hsettled

/-- A visit takes no diagnostic back. -/
theorem appends_visitTo (levels : Nat) (id : NodeId) (isCallee : Bool) :
    (context.visitTo levels id isCallee).Appends := by
  induction levels generalizing id isCallee with
  | zero => exact .pure id
  | succ levels ih =>
      intro s
      cases hdata : s.arena.data? id with
      | none =>
          simp only [run_visitTo_of_data?_eq_none _ hdata, List.prefix_refl]
      | some data =>
          obtain ⟨finish, hfinish, hrun⟩ := context.goesOn s id data isCallee
          have hparts : (visitAll (context.visitTo levels) (context.opening s id data).2).Appends :=
            .mapM (fun (node, isCallee) => ih node isCallee) _
          rw [run_visitTo_of_data? _ hdata, hrun _ (context.visitTo_none levels)]
          exact (context.diagnostics_prefix_opening s id data).trans (hparts.bind hfinish _)

end PassContext

/-! ### The visits of a run -/

/-- A visit of a pass: how many levels it may go down, which node it visits, whether that is called,
and the state it begins in. -/
structure Visit where
  levels : Nat
  node : NodeId
  isCallee : Bool
  state : PassState

namespace Visit

variable (context : PassContext)

/-- The answer of a visit and the state it ends in. -/
def outcome (visit : Visit) : NodeId × PassState :=
  (context.visitTo visit.levels visit.node visit.isCallee).run visit.state

/-- What a visit finds at its node: nothing where the node is missing or no level is left. -/
def data? (visit : Visit) : Option NodeData :=
  if visit.levels = 0 then none else visit.state.arena.data? visit.node

/-- Visits one after the other, from a state on. -/
def sequence (levels : Nat) : PassState → List (NodeId × Bool) → List Visit
  | _, [] => []
  | s, (node, isCallee) :: rest =>
    let first : Visit := { levels, node, isCallee, state := s }
    first :: sequence levels (first.outcome context).2 rest

/-- The visits that a visit goes on to. -/
def parts (visit : Visit) : List Visit :=
  match visit.data? with
  | some data =>
    let (state, calls) := context.opening visit.state visit.node data
    sequence context (visit.levels - 1) state calls
  | none => []

/-- The visit of a root. -/
def ofRoot (misses : MissLog) (arena : NodeArena) (root : NodeId) : Visit where
  levels := maxDepth
  node := root
  isCallee := false
  state := { arena, misses }

variable {context}

/-- A visit that finds data has a level left. -/
theorem exists_levels_of_data? {visit : Visit} {data : NodeData} (h : visit.data? = some data) :
    ∃ levels, visit.levels = levels + 1 ∧ visit.state.arena.data? visit.node = some data := by
  rw [data?] at h
  split at h
  · cases h
  · exact ⟨visit.levels - 1, by omega, h⟩

/-- What each visit of a sequence reports is there when the sequence ends. -/
theorem diagnostics_prefix_sequence {levels : Nat} {s : PassState} {calls : List (NodeId × Bool)}
    {part : Visit} (h : part ∈ sequence context levels s calls) :
    (part.outcome context).2.diagnostics.toList <+:
      ((visitAll (context.visitTo levels) calls).run s).2.diagnostics.toList := by
  induction calls generalizing s with
  | nil => exact absurd h List.not_mem_nil
  | cons call rest ih =>
      have hrest := PassM.Appends.mapM
        (fun (call : NodeId × Bool) => context.appends_visitTo levels call.1 call.2) rest
      rw [run_visitAll_cons]
      rcases List.mem_cons.mp h with rfl | hmem
      · exact hrest _
      · exact ih hmem

/-- What a part of a visit reports is there when the visit ends. -/
theorem diagnostics_prefix_of_mem_parts {visit part : Visit} (h : part ∈ visit.parts context) :
    (part.outcome context).2.diagnostics.toList <+:
      (visit.outcome context).2.diagnostics.toList := by
  cases hdata : visit.data? with
  | none =>
      rw [parts, hdata] at h
      exact absurd h List.not_mem_nil
  | some data =>
      obtain ⟨levels, hlevels, hnode⟩ := exists_levels_of_data? hdata
      obtain ⟨finish, hfinish, hrun⟩ :=
        context.goesOn visit.state visit.node data visit.isCallee
      rw [parts, hdata, hlevels] at h
      rw [outcome, outcome, hlevels, context.run_visitTo_of_data? hnode,
        hrun _ (context.visitTo_none levels), PassM.run_bind]
      exact (diagnostics_prefix_sequence h).trans (hfinish _ _)

end Visit

/-- Whether a visit makes another one: it is the other one, or goes on to one that makes it. -/
def PassContext.Makes (context : PassContext) : Visit → Visit → Prop :=
  Relation.ReflTransGen fun visit part => part ∈ visit.parts context

/-- **Reports last.** What a visit of a run has reported when it ends the run reports. -/
theorem PassContext.mem_diagnostics_of_makes {context : PassContext} {misses : MissLog}
    {arena : NodeArena} {root : NodeId} {visit : Visit}
    (h : context.Makes (.ofRoot misses arena root) visit) {diagnostic : Diagnostic}
    (hmem : diagnostic ∈ (visit.outcome context).2.diagnostics) :
    diagnostic ∈ (context.runFrom misses arena root).2.diagnostics := by
  have hfront : (visit.outcome context).2.diagnostics.toList <+:
      (context.runFrom misses arena root).2.diagnostics.toList := by
    clear hmem
    induction h with
    | refl => exact List.prefix_refl _
    | tail _ hpart ih => exact (Visit.diagnostics_prefix_of_mem_parts hpart).trans ih
  exact Array.mem_def.mpr (hfront.subset (Array.mem_def.mp hmem))

end Portability
