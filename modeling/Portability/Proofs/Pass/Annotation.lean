import Portability.Proofs.Pass.Findings
import Portability.Proofs.Pass.Visits
import Portability.Proofs.Tree.Shape

/-!
# Passes that only annotate

Where no namespace is known there is nothing to shorten and nothing to flatten, and a pass is left
with reporting faults. What it has done by any time, `PassState.Annotates`, is to put a comment in
front of a node for each diagnostic: the arena keeps its shape, and its comments can be told from
the diagnostics.

* `PassContext.Reports`: steps that keep to this, each told by the answer that it gives and by what
  it finds.
* `reports_relink`: a visit writes the data of its node back once its slots are visited. Each slot
  answers with itself, so what is written is what is there, even if the node is below itself and was
  written by another visit in between.
* `reports_visitTo`: what a visit finds is what `findingsTo` finds of the arena at the start. For a
  tree this holds whatever is shortened (`findsAt_visitTo`), but here the arena may be any graph:
  nodes may be shared, missing or on cycles.
* `runFrom_unqualified`: all of it for a whole pass.
-/

namespace Portability

/-- The comments that diagnostics leave on a node: the messages of those about it, newest first. -/
def notesOn (diagnostics : List Diagnostic) (id : NodeId) : List String :=
  (diagnostics.filter (·.node = id)).reverse.map fun diagnostic => messageComment diagnostic.message

/-- One more diagnostic is one more note on its node, in front of the others. -/
theorem notesOn_concat (diagnostics : List Diagnostic) (last : Diagnostic) (id : NodeId) :
    notesOn (diagnostics ++ [last]) id =
      if id = last.node then messageComment last.message :: notesOn diagnostics id
      else notesOn diagnostics id := by
  by_cases h : id = last.node
  · simp [notesOn, h]
  · simp [notesOn, h, Ne.symm h]

/-- A comment that is added comes first at its node, and no other node gets it. -/
theorem NodeArena.comments?_prependComment (arena : NodeArena) (id other : NodeId)
    (comment : String) :
    (arena.prependComment id comment).comments? other =
      if other = id then (arena.comments? other).map (comment :: ·) else arena.comments? other := by
  rw [prependComment, comments?, node?_modify, comments?]
  split
  · next h =>
      rw [h, Option.map_map, Option.map_map]
      rfl
  · rfl

/-! ### What an annotating pass has done -/

/-- What a pass has done to the arena it began with, if it has reported faults and nothing else. -/
structure PassState.Annotates (s : PassState) (arena : NodeArena) : Prop where
  sameShape : s.arena.SameShape arena
  comments?_eq : ∀ id, s.arena.comments? id =
    (arena.comments? id).map (notesOn s.diagnostics.toList id ++ ·)
  announced_eq : s.announced.toList = s.diagnostics.toList.map fun diagnostic =>
    (diagnostic.node, diagnostic.message)
  contains : ∀ diagnostic ∈ s.diagnostics.toList, arena.contains diagnostic.node

namespace PassState.Annotates

variable {arena : NodeArena} {s : PassState}

/-- At the start there is nothing to annotate. -/
theorem start (misses : MissLog) (arena : NodeArena) :
    ({ arena, misses } : PassState).Annotates arena where
  sameShape := .refl arena
  comments?_eq := fun id => by simp [notesOn]
  announced_eq := rfl
  contains := fun _ hmem => absurd hmem List.not_mem_nil

/-- Reporting a fault of a node adds its comment, its announcement and its diagnostic. -/
theorem report (h : s.Annotates arena) (context : PassContext) {fault : Fault}
    (hnode : arena.contains fault.node) :
    ((context.report fault).run s).2.Annotates arena := by
  rw [context.run_report]
  refine ⟨?_, fun id => ?_, ?_, fun diagnostic hmem => ?_⟩
  · exact (NodeArena.sameShape_prependComment s.arena fault.node _).trans h.sameShape
  · have hid : (context.diagnostic fault).node = fault.node := rfl
    rw [PassContext.annotate, NodeArena.comments?_prependComment, h.comments?_eq id,
      Array.toList_push, notesOn_concat, hid]
    split
    · rw [Option.map_map]
      rfl
    · rfl
  · rw [Array.toList_push, Array.toList_push, h.announced_eq, List.map_append]
    rfl
  · rw [Array.toList_push] at hmem
    rcases List.mem_append.mp hmem with hbefore | hlast
    · exact h.contains diagnostic hbefore
    · obtain rfl := List.mem_singleton.mp hlast
      exact hnode

end PassState.Annotates

/-! ### Steps that annotate -/

/-- Whether a step of a pass over an arena gives an answer and does nothing but report what is
found. -/
def PassContext.Reports {α : Type} (context : PassContext) (arena : NodeArena) (x : PassM α)
    (answer : α) (found : Inspection Unit) : Prop :=
  ∀ s : PassState, s.Annotates arena → (x.run s).1 = answer ∧ (x.run s).2.Annotates arena ∧
    context.Effect (fun _ => True) found s (x.run s).2

namespace PassContext

variable (context : PassContext) {arena : NodeArena} {visit : Visitor}
  {find : NodeId → Bool → Inspection Unit}

namespace Reports

variable {context} {α β : Type} {x : PassM α} {a : α} {found other : Inspection Unit}

/-- A step that only answers reports nothing. -/
theorem pure (a : α) : context.Reports arena (pure a) a (pure ()) :=
  fun _ hs => ⟨rfl, hs, .ofChanges (.refl _ _)⟩

/-- A step reports what it finds, and then the next one what that finds. -/
theorem bind {f : α → PassM β} {b : β} (hx : context.Reports arena x a found)
    (hf : context.Reports arena (f a) b other) :
    context.Reports arena (x >>= f) b (do found; other) := by
  intro s hs
  obtain ⟨hanswer, hmiddle, hfound⟩ := hx s hs
  obtain ⟨hlast, hend, hother⟩ := hf _ hmiddle
  rw [PassM.run_bind, hanswer]
  exact ⟨hlast, hend, hfound.trans hother fun _ _ _ => trivial⟩

/-- What is reported are faults and misses, however they were found. -/
theorem congr (h : context.Reports arena x a found) (hfaults : other.faults = found.faults)
    (hmisses : other.misses = found.misses) : context.Reports arena x a other := by
  intro s hs
  obtain ⟨hanswer, hend, hfound⟩ := h s hs
  exact ⟨hanswer, hend, hfound.congr hfaults hmisses⟩

/-- Settling what is found of nodes of the arena. -/
theorem settle (h : ∀ fault ∈ found.faults, arena.contains fault.node) :
    context.Reports arena (context.settle found) () found := by
  intro s hs
  refine ⟨rfl, ?_, context.effect_settle (fun _ _ => trivial) s⟩
  have hreports (faults : List Fault) (hfaults : ∀ fault ∈ faults, arena.contains fault.node)
      (s : PassState) (hs : s.Annotates arena) :
      ((faults.forM context.report).run s).2.Annotates arena := by
    induction faults generalizing s with
    | nil => exact hs
    | cons fault rest ih =>
        obtain ⟨hfault, hrest⟩ := List.forall_mem_cons.mp hfaults
        exact ih hrest _ (hs.report context hfault)
  exact hreports found.faults h _ { hs with }

/-- Writing what a node of the arena holds. -/
theorem setData {id : NodeId} {data : NodeData} (h : arena.data? id = some data) :
    context.Reports arena (PassM.change (·.setData id data)) () (Pure.pure ()) := by
  intro s hs
  rw [PassM.run_change, NodeArena.setData_of_data? ((hs.sameShape.data?_eq id).trans h)]
  exact ⟨rfl, hs, .ofChanges (.refl _ _)⟩

/-- Visits one after the other, if each answers with its node. -/
theorem visitAll
    (h : ∀ id isCallee, context.Reports arena (visit id isCallee) id (find id isCallee))
    (calls : List (NodeId × Bool)) :
    context.Reports arena (visitAll visit calls) (calls.map Prod.fst)
      (calls.forM fun (node, isCallee) => find node isCallee) := by
  induction calls with
  | nil => exact .pure []
  | cons call rest ih =>
      rw [Portability.visitAll, List.mapM_cons]
      refine .congr (.bind (h call.1 call.2) (.bind ih (.pure _))) ?_ ?_
      · simp
      · simp

end Reports

/-! ### Visits that annotate -/

/-- What is found of a node and of what its slots hold, in the order of a visit. -/
def foundAt (find : NodeId → Bool → Inspection Unit) (id : NodeId) (data : NodeData)
    (after : Inspection Unit) : Inspection Unit := do
  checkConstruct id data
  data.calls.forM fun (slot, isCallee) => find slot isCallee
  after

/-- A node of the arena stays in its place, as it is, where its slots answer with themselves. -/
theorem reports_relink
    (hvisit : ∀ id isCallee, context.Reports arena (visit id isCallee) id (find id isCallee))
    {id : NodeId} {data : NodeData} (hdata : arena.data? id = some data)
    {after : Inspection Unit} (hafter : after.BlamesOnly id) :
    context.Reports arena (context.relink visit id data after) id (foundAt find id data after) := by
  have hid : arena.contains id := NodeArena.contains_iff.mpr ⟨data, hdata⟩
  have hsettle {found : Inspection Unit} (hblames : ∀ fault ∈ found.faults, fault.node = id) :
      context.Reports arena (context.settle found) () found :=
    .settle fun fault hmem => (hblames fault hmem).symm ▸ hid
  have hwrite : context.Reports arena
      (PassM.change (·.setData id (data.withSlots (data.calls.map Prod.fst)))) () (pure ()) := by
    rw [data.map_fst_calls, data.withSlots_slots]
    exact .setData hdata
  have hslots : context.Reports arena (visitSlots visit id data) ()
      (do data.calls.forM fun (slot, isCallee) => find slot isCallee; pure ()) :=
    .bind (.visitAll hvisit data.calls) hwrite
  refine .congr (.bind (hsettle (checkConstruct_node id data)) (.bind hslots
    (.bind (hsettle fun fault hmem => (hafter fault hmem).1) (.pure id)))) ?_ ?_
  · simp [foundAt]
  · simp [foundAt]

section

variable (hplain : context.namespaces = {})

include hplain

/-- Where no namespace is known every node of the arena stays in its place. -/
theorem reports_visitNode (hnone : ∀ isCallee, visit .none isCallee = pure .none)
    (hvisit : ∀ id isCallee, context.Reports arena (visit id isCallee) id (find id isCallee))
    {id : NodeId} {data : NodeData} (hdata : arena.data? id = some data) (isCallee : Bool) :
    context.Reports arena (context.visitNode visit id data isCallee) id
      (foundAt find id data (context.checkAfter arena id data isCallee)) := by
  have hrelink := context.reports_relink hvisit hdata
    (context.blamesOnly_checkAfter arena id data isCallee)
  intro s hs
  -- without known namespaces every kind is relinked
  cases data
  case qualifiedName left right =>
    have hrun : (context.visitNode visit id (.qualifiedName left right) isCallee).run s =
        (context.relink visit id (.qualifiedName left right) (pure ())).run s := by
      rw [visitNode, run_visitQualifiedName, hplain]
      rfl
    rw [hrun]
    exact hrelink s hs
  case memberAccess expression name =>
    have hqualifier : context.isNamespaceQualifier s.arena expression = false := by
      rw [isNamespaceQualifier, hplain]
      split <;> rfl
    rw [visitNode, run_visitMemberAccess, if_neg (by simp [hqualifier])]
    exact hrelink s hs
  case compilationUnit externs usings attributeLists members =>
    have hunit : context.visitNode visit id
        (.compilationUnit externs usings attributeLists members) isCallee =
          context.relink visit id (.compilationUnit externs usings attributeLists members)
            (pure ()) := by
      rw [context.visitNode_unit visit hnone]
      simp only [hplain, if_true, bind_pure]
    rw [hunit]
    exact hrelink s hs
  all_goals
    rw [context.run_visitNode_of_isSteady visit hnone rfl,
      context.checkAfter_congr fun slot _ => hs.sameShape.data?_eq slot]
    exact hrelink s hs

/-- What is found at a node and below is told by what is found at its slots, a level less each. -/
theorem findingsTo_eq_foundAt {id : NodeId} {data : NodeData} (hdata : arena.data? id = some data)
    (levels : Nat) (isCallee : Bool) :
    context.findingsTo arena (levels + 1) id isCallee =
      foundAt (context.findingsTo arena levels) id data
        (context.checkAfter arena id data isCallee) := by
  have hcalls : context.visitedCalls arena id data = data.calls := by
    cases data
    case qualifiedName left right => rw [visitedCalls, visitedParts, hplain]; rfl
    all_goals rfl
  rw [findingsTo_of_data? context hdata, hcalls]
  rfl

/-- A visit reports what is found of the arena as it is before the visit, or before any other. -/
theorem reports_visitTo (levels : Nat) (id : NodeId) (isCallee : Bool) :
    context.Reports arena (context.visitTo levels id isCallee) id
      (context.findingsTo arena levels id isCallee) := by
  induction levels generalizing id isCallee with
  | zero => exact .pure id
  | succ levels ih =>
      intro s hs
      have hsame := hs.sameShape.data?_eq id
      cases hdata : arena.data? id with
      | none =>
          rw [context.run_visitTo_of_data?_eq_none (hsame.trans hdata),
            context.findingsTo_of_data?_eq_none hdata]
          exact Reports.pure id s hs
      | some data =>
          rw [context.run_visitTo_of_data? (hsame.trans hdata),
            context.findingsTo_eq_foundAt hplain hdata]
          exact context.reports_visitNode hplain (context.visitTo_none levels) ih hdata isCallee
            s hs

end

/-- **With nothing to shorten a pass only annotates.** Where no namespace is known the root stays in
its place, and no node is added or gets other data. Each node ends with one comment for every
diagnostic about it, newest first, and then with those it had. What was announced are the nodes and
messages of the diagnostics, in order, and each is about a node of the arena. Diagnostics and misses
are those found by checking the arena as it was, without changing it. -/
theorem runFrom_unqualified (file : String) (model : SemanticModel) (policy : RulePolicy)
    (misses : MissLog) (arena : NodeArena) (root : NodeId) :
    let context : PassContext := { file, model, policy, namespaces := {} }
    let found := context.findings arena root
    let (result, final) := context.runFrom misses arena root
    result = root ∧
      final.arena.size = arena.size ∧ (∀ id, final.arena.data? id = arena.data? id) ∧
      (∀ id, final.arena.comments? id = (arena.comments? id).map fun comments =>
        ((final.diagnostics.toList.filter (·.node = id)).reverse.map fun diagnostic =>
          "/* " ++ diagnostic.message ++ " */") ++ comments) ∧
      (final.announced.toList = final.diagnostics.toList.map fun diagnostic =>
        (diagnostic.node, diagnostic.message)) ∧
      (∀ diagnostic ∈ final.diagnostics, arena.contains diagnostic.node) ∧
      final.diagnostics.toList = found.faults.map context.diagnostic ∧
      final.misses = misses.insertAll found.misses := by
  intro context found
  obtain ⟨hroot, hannotates, hfound⟩ := context.reports_visitTo rfl maxDepth root false
    { arena, misses } (.start misses arena)
  exact ⟨hroot, hannotates.sameShape.size_eq, hannotates.sameShape.data?_eq,
    hannotates.comments?_eq, hannotates.announced_eq,
    fun diagnostic hmem => hannotates.contains diagnostic (Array.mem_def.mp hmem),
    hfound.diagnostics_eq, hfound.misses_eq⟩

end PassContext

end Portability
