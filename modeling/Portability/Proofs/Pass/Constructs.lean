import Portability.Proofs.Pass.Findings
import Portability.Proofs.Tree.Preorder

/-!
# Constructs that cannot be lowered

A pass reports every construct that cannot be lowered which it walks past: one report for each, on
the construct itself, a node before what is below it. The walk goes through all slots of a node but
for qualified names, of which shortening leaves out parts (`PassContext.visitedSlots`). It stops
`maxDepth` levels below the root.
-/

namespace Portability

open PassContext (unsupported? checkConstruct)

/-- Whether nodes of a kind are constructs that cannot be lowered. -/
def NodeKind.isConstruct : NodeKind → Bool
  | joinClause | joinIntoClause | groupClause | queryContinuation | isPattern | casePatternLabel
  | localFunction => true
  | _ => false

/-- Whether a node is a construct that cannot be lowered. -/
def NodeArena.isConstruct (arena : NodeArena) (id : NodeId) : Bool :=
  (arena.data? id).any (·.kind.isConstruct)

/-- Whether a diagnostic reports a construct that cannot be lowered. -/
def Diagnostic.isConstruct (d : Diagnostic) : Bool :=
  1001 ≤ d.code && d.code ≤ 1004

/-- The faults of an inspection that are constructs. -/
def Inspection.constructs (x : Inspection Unit) : List Fault :=
  x.faults.filter (·.violation.isConstruct)

/-- A node as a construct that cannot be lowered, if it is one. -/
def NodeArena.constructAt? (arena : NodeArena) (id : NodeId) : Option Fault :=
  ((arena.data? id).bind unsupported?).map fun violation => { node := id, violation }

/-- The slots of a node that is no qualified name. -/
def NodeArena.slotsOutsideNames : NodeArena.Parts := fun _ data =>
  match data with
  | .qualifiedName _ _ => []
  | data => data.slots

/-! ### Constructs among faults -/

namespace Inspection

/-- Of two inspections the constructs come one after the other. -/
@[simp] theorem constructs_bind (x y : Inspection Unit) :
    constructs (do x; y) = x.constructs ++ y.constructs :=
  List.filter_append ..

/-- Of several inspections the constructs come one after the other. -/
theorem constructs_forM {α : Type} (check : α → Inspection Unit) (items : List α) :
    (items.forM check).constructs = items.flatMap fun item => (check item).constructs := by
  induction items with
  | nil => rfl
  | cons item rest ih =>
      rw [List.flatMap_cons, ← ih]
      exact constructs_bind _ _

/-- The check of a use finds no construct. -/
theorem BlamesOnly.constructs_eq_nil {node : NodeId} {x : Inspection Unit} (h : x.BlamesOnly node) :
    x.constructs = [] := by
  refine List.filter_eq_nil_iff.mpr fun fault hmem => ?_
  rw [(h fault hmem).2]
  exact Bool.false_ne_true

/-- Alike inspections find the same constructs at the same nodes. -/
theorem Alike.constructs_eq {x y : Inspection Unit} (h : x.Alike y) :
    y.constructs = x.constructs := by
  have hfaults := h.faults
  unfold constructs
  generalize x.faults = xs at hfaults
  generalize y.faults = ys at hfaults
  induction hfaults with
  | nil => rfl
  | @cons fault other _ _ halike _ ih =>
      rw [List.filter_cons, List.filter_cons, halike.violation_eq, ih]
      cases hconstruct : fault.violation.isConstruct with
      | false => rfl
      | true =>
          have hsame : other = fault := by
            cases other
            cases fault
            simp only [Fault.mk.injEq]
            exact ⟨halike.node_eq hconstruct, halike.violation_eq⟩
          rw [hsame]

end Inspection

namespace PassContext

variable (context : PassContext) {arena : NodeArena}

/-- The check for constructs finds the node itself, if it is one. -/
theorem constructs_checkConstruct {id : NodeId} {data : NodeData}
    (hdata : arena.data? id = some data) :
    (checkConstruct id data).constructs = (arena.constructAt? id).toList := by
  rw [Inspection.constructs, checkConstruct_faults, NodeArena.constructAt?, hdata,
    Option.bind_some]
  cases hviolation : unsupported? data with
  | none => rfl
  | some violation => simp [isConstruct_of_unsupported? hviolation]

/-! ### Constructs of a tree -/

/-- The constructs on a walk are that of the node and those on the walks of its parts. -/
theorem filterMap_preorderTo {id : NodeId} {data : NodeData} (hdata : arena.data? id = some data)
    (parts : NodeArena.Parts) (levels : Nat) :
    (arena.preorderTo parts (levels + 1) id).filterMap arena.constructAt? =
      (arena.constructAt? id).toList ++ (parts id data).flatMap fun part =>
        (arena.preorderTo parts levels part).filterMap arena.constructAt? := by
  rw [NodeArena.preorderTo_of_data? hdata, List.filterMap_cons, List.filterMap_flatMap]
  cases arena.constructAt? id <;> rfl

/-- The constructs that a pass finds are those on its walk. -/
theorem constructs_findingsTo (levels : Nat) (id : NodeId) (isCallee : Bool) :
    (context.findingsTo arena levels id isCallee).constructs =
      (arena.preorderTo (context.visitedSlots arena) levels id).filterMap arena.constructAt? := by
  induction levels generalizing id isCallee with
  | zero => rfl
  | succ levels ih =>
      cases hdata : arena.data? id with
      | none =>
          rw [findingsTo_of_data?_eq_none _ hdata, NodeArena.preorderTo_of_data?_eq_none hdata]
          rfl
      | some data =>
          rw [filterMap_preorderTo hdata, findingsTo_of_data? _ hdata, Inspection.constructs_bind,
            Inspection.constructs_bind, constructs_checkConstruct hdata,
            (context.blamesOnly_checkAfter arena id data isCallee).constructs_eq_nil,
            Inspection.constructs_forM, List.append_nil, ← context.map_fst_visitedCalls,
            List.flatMap_map]
          simp only [ih]

/-! ### Reports -/

/-- The diagnostic of a fault is one of a construct if the fault is. -/
theorem isConstruct_diagnostic (fault : Fault) :
    (context.diagnostic fault).isConstruct = fault.violation.isConstruct := by
  rw [Bool.eq_iff_iff, fault.violation.isConstruct_iff]
  exact Bool.and_eq_true_iff.trans (and_congr decide_eq_true_iff decide_eq_true_iff)

/-- The constructs that a step reports are those that it is expected to find. -/
theorem Finds.filter_isConstruct {context : PassContext} {footprint : NodeId → Prop}
    {expected : Inspection Unit} {s t : PassState} (h : context.Finds footprint expected s t) :
    t.diagnostics.toList.filter Diagnostic.isConstruct =
      s.diagnostics.toList.filter Diagnostic.isConstruct ++
        expected.constructs.map context.diagnostic := by
  obtain ⟨found, halike, heffect⟩ := h
  have hcode : Diagnostic.isConstruct ∘ context.diagnostic = (·.violation.isConstruct) :=
    funext context.isConstruct_diagnostic
  rw [heffect.diagnostics_eq, List.filter_append, List.filter_map, hcode, ← halike.constructs_eq]
  rfl

/-- A node is found as a construct if it is one. -/
theorem isSome_constructAt? (arena : NodeArena) (id : NodeId) :
    (arena.constructAt? id).isSome = arena.isConstruct id := by
  rw [NodeArena.constructAt?, NodeArena.isConstruct]
  cases arena.data? id with
  | none => rfl
  | some data => cases data <;> rfl

/-- A construct is found fault with at its own node. -/
theorem map_node_filterMap_constructAt? (ids : List NodeId) :
    (ids.filterMap arena.constructAt?).map (·.node) = ids.filter arena.isConstruct := by
  induction ids with
  | nil => rfl
  | cons id rest ih =>
      have hsome := isSome_constructAt? arena id
      cases hfault : arena.constructAt? id with
      | none =>
          rw [List.filterMap_cons_none hfault, ih, List.filter_cons_of_neg]
          rw [← hsome, hfault]
          exact Bool.false_ne_true
      | some fault =>
          obtain ⟨violation, -, rfl⟩ := Option.map_eq_some_iff.mp hfault
          rw [List.filterMap_cons_some hfault, List.map_cons, ih, List.filter_cons_of_pos]
          rw [← hsome, hfault]
          rfl

/-- A pass goes on to all slots of what is no qualified name. -/
theorem slotsOutsideNames_sublist (arena : NodeArena) (id : NodeId) (data : NodeData) :
    (NodeArena.slotsOutsideNames id data).Sublist (context.visitedSlots arena id data) := by
  cases data
  case qualifiedName => exact List.nil_sublist _
  all_goals exact List.Sublist.refl _

/-- **Every construct is reported once.** The reports of constructs that cannot be lowered are one
for each such node on the walk of the pass, on the node itself and in the order of the walk. The
walk has no node twice and reaches what is less than `maxDepth` steps below the root, all outside
qualified names included. -/
theorem constructs_of_runFrom (misses : MissLog) {root : NodeId} (hclosed : arena.IsClosed)
    (htree : arena.IsTree root) :
    let reported := (context.runFrom misses arena root).2.diagnostics.toList.filter
      Diagnostic.isConstruct
    let walk := arena.preorderTo (context.visitedSlots arena) maxDepth root
    reported.map (·.node) = walk.filter arena.isConstruct ∧ walk.Nodup ∧
      (∀ id, id ∈ walk ↔
        ∃ depth < maxDepth, arena.Leads (context.visitedSlots arena) depth root id) ∧
      (arena.preorderTo NodeArena.slotsOutsideNames maxDepth root).Sublist walk := by
  intro reported walk
  have hreported : reported = (walk.filterMap arena.constructAt?).map context.diagnostic := by
    have hfinds := (context.findsAt_runFrom hclosed htree misses).finds
    refine hfinds.filter_isConstruct.trans ?_
    rw [findings, constructs_findingsTo]
    rfl
  refine ⟨?_, ?_, ?_, ?_⟩
  · rw [hreported, List.map_map, ← map_node_filterMap_constructAt?]
    rfl
  · exact NodeArena.nodup_preorderTo (context.visitedSlots_sublist arena) htree maxDepth .refl
  · exact fun id => NodeArena.mem_preorderTo_iff
  · exact NodeArena.preorderTo_sublist (context.slotsOutsideNames_sublist arena) maxDepth root

/-- A pass over a unit of which nothing is known. -/
def blankContext : PassContext where
  file := "Unit.cs"
  model := .ofProgram { assembly := ⟨0⟩, symbols := {} } {}
  policy := {}
  namespaces := {}

/-- A body with a query and a local function that tests for a pattern. -/
def constructsInBody : NodeArena where
  nodes := #[
    { data := .identifierName "x" },
    { data := .identifierName "P" },
    { data := .isPattern (.ofIndex 0) (.ofIndex 1) },
    { data := .returnStatement (.ofIndex 2) },
    { data := .localFunction "test" [.ofIndex 3] },
    { data := .joinIntoClause "group" },
    { data := .queryExpression [.ofIndex 5] },
    { data := .block [.ofIndex 6, .ofIndex 4] }]

/-- The constructs of `constructsInBody` are reported in the order of the walk. -/
theorem constructs_constructsInBody :
    let reported := (blankContext.runFrom {} constructsInBody (.ofIndex 7)).2.diagnostics.toList
    let walk := constructsInBody.preorderTo (blankContext.visitedSlots constructsInBody) maxDepth
      (.ofIndex 7)
    constructsInBody.IsClosed ∧ constructsInBody.IsTree (.ofIndex 7) ∧
      (reported.filter Diagnostic.isConstruct).map (·.node) =
        walk.filter constructsInBody.isConstruct ∧
      walk.filter constructsInBody.isConstruct = [.ofIndex 5, .ofIndex 4, .ofIndex 2] := by
  have hclosed : constructsInBody.IsClosed :=
    NodeArena.isClosed_of_allChildren (by decide +kernel)
  have htree : constructsInBody.IsTree (.ofIndex 7) :=
    NodeArena.isTree_of_allChildren (by decide +kernel) (by decide +kernel)
  obtain ⟨hreported, -⟩ := blankContext.constructs_of_runFrom {} hclosed htree
  exact ⟨hclosed, htree, hreported, by decide +kernel⟩

/-- A qualified name with the test for a pattern on its right. -/
def patternInName : NodeArena where
  nodes := #[
    { data := .identifierName "A" },
    { data := .identifierName "x" },
    { data := .identifierName "P" },
    { data := .isPattern (.ofIndex 1) (.ofIndex 2) },
    { data := .qualifiedName (.ofIndex 0) (.ofIndex 3) }]

/-- What is below a qualified name is not left out: a construct there is reported. -/
theorem constructs_patternInName :
    let reported := (blankContext.runFrom {} patternInName (.ofIndex 4)).2.diagnostics.toList
    let outside := patternInName.preorderTo NodeArena.slotsOutsideNames maxDepth (.ofIndex 4)
    patternInName.IsClosed ∧ patternInName.IsTree (.ofIndex 4) ∧
      (reported.filter Diagnostic.isConstruct).map (·.node) = [.ofIndex 3] ∧
      outside.filter patternInName.isConstruct = [] := by
  refine ⟨?_, ?_, by decide +kernel, by decide +kernel⟩
  · exact NodeArena.isClosed_of_allChildren (by decide +kernel)
  · exact NodeArena.isTree_of_allChildren (by decide +kernel) (by decide +kernel)

end PassContext

end Portability
