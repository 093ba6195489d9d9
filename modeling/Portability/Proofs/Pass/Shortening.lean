import Portability.Proofs.Pass.Findings
import Portability.Proofs.Pass.Lockstep
import Portability.Proofs.Tree.Names

/-!
# Shortening and the checks

Which names a pass shortens, and whether it flattens, goes by the known namespaces; what it finds
does not, as long as qualified names have nothing but names below them. Shortening then leaves out
nothing but names, which are found no fault with (`findingsTo_of_onlyNames`), so the findings are
the same under any known namespaces (`findingsTo_withNamespaces`), and so are reports and misses.
-/

namespace Portability

/-- A diagnostic but for its node. -/
def Diagnostic.unplaced (d : Diagnostic) : Diagnostic :=
  { d with node := .none }

namespace Inspection

/-- Inspections that find nothing find nothing together. -/
theorem forM_eq_pure {α : Type} {check : α → Inspection Unit} {items : List α}
    (h : ∀ item ∈ items, check item = pure ()) : items.forM check = pure () := by
  induction items with
  | nil => rfl
  | cons item rest ih =>
      obtain ⟨hitem, hrest⟩ := List.forall_mem_cons.mp h
      rw [List.forM_eq_forM, List.forM_cons, hitem, ← List.forM_eq_forM, ih hrest]
      rfl

/-- Checks that agree on all items find the same in them. -/
theorem forM_congr {α : Type} {check other : α → Inspection Unit} {items : List α}
    (h : ∀ item ∈ items, check item = other item) : items.forM check = items.forM other := by
  induction items with
  | nil => rfl
  | cons item rest ih =>
      obtain ⟨hitem, hrest⟩ := List.forall_mem_cons.mp h
      simp only [List.forM_eq_forM, List.forM_cons] at ih ⊢
      rw [hitem, ih hrest]

end Inspection

namespace PassContext

/-- What a pass goes by, with other namespaces. -/
def withNamespaces (context : PassContext) (namespaces : KnownNamespaces) : PassContext :=
  { context with namespaces }

variable (context : PassContext) {arena : NodeArena}

/-! ### Findings -/

/-- Names are found no fault with. -/
theorem findingsTo_of_onlyNames (levels : Nat) {id : NodeId} (h : arena.OnlyNamesBelow id)
    (isCallee : Bool) : context.findingsTo arena levels id isCallee = pure () := by
  induction levels generalizing id isCallee with
  | zero => rfl
  | succ levels ih =>
      cases hdata : arena.data? id with
      | none => exact context.findingsTo_of_data?_eq_none hdata _ _
      | some data =>
          have hname := h id .refl data hdata
          rw [context.findingsTo_of_data? hdata, Inspection.forM_eq_pure fun call hcall =>
            ih (h.slot hdata (context.mem_slots_of_mem_visitedCalls hcall)) call.2]
          cases data
          case qualifiedName | identifierName | genericName | predefinedType => rfl
          all_goals cases hname

/-- What is found does not depend on the known namespaces. -/
theorem findingsTo_withNamespaces (namespaces : KnownNamespaces) (levels : Nat) {id : NodeId}
    (h : arena.NamesHoldNames id) (isCallee : Bool) :
    (context.withNamespaces namespaces).findingsTo arena levels id isCallee =
      context.findingsTo arena levels id isCallee := by
  induction levels generalizing id isCallee with
  | zero => rfl
  | succ levels ih =>
      cases hdata : arena.data? id with
      | none => rw [findingsTo_of_data?_eq_none _ hdata, findingsTo_of_data?_eq_none _ hdata]
      | some data =>
          have hcalls : ∀ call ∈ (context.withNamespaces namespaces).visitedCalls arena id data,
              (context.withNamespaces namespaces).findingsTo arena levels call.1 call.2 =
                context.findingsTo arena levels call.1 call.2 := fun call hcall =>
            ih (h.slot hdata (mem_slots_of_mem_visitedCalls _ hcall)) call.2
          cases data
          case qualifiedName left right =>
            have hnames := h id left right .refl hdata
            rw [findingsTo_of_onlyNames _ _ hnames, findingsTo_of_onlyNames _ _ hnames]
          all_goals
            rw [findingsTo_of_data? _ hdata, findingsTo_of_data? _ hdata,
              Inspection.forM_congr hcalls]
            rfl

/-! ### Reports -/

/-- Alike faults are reported alike but for their nodes. -/
theorem unplaced_diagnostic_of_alike {fault other : Fault} (h : fault.Alike other) :
    (context.diagnostic other).unplaced = (context.diagnostic fault).unplaced := by
  simp only [diagnostic, h.violation_eq]
  rfl

/-- Up to nodes, the diagnostics are those of the inspection that is expected. -/
theorem Finds.unplaced_diagnostics_eq {context : PassContext} {footprint : NodeId → Prop}
    {expected : Inspection Unit} {s t : PassState} (h : context.Finds footprint expected s t) :
    t.diagnostics.toList.map Diagnostic.unplaced =
      s.diagnostics.toList.map Diagnostic.unplaced ++
        expected.faults.map fun fault => (context.diagnostic fault).unplaced := by
  obtain ⟨found, halike, heffect⟩ := h
  have hsame : (found.faults.map fun fault => (context.diagnostic fault).unplaced) =
      expected.faults.map fun fault => (context.diagnostic fault).unplaced := by
    rw [eq_comm, ← List.forall₂_eq_eq_eq, List.forall₂_map_left_iff, List.forall₂_map_right_iff]
    exact halike.faults.imp fun _ _ hfault => (context.unplaced_diagnostic_of_alike hfault).symm
  rw [heffect.diagnostics_eq, List.map_append, List.map_map, ← hsame]
  rfl

/-- **The checks do not depend on the known namespaces.** Under any two sets of known namespaces a
pass over a tree whose qualified names hold nothing but names reports the same, but for the nodes,
and from one log it leaves the same. -/
theorem unplaced_diagnostics_eq_of_namespaces (first second : KnownNamespaces) (log : MissLog)
    {root : NodeId} (hclosed : arena.IsClosed) (htree : arena.IsTree root)
    (hnames : arena.NamesHoldNames root) :
    let run := fun namespaces => (context.withNamespaces namespaces).runFrom log arena root
    (run first).2.diagnostics.toList.map Diagnostic.unplaced =
        (run second).2.diagnostics.toList.map Diagnostic.unplaced ∧
      (run first).2.misses = (run second).2.misses := by
  intro run
  have hrun (namespaces : KnownNamespaces) :
      (context.withNamespaces namespaces).Finds (arena.Reaches root) (context.findings arena root)
        { arena, misses := log } (run namespaces).2 := by
    rw [findings, ← context.findingsTo_withNamespaces namespaces maxDepth hnames false]
    exact (findsAt_runFrom _ hclosed htree log).finds
  refine ⟨?_, ?_⟩
  · rw [(hrun first).unplaced_diagnostics_eq, (hrun second).unplaced_diagnostics_eq]
    rfl
  · rw [(hrun first).misses_eq, (hrun second).misses_eq]

/-- A body that creates an external list and handles an external event, both by way of the
namespace `App`. -/
def qualifiedUses : NodeArena where
  nodes := #[
    { data := .identifierName "App" },
    { data := .identifierName "List" },
    { data := .qualifiedName (.ofIndex 0) (.ofIndex 1) },
    { data := .objectCreation (.ofIndex 2) [] },
    { data := .identifierName "App" },
    { data := .identifierName "Quit" },
    { data := .memberAccess (.ofIndex 4) (.ofIndex 5) },
    { data := .block [.ofIndex 3, .ofIndex 6] }]

/-- What the names of `qualifiedUses` mean. -/
def qualifiedUsesContext : PassContext where
  file := "Uses.cs"
  model := .ofProgram
    { assembly := ⟨0⟩
      symbols := {
        assemblies := #["Game", "Engine"]
        symbols := #[
          .type { name := "List", kind := .classType, assembly := ⟨1⟩, typeParameters := ["T"] },
          .event { name := "Quit", containingType := ⟨0⟩, assembly := ⟨1⟩, type := ⟨0⟩ }] } }
    { bindings := [
        { node := .ofIndex 2, symbol := some ⟨0⟩ },
        { node := .ofIndex 6, symbol := some ⟨1⟩ }] }
  policy := {}
  namespaces := {}

/-- Both uses are found fault with whether or not `App` is known. Where it is, the event is found
fault with at another node. -/
theorem unplaced_diagnostics_qualifiedUses :
    let known := KnownNamespaces.ofNames "App" ["App"]
    let run := fun namespaces =>
      (qualifiedUsesContext.withNamespaces namespaces).runFrom {} qualifiedUses (.ofIndex 7)
    (run {}).2.diagnostics.toList.map (fun d => (d.node, d.code)) =
        [(.ofIndex 3, 2007), (.ofIndex 6, 2001), (.ofIndex 6, 2005)] ∧
      (run known).2.diagnostics.toList.map (fun d => (d.node, d.code)) =
        [(.ofIndex 3, 2007), (.ofIndex 5, 2001), (.ofIndex 5, 2005)] ∧
      (run {}).2.diagnostics.toList.map Diagnostic.unplaced =
        (run known).2.diagnostics.toList.map Diagnostic.unplaced ∧
      (run {}).2.misses = (run known).2.misses := by
  have hclosed : qualifiedUses.IsClosed := NodeArena.isClosed_of_allChildren (by decide +kernel)
  have htree : qualifiedUses.IsTree (.ofIndex 7) :=
    NodeArena.isTree_of_allChildren (by decide +kernel) (by decide +kernel)
  have hnames : qualifiedUses.NamesHaveNames := by decide +kernel
  refine ⟨by decide +kernel, by decide +kernel, ?_⟩
  exact qualifiedUsesContext.unplaced_diagnostics_eq_of_namespaces {} (.ofNames "App" ["App"]) {}
    hclosed htree (hnames.namesHoldNames _)

end PassContext

end Portability
