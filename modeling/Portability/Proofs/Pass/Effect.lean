import Portability.Proofs.Pass.Blame
import Portability.Proofs.Policy.MissReport
import Portability.Proofs.Tree.Frame

/-!
# What a step of a pass does

A step of a pass changes and adds nodes, reports faults and logs misses. `PassContext.Effect` bounds
all of it: the changes by a footprint, and faults and misses by the inspection that they are the
outcome of. `PassContext.Finds` forgets which nodes were blamed for uses. Effects of steps one after
the other add up (`Effect.trans`, `Finds.trans`), so the effect of a whole visit is put together
from those of its moves.
-/

namespace Portability

open NodeArena (ChangesOnly)

namespace PassContext

/-- What leads from one state of a pass to a later one: changes at most within a footprint, and the
faults and misses of an inspection. -/
structure Effect (context : PassContext) (footprint : NodeId → Prop) (found : Inspection Unit)
    (s t : PassState) : Prop where
  changes : ChangesOnly footprint s.arena t.arena
  diagnostics_eq :
    t.diagnostics.toList = s.diagnostics.toList ++ found.faults.map context.diagnostic
  misses_eq : t.misses = s.misses.insertAll found.misses

/-- Whether an effect finds what is expected, up to the nodes that are blamed for uses. -/
def Finds (context : PassContext) (footprint : NodeId → Prop) (expected : Inspection Unit)
    (s t : PassState) : Prop :=
  ∃ found, expected.Alike found ∧ context.Effect footprint found s t

variable {context : PassContext} {F G : NodeId → Prop} {s t u : PassState}

namespace Effect

variable {x y : Inspection Unit}

/-- A step that changes the arena alone. -/
theorem ofChanges {arena : NodeArena} (h : ChangesOnly F s.arena arena) :
    context.Effect F (pure ()) s { s with arena } :=
  ⟨h, by simp, rfl⟩

/-- An effect within a footprint is one within any larger one. -/
theorem mono (h : context.Effect F x s t) (hFG : ∀ id, s.arena.contains id → F id → G id) :
    context.Effect G x s t :=
  { h with changes := h.changes.mono hFG }

/-- The second step may go beyond the footprint only at nodes that the first one added. -/
theorem trans (h₁ : context.Effect F x s t) (h₂ : context.Effect G y t u)
    (hGF : ∀ id, s.arena.contains id → G id → F id) :
    context.Effect F (do x; y) s u := by
  refine ⟨h₁.changes.trans h₂.changes hGF, ?_, ?_⟩
  · rw [h₂.diagnostics_eq, h₁.diagnostics_eq, List.append_assoc, ← List.map_append]
    rfl
  · rw [h₂.misses_eq, h₁.misses_eq, Inspection.bind_misses, MissLog.insertAll_append]

/-- What is found goes by its faults and misses alone. -/
theorem congr (h : context.Effect F x s t) (hfaults : y.faults = x.faults)
    (hmisses : y.misses = x.misses) : context.Effect F y s t :=
  ⟨h.changes, hfaults ▸ h.diagnostics_eq, hmisses ▸ h.misses_eq⟩

end Effect

/-- Showing a fault changes the node at fault alone. -/
theorem changesOnly_annotate (context : PassContext) (arena : NodeArena) (fault : Fault) :
    ChangesOnly (· = fault.node) arena (context.annotate arena fault) :=
  NodeArena.changesOnly_prependComment arena fault.node _

/-- Showing faults changes the nodes at fault. -/
theorem changesOnly_foldl_annotate (context : PassContext) {faults : List Fault}
    (h : ∀ fault ∈ faults, F fault.node) (arena : NodeArena) :
    ChangesOnly F arena (faults.foldl context.annotate arena) := by
  induction faults generalizing arena with
  | nil => exact .refl F arena
  | cons fault rest ih =>
      obtain ⟨hfault, hrest⟩ := List.forall_mem_cons.mp h
      have hfirst := (context.changesOnly_annotate arena fault).mono fun id _ heq => heq ▸ hfault
      exact hfirst.trans (ih hrest _) fun _ _ => id

/-- Settling an inspection changes the nodes that it blames. -/
theorem effect_settle (context : PassContext) {x : Inspection Unit}
    (h : ∀ fault ∈ x.faults, F fault.node) (s : PassState) :
    context.Effect F x s ((context.settle x).run s).2 := by
  rw [run_settle]
  exact ⟨context.changesOnly_foldl_annotate h s.arena, Array.toList_appendList, rfl⟩

namespace Finds

variable {x y : Inspection Unit}

/-- An effect finds what its inspection does. -/
theorem ofEffect (h : context.Effect F x s t) : context.Finds F x s t :=
  ⟨x, .refl x, h⟩

/-- What is found leaves changes within the footprint only. -/
theorem changes (h : context.Finds F x s t) : ChangesOnly F s.arena t.arena := by
  obtain ⟨_, -, heffect⟩ := h
  exact heffect.changes

/-- What is missed is that of the inspection that is expected. -/
theorem misses_eq (h : context.Finds F x s t) : t.misses = s.misses.insertAll x.misses := by
  obtain ⟨_, halike, heffect⟩ := h
  rw [heffect.misses_eq, halike.misses_eq]

/-- A step that does nothing finds nothing. -/
theorem nothing (F : NodeId → Prop) (s : PassState) : context.Finds F (pure ()) s s :=
  ofEffect (.ofChanges (.refl F s.arena))

/-- What is found within a footprint is found within any larger one. -/
theorem mono (h : context.Finds F x s t) (hFG : ∀ id, s.arena.contains id → F id → G id) :
    context.Finds G x s t := by
  obtain ⟨found, halike, heffect⟩ := h
  exact ⟨found, halike, heffect.mono hFG⟩

/-- Two steps find what is expected of the one and then of the other. -/
theorem trans (h₁ : context.Finds F x s t) (h₂ : context.Finds G y t u)
    (hGF : ∀ id, s.arena.contains id → G id → F id) : context.Finds F (do x; y) s u := by
  obtain ⟨found₁, halike₁, heffect₁⟩ := h₁
  obtain ⟨found₂, halike₂, heffect₂⟩ := h₂
  exact ⟨_, halike₁.andThen halike₂, heffect₁.trans heffect₂ hGF⟩

/-- What is expected goes by its faults and misses alone. -/
theorem congr (h : context.Finds F x s t) (hfaults : y.faults = x.faults)
    (hmisses : y.misses = x.misses) : context.Finds F y s t := by
  obtain ⟨found, halike, heffect⟩ := h
  exact ⟨found, ⟨hfaults ▸ halike.faults, hmisses ▸ halike.misses_eq⟩, heffect⟩

/-- Changes of the arena before a step find nothing. -/
theorem afterChanges {arena : NodeArena} (hchanges : ChangesOnly F s.arena arena)
    (h : context.Finds G x { s with arena } t) (hGF : ∀ id, s.arena.contains id → G id → F id) :
    context.Finds F x s t :=
  .congr (.trans (.ofEffect (.ofChanges hchanges)) h hGF) rfl rfl

/-- Changes of the arena after a step find nothing. -/
theorem thenChanges {arena : NodeArena} (h : context.Finds F x s t)
    (hchanges : ChangesOnly G t.arena arena) (hGF : ∀ id, s.arena.contains id → G id → F id) :
    context.Finds F x s { t with arena } :=
  .congr (.trans h (.ofEffect (.ofChanges hchanges)) hGF) (by simp) (by simp)

end Finds

variable (context) in
/-- Settling a check that blames one node. -/
theorem finds_settle {x : Inspection Unit} {node : NodeId} (h : x.BlamesOnly node)
    (s : PassState) : context.Finds (· = node) x s ((context.settle x).run s).2 :=
  .ofEffect (context.effect_settle (fun fault hmem => (h fault hmem).1) s)

variable (context) in
/-- Settling the check of a construct. -/
theorem finds_checkConstruct (id : NodeId) (data : NodeData) (s : PassState) :
    context.Finds (· = id) (checkConstruct id data) s
      ((context.settle (checkConstruct id data)).run s).2 :=
  .ofEffect (context.effect_settle (checkConstruct_node id data) s)

end PassContext

end Portability
