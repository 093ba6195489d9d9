import Portability.Proofs.Pass.Lockstep
import Portability.Proofs.Policy.MissReport

/-!
# What a pass does not depend on

Two comparisons of runs over one tree, each a relation that passes in lockstep keep.

* `sameShape_of_policies`: the policy has no say in the shape of the tree. Whatever a policy makes a
  pass report only adds comments, and no move of the pass looks at a comment.
* `sameButLog_of_logs`: what was missed before has no say in anything. From any two logs a pass
  answers, changes and reports the same, and adds the same misses to both.
-/

namespace Portability

open NodeArena (SameShape)

/-! ### Shapes under two policies -/

namespace PassContext

variable (context : PassContext)

/-- Showing a fault keeps the shape. -/
theorem sameShape_annotate (arena : NodeArena) (fault : Fault) :
    SameShape (context.annotate arena fault) arena :=
  NodeArena.sameShape_prependComment arena fault.node _

/-- Showing faults in the source keeps the shape of the tree. -/
theorem sameShape_foldl_annotate (faults : List Fault) (arena : NodeArena) :
    SameShape (faults.foldl context.annotate arena) arena := by
  induction faults generalizing arena with
  | nil => exact SameShape.refl arena
  | cons fault rest ih => exact (ih _).trans (context.sameShape_annotate arena fault)

/-- Settling an inspection keeps the data of all nodes. -/
theorem data?_settle {context : PassContext} (x : Inspection Unit) (s : PassState) (id : NodeId) :
    ((context.settle x).run s).2.arena.data? id = s.arena.data? id := by
  rw [run_settle]
  exact (context.sameShape_foldl_annotate x.faults s.arena).data?_eq id

/-- Settling any two inspections keeps two trees in one shape. -/
theorem sameShape_settle {context other : PassContext} (x y : Inspection Unit) {s t : PassState}
    (h : SameShape s.arena t.arena) :
    SameShape ((context.settle x).run s).2.arena ((other.settle y).run t).2.arena := by
  rw [run_settle, run_settle]
  exact (context.sameShape_foldl_annotate x.faults s.arena).trans
    (h.trans (other.sameShape_foldl_annotate y.faults t.arena).symm)

end PassContext

/-- Passes under any two policies keep their trees in one shape. -/
theorem Correspondence.ofShape (context : PassContext) (policy : RulePolicy) :
    Correspondence context policy fun s t => SameShape s.arena t.arena where
  sameShape _ _ h := h
  relink _ hf _ _ h := hf _ _ h
  settle x y _ _ _ h := ⟨rfl, PassContext.sameShape_settle x y h⟩

/-- **The shape does not depend on the policy.** Under any two policies and from any two logs a pass
over a tree answers with the same root and leaves arenas that differ at most in their comments. -/
theorem PassContext.sameShape_of_policies (context : PassContext) (policy₁ policy₂ : RulePolicy)
    (log₁ log₂ : MissLog) (arena : NodeArena) (root : NodeId) :
    let first := (context.withPolicy policy₁).runFrom log₁ arena root
    let second := (context.withPolicy policy₂).runFrom log₂ arena root
    first.1 = second.1 ∧ first.2.arena.size = second.2.arena.size ∧
      ∀ id, first.2.arena.data? id = second.2.arena.data? id := by
  intro first second
  obtain ⟨hroot, hshape⟩ := (Correspondence.ofShape (context.withPolicy policy₁) policy₂).run root
    { arena, misses := log₁ } { arena, misses := log₂ } (SameShape.refl arena)
  exact ⟨hroot, hshape.size_eq, hshape.data?_eq⟩

/-! ### Runs from two logs -/

/-- Two states of runs that started from two logs and agree but for them: what was missed since is
the same. -/
structure SameButLog (log₁ log₂ : MissLog) (s t : PassState) : Prop where
  arena_eq : s.arena = t.arena
  diagnostics_eq : s.diagnostics = t.diagnostics
  announced_eq : s.announced = t.announced
  grown : ∃ missed, s.misses = log₁.insertAll missed ∧ t.misses = log₂.insertAll missed

namespace SameButLog

variable {context : PassContext} {log₁ log₂ : MissLog} {s t : PassState}

/-- At the start nothing was missed yet. -/
theorem start (arena : NodeArena) :
    SameButLog log₁ log₂ { arena, misses := log₁ } { arena, misses := log₂ } :=
  ⟨rfl, rfl, rfl, [], rfl, rfl⟩

/-- The same inspection is settled the same way in both states. -/
theorem settle (h : SameButLog log₁ log₂ s t) (inspection : Inspection Unit) :
    SameButLog log₁ log₂ ((context.settle inspection).run s).2
      ((context.settle inspection).run t).2 := by
  obtain ⟨missed, hs, ht⟩ := h.grown
  rw [PassContext.run_settle, PassContext.run_settle]
  refine ⟨?_, ?_, ?_, missed ++ inspection.misses, ?_, ?_⟩
  · simp only [h.arena_eq]
  · simp only [h.diagnostics_eq]
  · simp only [h.announced_eq]
  · rw [hs, MissLog.insertAll_append]
  · rw [ht, MissLog.insertAll_append]

end SameButLog

/-- Under one policy two passes make the same inspections. -/
theorem SideBySide.eq_of_samePolicy {context : PassContext} {x y : Inspection Unit}
    (h : SideBySide context context.policy x y) : x = y := by
  cases h <;> rfl

/-- A pass agrees with itself but for the logs it starts from. -/
theorem Correspondence.ofLogs (context : PassContext) (log₁ log₂ : MissLog) :
    Correspondence context context.policy (SameButLog log₁ log₂) where
  sameShape s t h := h.arena_eq ▸ SameShape.refl s.arena
  relink f _ s t h := ⟨congrArg f h.arena_eq, h.diagnostics_eq, h.announced_eq, h.grown⟩
  settle x y hxy s t h := by
    obtain rfl := hxy.eq_of_samePolicy
    exact ⟨rfl, h.settle x⟩

/-- **Nothing depends on the log.** From any two logs a pass over a tree gives the same answer, the
same arena and the same diagnostics, and both logs grow by the same misses. -/
theorem PassContext.sameButLog_of_logs (context : PassContext) (log₁ log₂ : MissLog)
    (arena : NodeArena) (root : NodeId) :
    (context.runFrom log₁ arena root).1 = (context.runFrom log₂ arena root).1 ∧
      SameButLog log₁ log₂ (context.runFrom log₁ arena root).2
        (context.runFrom log₂ arena root).2 :=
  (Correspondence.ofLogs context log₁ log₂).run root _ _ (SameButLog.start arena)

end Portability
