import Portability.Proofs.Pass.Checks
import Portability.Proofs.Pass.Units

/-!
# Passes under relaxed policies

A policy that relaxes another (`RulePolicy.Relaxes`) makes a pass report and miss less, never more
and nothing else. Each check does (`IsCheck.within`), and the moves of the pass in between are the
same under both policies, so the passes stay in lockstep under `EasedState`.
-/

namespace Portability

open NodeArena (SameShape)

/-- The state of a pass under a policy beside that of the pass under a relaxed one, which started
from the given log: the diagnostics of the latter are a subsequence, and what it missed since was
missed under the former too. -/
structure EasedState (laxLog : MissLog) (strict lax : PassState) : Prop where
  sameShape : SameShape strict.arena lax.arena
  diagnostics : lax.diagnostics.toList.Sublist strict.diagnostics.toList
  misses : ∀ miss ∈ lax.misses.misses, miss ∈ laxLog.misses ∨ miss ∈ strict.misses.misses

namespace EasedState

variable {laxLog : MissLog} {s t : PassState}

/-- At the start nothing was found yet, and nothing missed. -/
theorem start (strictLog : MissLog) (arena : NodeArena) :
    EasedState laxLog { arena, misses := strictLog } { arena, misses := laxLog } :=
  ⟨SameShape.refl arena, List.Sublist.refl _, fun _ => .inl⟩

/-- Settling an inspection within another keeps the states so. -/
theorem settle (h : EasedState laxLog s t) {context : PassContext} (policy : RulePolicy)
    {x y : Inspection Unit} (hwithin : y.Within x) :
    EasedState laxLog ((context.settle x).run s).2
      (((context.withPolicy policy).settle y).run t).2 := by
  refine ⟨PassContext.sameShape_settle x y h.sameShape, ?_, ?_⟩
  · rw [PassContext.run_settle, PassContext.run_settle]
    simp only [Array.toList_appendList]
    exact h.diagnostics.append (hwithin.faults.map context.diagnostic)
  · rw [PassContext.run_settle, PassContext.run_settle]
    intro miss hmem
    simp only [MissLog.mem_insertAll] at hmem ⊢
    rcases hmem with hmem | hmem
    · exact (h.misses miss hmem).imp_right .inl
    · exact .inr (.inr (hwithin.misses hmem))

end EasedState

/-- A pass and the pass under a relaxed policy correspond. -/
theorem Correspondence.ofRelaxes (context : PassContext) {policy : RulePolicy}
    (h : policy.Relaxes context.policy) (laxLog : MissLog) :
    Correspondence context policy (EasedState laxLog) where
  sameShape _ _ hst := hst.sameShape
  relink _ hf _ _ hst := ⟨hf _ _ hst.sameShape, hst.diagnostics, hst.misses⟩
  settle x y hxy _ _ hst := by
    obtain ⟨check, hcheck, rfl, rfl⟩ := hxy.exists_isCheck
    exact ⟨rfl, hst.settle policy (hcheck.within h)⟩

namespace PassContext

variable (context : PassContext)

/-- Over a whole tree, from any two logs. -/
theorem easedState_run {lax strict : RulePolicy} (h : lax.Relaxes strict)
    (laxLog strictLog : MissLog) (arena : NodeArena) (root : NodeId) :
    EasedState laxLog ((context.withPolicy strict).runFrom strictLog arena root).2
      ((context.withPolicy lax).runFrom laxLog arena root).2 := by
  have hcorrespondence := Correspondence.ofRelaxes (context.withPolicy strict) h laxLog
  exact (hcorrespondence.run root _ _ (EasedState.start strictLog arena)).2

end PassContext

/-- What a unit misses alone under a relaxed policy it misses under the other. -/
theorem ProgramDocument.mem_misses_checkAlone_of_relaxes (program : ProgramDocument)
    (namespaces : KnownNamespaces) {lax strict : RulePolicy} (h : lax.Relaxes strict)
    (unit : UnitDocument) {miss : Miss}
    (hmem : miss ∈ (program.checkAlone lax namespaces unit).2.misses) :
    miss ∈ (program.checkAlone strict namespaces unit).2.misses := by
  have heased := (program.passContext strict namespaces unit).easedState_run h {} {}
    unit.arena unit.root
  exact (heased.misses miss hmem).resolve_left List.not_mem_nil

namespace PassContext

open ProgramDocument (creationUnit twoCreations)

/-- **A relaxed policy reports less.** Where a policy allows at least and denies at most what
another does, its diagnostics are a subsequence of those under the other, whatever is logged before,
and from empty logs it misses only what is missed under the other. -/
theorem diagnostics_sublist_of_relaxes (context : PassContext) {lax strict : RulePolicy}
    (h : lax.Relaxes strict) (arena : NodeArena) (root : NodeId) :
    (∀ laxLog strictLog,
        ((context.withPolicy lax).runFrom laxLog arena root).2.diagnostics.toList.Sublist
          ((context.withPolicy strict).runFrom strictLog arena root).2.diagnostics.toList) ∧
      ∀ miss ∈ ((context.withPolicy lax).runFrom {} arena root).2.misses.misses,
        miss ∈ ((context.withPolicy strict).runFrom {} arena root).2.misses.misses := by
  refine ⟨fun laxLog strictLog => ?_, fun miss hmem => ?_⟩
  · exact (context.easedState_run h laxLog strictLog arena root).diagnostics
  · refine ((context.easedState_run h {} {} arena root).misses miss hmem).resolve_left ?_
    exact List.not_mem_nil

/-- A listed type may be created, and nothing is missed, where the type was missed before. -/
theorem diagnostics_twoCreations_of_allowed :
    let unit := creationUnit "B.cs" ⟨0⟩
    let context := twoCreations.passContext {} {} unit
    let strict : RulePolicy := {}
    let lax := strict.insert (.allow .genericType "List_T")
    let strictRun := (context.withPolicy strict).runFrom {} unit.arena unit.root
    let laxRun := (context.withPolicy lax).runFrom {} unit.arena unit.root
    lax.Relaxes strict ∧ strictRun.2.diagnostics.size = 1 ∧ laxRun.2.diagnostics.size = 0 ∧
      laxRun.2.diagnostics.toList.Sublist strictRun.2.diagnostics.toList := by
  have hrelaxes : (RulePolicy.insert {} (.allow .genericType "List_T")).Relaxes {} := by
    constructor <;> simp [RulePolicy.allows, RulePolicy.allowsConversion, RulePolicy.denies,
      RulePolicy.has, RulePolicy.insert]
  obtain ⟨hdiagnostics, -⟩ := diagnostics_sublist_of_relaxes
    (twoCreations.passContext {} {} (creationUnit "B.cs" ⟨0⟩)) hrelaxes
    (creationUnit "B.cs" ⟨0⟩).arena (creationUnit "B.cs" ⟨0⟩).root
  exact ⟨hrelaxes, by decide +kernel, by decide +kernel, hdiagnostics {} {}⟩

end PassContext

end Portability
