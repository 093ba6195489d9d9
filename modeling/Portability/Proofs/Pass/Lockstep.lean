import Portability.Pass.Visit
import Portability.Proofs.Tree.Shape

/-!
# Passes in lockstep

Two passes over one tree that go by the same model and the same namespaces make the same moves,
whatever their policies are: they visit the same nodes, build the same names and inspect the same
uses. What they report and log may differ, and a relation between their states says how.

Such a relation has to survive what both passes do in the same way, changes of the arena that go by
its shape, and what each does in its own way, settling its inspections. `Correspondence` collects
these conditions. Every comparison of two runs is then one instance of

* `Correspondence.visitTo`: the passes keep the relation at every node and every depth,
* `Correspondence.run`: and so they do over a whole tree.
-/

namespace Portability

open NodeArena (SameShape)

/-! ### Steps in lockstep -/

/-- Two steps of passes *in lockstep* under a relation between their states: from related states
they give the same answer and lead to related states. -/
def Lockstep {α : Type} (R : PassState → PassState → Prop) (x y : PassM α) : Prop :=
  ∀ s t, R s t → (x.run s).1 = (y.run t).1 ∧ R (x.run s).2 (y.run t).2

namespace Lockstep

variable {α β : Type} {R : PassState → PassState → Prop}

/-- Steps that only answer, and the same, are in lockstep. -/
theorem pure (a : α) : Lockstep R (pure a) (pure a) :=
  fun _ _ h => ⟨rfl, h⟩

/-- Steps that follow one another are in lockstep if each pair of them is. -/
theorem bind {x y : PassM α} {f g : α → PassM β} (hx : Lockstep R x y)
    (hf : ∀ a, Lockstep R (f a) (g a)) : Lockstep R (x >>= f) (y >>= g) := by
  intro s t hst
  obtain ⟨hanswer, hstate⟩ := hx s t hst
  rw [PassM.run_bind, PassM.run_bind, hanswer]
  exact hf (y.run t).1 _ _ hstate

/-- A choice between steps that are in lockstep is in lockstep. -/
theorem ite (c : Prop) [Decidable c] {x x' y y' : PassM α} (hx : Lockstep R x y)
    (hx' : Lockstep R x' y') : Lockstep R (if c then x else x') (if c then y else y') := by
  split
  · exact hx
  · exact hx'

/-- Steps for one item after the other are in lockstep. -/
theorem mapM {f g : α → PassM β} (hf : ∀ a, Lockstep R (f a) (g a)) (items : List α) :
    Lockstep R (items.mapM f) (items.mapM g) := by
  induction items with
  | nil => exact pure []
  | cons item rest ih =>
      rw [List.mapM_cons, List.mapM_cons]
      exact bind (hf item) fun first => bind ih fun others => pure (first :: others)

end Lockstep

/-! ### Plans -/

namespace NodeArena.SameShape

variable {a b : NodeArena}

/-- Arguments are split the same way in arenas of the same shape. -/
theorem splitArguments_eq (h : SameShape a b) (arguments : List NodeId) :
    ArgumentPlan.splitArguments a arguments = ArgumentPlan.splitArguments b arguments := by
  induction arguments with
  | nil => rfl
  | cons id rest ih => simp only [ArgumentPlan.splitArguments, h.data?_eq id, ih]

/-- A call is planned the same way in arenas of the same shape. -/
theorem plannedCall?_eq (h : SameShape a b) (context : PassContext) (id callee : NodeId)
    (arguments : List NodeId) :
    context.plannedCall? a id callee arguments = context.plannedCall? b id callee arguments := by
  simp only [PassContext.plannedCall?, PassContext.extensionReceiver?, ArgumentPlan.ofCall,
    h.data?_eq callee, h.splitArguments_eq]

end NodeArena.SameShape

/-! ### Passes side by side -/

/-- The same pass under another policy. -/
def PassContext.withPolicy (context : PassContext) (policy : RulePolicy) : PassContext :=
  { context with policy }

@[simp] theorem PassContext.model_withPolicy (context : PassContext) (policy : RulePolicy) :
    (context.withPolicy policy).model = context.model := rfl

@[simp] theorem PassContext.judge_withPolicy (context : PassContext) (policy : RulePolicy) :
    (context.withPolicy policy).judge = { model := context.model, policy } := rfl

@[simp] theorem PassContext.namespaces_withPolicy (context : PassContext) (policy : RulePolicy) :
    (context.withPolicy policy).namespaces = context.namespaces := rfl

/-- The inspections that a pass and the same pass under another policy make side by side. -/
inductive SideBySide (context : PassContext) (policy : RulePolicy) :
    Inspection Unit → Inspection Unit → Prop
  | construct (id : NodeId) (data : NodeData) :
      SideBySide context policy (PassContext.checkConstruct id data)
        (PassContext.checkConstruct id data)
  | types (id : NodeId) (data : NodeData) :
      SideBySide context policy (context.checkTypes id data)
        ((context.withPolicy policy).checkTypes id data)
  | memberAccess (id reportOn : NodeId) (isCallee : Bool) :
      SideBySide context policy (context.checkMemberAccess id reportOn isCallee)
        ((context.withPolicy policy).checkMemberAccess id reportOn isCallee)
  | invocation (id : NodeId) (symbol : SymbolId) (plan : ArgumentPlan) :
      SideBySide context policy (context.checkInvocation id symbol plan)
        ((context.withPolicy policy).checkInvocation id symbol plan)

/-- A relation that a pass and the same pass under another policy keep their states in. -/
structure Correspondence (context : PassContext) (policy : RulePolicy)
    (R : PassState → PassState → Prop) : Prop where
  sameShape : ∀ s t, R s t → SameShape s.arena t.arena
  relink : ∀ f : NodeArena → NodeArena, (∀ a b, SameShape a b → SameShape (f a) (f b)) →
    ∀ s t, R s t → R { s with arena := f s.arena } { t with arena := f t.arena }
  settle : ∀ x y, SideBySide context policy x y →
    Lockstep R (context.settle x) ((context.withPolicy policy).settle y)

namespace Correspondence

variable {context : PassContext} {policy : RulePolicy} {R : PassState → PassState → Prop}
  (h : Correspondence context policy R)

include h

/-! ### Moves that both passes make -/

/-- Looking at what does not depend on comments is in lockstep. -/
theorem inspect {α : Type} (f : NodeArena → α) (hf : ∀ a b, SameShape a b → f a = f b) :
    Lockstep R (PassM.inspect f) (PassM.inspect f) :=
  fun s t hst => ⟨hf _ _ (h.sameShape s t hst), hst⟩

/-- A change that keeps shapes the same is in lockstep. -/
theorem change (f : NodeArena → NodeArena) (hf : ∀ a b, SameShape a b → SameShape (f a) (f b)) :
    Lockstep R (PassM.change f) (PassM.change f) :=
  fun s t hst => ⟨rfl, h.relink f hf s t hst⟩

/-- Nodes that are built the same way are built in lockstep. -/
theorem build (f : NodeArena → NodeId × NodeArena)
    (hf : ∀ a b, SameShape a b → (f a).1 = (f b).1 ∧ SameShape (f a).2 (f b).2) :
    Lockstep R (PassM.build f) (PassM.build f) := by
  intro s t hst
  refine ⟨(hf _ _ (h.sameShape s t hst)).1, ?_⟩
  exact h.relink (fun a => (f a).2) (fun a b hab => (hf a b hab).2) s t hst

/-- Spelling is in lockstep. -/
theorem spell (id : NodeId) :
    Lockstep R (PassM.inspect (·.spell id)) (PassM.inspect (·.spell id)) :=
  h.inspect _ fun _ _ hab => hab.spell_eq id

/-- Setting the same data is in lockstep. -/
theorem setData (id : NodeId) (data : NodeData) :
    Lockstep R (PassM.change (·.setData id data)) (PassM.change (·.setData id data)) :=
  h.change _ fun _ _ hab => hab.setData id data

/-- Copying comments is in lockstep. -/
theorem copyComments (source target : NodeId) :
    Lockstep R (PassM.change (·.copyComments source target))
      (PassM.change (·.copyComments source target)) :=
  h.change _ fun _ _ hab => hab.copyComments source target

/-! ### Visitors

The visitors of the two passes take the same ways, so what has to be shown of each is only that the
ways to visit children that it is given are in lockstep. -/

section

variable {visit₁ visit₂ : Visitor} (hvisit : ∀ id isCallee,
  Lockstep R (visit₁ id isCallee) (visit₂ id isCallee))

include hvisit

/-- The children of a node are visited in lockstep. -/
theorem visitChildren (id : NodeId) (data : NodeData) :
    Lockstep R (PassContext.visitChildren visit₁ id data)
      (PassContext.visitChildren visit₂ id data) := by
  refine Lockstep.bind (Lockstep.mapM (fun slot => ?_) data.slots) fun slots => h.setData id _
  exact Lockstep.ite _ (Lockstep.pure slot) (hvisit slot false)

/-- Qualified names are visited in lockstep. -/
theorem visitQualifiedName (id left right : NodeId) :
    Lockstep R (context.visitQualifiedName visit₁ id left right)
      ((context.withPolicy policy).visitQualifiedName visit₂ id left right) := by
  unfold PassContext.visitQualifiedName
  refine Lockstep.bind (h.spell id) fun name => Lockstep.ite _ (Lockstep.pure id) ?_
  refine Lockstep.bind (h.spell left) fun qualifier => Lockstep.ite _ ?_ ?_
  · refine Lockstep.bind (hvisit right false) fun name => ?_
    exact Lockstep.bind (h.copyComments id name) fun _ => Lockstep.pure name
  simp only [PassContext.namespaces_withPolicy]
  cases context.namespaces.longestBelow? qualifier with
  | some longest =>
      obtain ⟨-, rest⟩ := longest
      refine Lockstep.bind (h.build _ fun _ _ hab => hab.dottedName rest) fun left => ?_
      refine Lockstep.bind (hvisit right false) fun name => ?_
      refine Lockstep.bind (h.build _ fun _ _ hab => hab.alloc _) fun shortened => ?_
      exact Lockstep.bind (h.copyComments id shortened) fun _ => Lockstep.pure shortened
  | none =>
      refine Lockstep.bind (hvisit left false) fun left => ?_
      refine Lockstep.bind (hvisit right false) fun right => ?_
      exact Lockstep.bind (h.setData id _) fun _ => Lockstep.pure id

/-- Accesses are visited in lockstep, before they are checked. -/
theorem visitAccess (id expression name : NodeId) :
    Lockstep R (context.visitAccess visit₁ id expression name)
      ((context.withPolicy policy).visitAccess visit₂ id expression name) := by
  refine Lockstep.bind (h.inspect _ fun a b hab => ?_) fun isQualifier => Lockstep.ite _ ?_ ?_
  · simp only [PassContext.isNamespaceQualifier, hab.data?_eq]
  · refine Lockstep.bind (hvisit name false) fun name => ?_
    exact Lockstep.bind (h.copyComments id name) fun _ => Lockstep.pure name
  · refine Lockstep.bind (hvisit expression false) fun expression => ?_
    refine Lockstep.bind (hvisit name false) fun name => ?_
    exact Lockstep.bind (h.setData id _) fun _ => Lockstep.pure id

/-- Accesses are visited and checked in lockstep. -/
theorem visitMemberAccess (id expression name : NodeId) (isCallee : Bool) :
    Lockstep R (context.visitMemberAccess visit₁ id expression name isCallee)
      ((context.withPolicy policy).visitMemberAccess visit₂ id expression name isCallee) := by
  refine Lockstep.bind (h.visitAccess hvisit id expression name) fun result => ?_
  refine Lockstep.bind (h.settle _ _ (.memberAccess id result isCallee)) fun _ => ?_
  exact Lockstep.pure result

/-- Calls are visited and checked in lockstep. -/
theorem visitInvocation (id callee : NodeId) (arguments : List NodeId) :
    Lockstep R (context.visitInvocation visit₁ id callee arguments)
      ((context.withPolicy policy).visitInvocation visit₂ id callee arguments) := by
  unfold PassContext.visitInvocation
  refine Lockstep.bind (h.inspect _ fun a b hab => hab.plannedCall?_eq context id callee arguments)
    fun call => ?_
  refine Lockstep.bind (hvisit callee true) fun newCallee => ?_
  refine Lockstep.bind (Lockstep.mapM (fun argument => hvisit argument false) arguments)
    fun newArguments => ?_
  refine Lockstep.bind (h.setData id _) fun _ => ?_
  cases call with
  | some call =>
      exact Lockstep.bind (h.settle _ _ (.invocation id call.1 call.2)) fun _ => Lockstep.pure id
  | none => exact Lockstep.pure id

/-- Nodes of every kind are visited in lockstep, if their slots are. -/
theorem visitNode (id : NodeId) (data : NodeData) (isCallee : Bool) :
    Lockstep R (context.visitNode visit₁ id data isCallee)
      ((context.withPolicy policy).visitNode visit₂ id data isCallee) := by
  have hother : Lockstep R
      (do
        context.settle (PassContext.checkConstruct id data)
        PassContext.visitChildren visit₁ id data
        context.settle (context.checkTypes id data)
        return id)
      (do
        (context.withPolicy policy).settle (PassContext.checkConstruct id data)
        PassContext.visitChildren visit₂ id data
        (context.withPolicy policy).settle ((context.withPolicy policy).checkTypes id data)
        return id) := by
    refine Lockstep.bind (h.settle _ _ (.construct id data)) fun _ => ?_
    refine Lockstep.bind (h.visitChildren hvisit id data) fun _ => ?_
    exact Lockstep.bind (h.settle _ _ (.types id data)) fun _ => Lockstep.pure id
  cases data
  case qualifiedName left right => exact h.visitQualifiedName hvisit id left right
  case memberAccess expression name =>
    exact h.visitMemberAccess hvisit id expression name isCallee
  case invocation callee arguments => exact h.visitInvocation hvisit id callee arguments
  case compilationUnit =>
    refine Lockstep.bind (h.visitChildren hvisit id _) fun _ => ?_
    exact Lockstep.ite _ (Lockstep.pure id) (h.build _ fun _ _ hab => hab.flatten id _)
  all_goals exact hother

end

/-- **Lockstep.** The two passes keep the relation at every node and every depth. -/
theorem visitTo (levels : Nat) (id : NodeId) (isCallee : Bool) :
    Lockstep R (context.visitTo levels id isCallee)
      ((context.withPolicy policy).visitTo levels id isCallee) := by
  induction levels generalizing id isCallee with
  | zero => exact Lockstep.pure id
  | succ levels ih =>
      refine Lockstep.bind (h.inspect _ fun a b hab => hab.data?_eq id) fun data => ?_
      cases data with
      | some data => exact h.visitNode ih id data isCallee
      | none => exact Lockstep.pure id

/-- The two passes keep the relation over a whole tree. -/
theorem run (root : NodeId) :
    Lockstep R (context.run root) ((context.withPolicy policy).run root) :=
  h.visitTo maxDepth root false

end Correspondence

end Portability
