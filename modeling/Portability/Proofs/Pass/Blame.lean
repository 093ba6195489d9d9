import Mathlib.Data.List.Forall2
import Portability.Proofs.Pass.Checks
import Portability.Proofs.Pass.Moves

/-!
# Where a check finds fault

A check blames one node for all it finds. `BlamesOnly` says so and that what it finds is the use of
something, not a construct that cannot be lowered: constructs are found by `checkConstruct` alone.

Of a member access it is only the blamed node that depends on what stands in the place of the
access: `alike_checkMemberAccess`.
-/

namespace Portability

/-- Whether a violation is a construct that cannot be lowered. -/
def Violation.isConstruct : Violation → Bool
  | queryClause _ | casePattern | isPattern | localFunction => true
  | event _ | property _ | field _ | method _ | memberType _ | signatureType _ | type _
  | conversion _ _ | localContainer _ _ | extensionMethod _ => false

/-- Constructs have the codes from 1001 to 1004. -/
theorem Violation.isConstruct_iff (violation : Violation) :
    violation.isConstruct ↔ 1001 ≤ violation.code ∧ violation.code ≤ 1004 := by
  cases violation <;> simp [isConstruct, code]

/-- Two faults that differ at most in their nodes, and not even there for a construct. -/
structure Fault.Alike (fault other : Fault) : Prop where
  violation_eq : other.violation = fault.violation
  node_eq : fault.violation.isConstruct → other.node = fault.node

/-- A fault is alike to itself. -/
theorem Fault.Alike.refl (fault : Fault) : fault.Alike fault :=
  ⟨rfl, fun _ => rfl⟩

open Inspection (blame blameIf require unlessAllowed)

namespace Inspection

/-! ### Inspections that differ in nodes -/

/-- Two inspections that find alike faults and miss the same. -/
structure Alike (x y : Inspection Unit) : Prop where
  faults : List.Forall₂ Fault.Alike x.faults y.faults
  misses_eq : y.misses = x.misses

namespace Alike

/-- An inspection is alike to itself. -/
theorem refl (x : Inspection Unit) : x.Alike x :=
  ⟨List.forall₂_same.mpr fun fault _ => .refl fault, rfl⟩

/-- Alike inspections one after the other are alike. -/
theorem andThen {x x' y y' : Inspection Unit} (hx : x.Alike x') (hy : y.Alike y') :
    Inspection.Alike (do x; y) (do x'; y') where
  faults := List.rel_append hx.faults hy.faults
  misses_eq := congrArg₂ (· ++ ·) hx.misses_eq hy.misses_eq

/-- Blame for a use is alike whichever node it falls on. -/
theorem blame (id reportOn : NodeId) {violation : Violation}
    (h : violation.isConstruct = false) :
    (blame id violation).Alike (blame reportOn violation) where
  faults := .cons ⟨rfl, fun hconstruct => absurd hconstruct (by simp [h])⟩ .nil
  misses_eq := rfl

/-- Blame under a condition is alike whichever node it falls on. -/
theorem blameIf (condition : Bool) (id reportOn : NodeId) {violation : Violation}
    (h : violation.isConstruct = false) :
    (blameIf condition id violation).Alike (blameIf condition reportOn violation) := by
  cases condition with
  | true => exact blame id reportOn h
  | false => exact refl _

/-- Inspections that go on alike where a question is refused are alike. -/
theorem unlessAllowed (question : Checked Bool) {x y : Inspection Unit} (h : x.Alike y) :
    (unlessAllowed question x).Alike (unlessAllowed question y) := by
  refine ⟨?_, ?_⟩
  · rw [unlessAllowed_faults, unlessAllowed_faults]
    split
    · exact .nil
    · exact h.faults
  · rw [unlessAllowed_misses, unlessAllowed_misses, h.misses_eq]

/-- A choice between alike inspections is alike. -/
theorem ite (c : Prop) [Decidable c] {x x' y y' : Inspection Unit} (hx : x.Alike x')
    (hy : y.Alike y') : (if c then x else y).Alike (if c then x' else y') := by
  split
  · exact hx
  · exact hy

end Alike

/-! ### Inspections that blame one node -/

/-- Whether an inspection blames no node but one, and that not for a construct. -/
def BlamesOnly (node : NodeId) (x : Inspection Unit) : Prop :=
  ∀ fault ∈ x.faults, fault.node = node ∧ fault.violation.isConstruct = false

namespace BlamesOnly

variable {node : NodeId}

/-- An inspection that finds nothing blames nobody else. -/
theorem nothing : BlamesOnly node (pure ()) :=
  fun _ hmem => absurd hmem List.not_mem_nil

/-- Blame for a use falls on its node only. -/
theorem blame {violation : Violation} (h : violation.isConstruct = false) :
    BlamesOnly node (blame node violation) := by
  intro fault hmem
  obtain rfl := List.mem_singleton.mp hmem
  exact ⟨rfl, h⟩

/-- Blame under a condition falls on its node only. -/
theorem blameIf (condition : Bool) {violation : Violation} (h : violation.isConstruct = false) :
    BlamesOnly node (blameIf condition node violation) := by
  intro fault hmem
  obtain ⟨-, rfl⟩ := mem_blameIf_faults.mp hmem
  exact ⟨rfl, h⟩

/-- A requirement blames its node only. -/
theorem require (question : Checked Bool) {violation : Violation}
    (h : violation.isConstruct = false) : BlamesOnly node (require question node violation) := by
  intro fault hmem
  obtain ⟨-, rfl⟩ := mem_require_faults.mp hmem
  exact ⟨rfl, h⟩

/-- What goes on where a question is refused blames whom it blamed before. -/
theorem unlessAllowed (question : Checked Bool) {x : Inspection Unit} (h : BlamesOnly node x) :
    BlamesOnly node (unlessAllowed question x) := by
  intro fault hmem
  rw [unlessAllowed_faults] at hmem
  split at hmem
  · exact absurd hmem List.not_mem_nil
  · exact h fault hmem

/-- Inspections that blame one node only do so one after the other. -/
theorem andThen {x y : Inspection Unit} (hx : BlamesOnly node x) (hy : BlamesOnly node y) :
    BlamesOnly node (do x; y) := by
  intro fault hmem
  rcases List.mem_append.mp hmem with hmem | hmem
  · exact hx fault hmem
  · exact hy fault hmem

/-- A choice between inspections that blame one node only does so, too. -/
theorem ite (c : Prop) [Decidable c] {x y : Inspection Unit} (hx : BlamesOnly node x)
    (hy : BlamesOnly node y) : BlamesOnly node (if c then x else y) := by
  split
  · exact hx
  · exact hy

/-- Inspections of several items blame one node only if each of them does. -/
theorem forM {α : Type} {check : α → Inspection Unit} (h : ∀ item, BlamesOnly node (check item))
    (items : List α) : BlamesOnly node (items.forM check) := by
  induction items with
  | nil => exact nothing
  | cons item rest ih => exact (h item).andThen ih

end BlamesOnly

end Inspection

/-! ### The checks of a pass -/

namespace PassContext

open Inspection (BlamesOnly)

variable (context : PassContext)

/-- The faults of a node as a construct: at most one, on the node itself. -/
theorem checkConstruct_faults (id : NodeId) (data : NodeData) :
    (checkConstruct id data).faults = (unsupported? data).toList.map fun violation =>
      { node := id, violation } := by
  cases data <;> rfl

/-- A construct is blamed on the node itself. -/
theorem checkConstruct_node (id : NodeId) (data : NodeData) :
    ∀ fault ∈ (checkConstruct id data).faults, fault.node = id := by
  intro fault hmem
  rw [checkConstruct_faults] at hmem
  obtain ⟨violation, -, rfl⟩ := List.mem_map.mp hmem
  rfl

/-- Constructs are no matter of the policy, and so nothing is missed. -/
theorem checkConstruct_misses (id : NodeId) (data : NodeData) :
    (checkConstruct id data).misses = [] := by
  cases data <;> rfl

/-- What is not supported is a construct. -/
theorem isConstruct_of_unsupported? {data : NodeData} {violation : Violation}
    (h : unsupported? data = some violation) : violation.isConstruct := by
  cases data <;> cases h <;> rfl

/-- The check of a conversion blames the node that converts. -/
theorem blamesOnly_checkConversion (id : NodeId) (source target : Option SymbolId) :
    BlamesOnly id (context.checkConversion id source target) := by
  unfold checkConversion
  split
  · exact .require _ rfl
  · exact .nothing

/-- The check of a type that is used blames the node that uses it. -/
theorem blamesOnly_checkTypeUse (id typeNode : NodeId) :
    BlamesOnly id (context.checkTypeUse id typeNode) := by
  simp only [checkTypeUse]
  split
  · exact .nothing
  · exact .require _ rfl

/-- The checks of the types of a node blame it. -/
theorem blamesOnly_checkTypes (id : NodeId) (data : NodeData) :
    BlamesOnly id (context.checkTypes id data) := by
  cases data
  case objectCreation type arguments => exact context.blamesOnly_checkTypeUse id type
  case typeOf type => exact context.blamesOnly_checkTypeUse id type
  case variableDeclarator name initializer =>
    exact .ite _ (context.blamesOnly_checkConversion id _ _) .nothing
  case assignment left right => exact context.blamesOnly_checkConversion id _ _
  case cast type expression => exact .ite _ .nothing (context.blamesOnly_checkConversion id _ _)
  all_goals exact .nothing

/-- The check of a member's type blames the node to report on. -/
theorem blamesOnly_checkMemberType (id reportOn : NodeId) (member : MemberSymbol) :
    BlamesOnly reportOn (context.checkMemberType id reportOn member) :=
  .unlessAllowed _ (.require _ rfl)

/-- The check of an access blames the node to report on. -/
theorem blamesOnly_checkMemberAccess (id reportOn : NodeId) (isCallee : Bool) :
    BlamesOnly reportOn (context.checkMemberAccess id reportOn isCallee) := by
  simp only [checkMemberAccess]
  have htype (member : MemberSymbol) := context.blamesOnly_checkMemberType id reportOn member
  split
  · exact .nothing
  · split
    · exact .ite _ (.andThen (.blame rfl) (htype _)) .nothing
    · exact .ite _ (.andThen (.blameIf _ rfl) (htype _)) .nothing
    · exact .ite _ (.andThen (.blameIf _ rfl) (htype _)) .nothing
    · exact .ite _ (.blameIf _ rfl) .nothing
    · exact .nothing

/-- The check of what a parameter takes blames the call. -/
theorem blamesOnly_checkContainer (id : NodeId) (plan : ArgumentPlan) (position : Nat)
    (parameter : Parameter) :
    BlamesOnly id (context.checkContainer id plan position parameter) := by
  unfold checkContainer
  refine .ite _ ?_ .nothing
  split
  · exact .nothing
  · exact .ite _ (.blame rfl) .nothing

/-- The checks of a call blame it. -/
theorem blamesOnly_checkInvocation (id : NodeId) (symbol : SymbolId) (plan : ArgumentPlan) :
    BlamesOnly id (context.checkInvocation id symbol plan) := by
  unfold checkInvocation
  split
  · exact .nothing
  · next method _ =>
      refine .ite _ (.andThen ?_ (.unlessAllowed _ (.andThen ?_ ?_))) .nothing
      · exact .ite _ (.require _ rfl) (.blameIf _ rfl)
      · exact .forM (fun _ => .require _ rfl) _
      · exact .forM (fun (parameter, position) =>
          context.blamesOnly_checkContainer id plan position parameter) _

/-- What is checked after the visit of a node blames it. -/
theorem blamesOnly_checkAfter (arena : NodeArena) (id : NodeId) (data : NodeData)
    (isCallee : Bool) : BlamesOnly id (context.checkAfter arena id data isCallee) := by
  cases data
  case memberAccess => exact context.blamesOnly_checkMemberAccess id id isCallee
  case invocation callee arguments =>
    rw [checkAfter]
    split
    · exact context.blamesOnly_checkInvocation id _ _
    · exact .nothing
  all_goals exact context.blamesOnly_checkTypes id _

open Inspection in
/-- What is found of a member access does not depend on the node that is blamed for it. -/
theorem alike_checkMemberAccess (id reportOn other : NodeId) (isCallee : Bool) :
    (context.checkMemberAccess id reportOn isCallee).Alike
      (context.checkMemberAccess id other isCallee) := by
  simp only [checkMemberAccess]
  have htype (member : MemberSymbol) : (context.checkMemberType id reportOn member).Alike
      (context.checkMemberType id other member) :=
    .unlessAllowed _ (.unlessAllowed _ (.blame reportOn other rfl))
  split
  · exact .refl _
  · split
    · exact .ite _ (.andThen (.blame reportOn other rfl) (htype _)) (.refl _)
    · exact .ite _ (.andThen (.blameIf _ reportOn other rfl) (htype _)) (.refl _)
    · exact .ite _ (.andThen (.blameIf _ reportOn other rfl) (htype _)) (.refl _)
    · exact .ite _ (.blameIf _ reportOn other rfl) (.refl _)
    · exact .refl _

end PassContext

end Portability
