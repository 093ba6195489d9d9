import Mathlib.Tactic.Set
import Portability.Pass.Check
import Portability.Proofs.Judge
import Portability.Proofs.Pass.Lockstep

/-!
# Checks under all policies at once

Every check of a pass is put together in the same few ways, under whichever policy: it blames a
node, asks for a name on a list of denied names, puts a question to the policy and blames a node or
goes on where the answer is negative, or makes one check after another. `IsCheck` says so.

* `SideBySide.exists_isCheck`: the inspections that two passes make side by side are one check under
  both policies.
* `IsCheck.within`: under a policy that relaxes another, a check finds fewer faults and misses less.
* `IsCheck.unmet_of_mem_misses`, `IsCheck.isLasting_of_misses_eq_nil`: what is missed is the lack of
  a rule, and the faults of a check that misses nothing cannot be helped by allowing more.
-/

namespace Portability

open Inspection (blame blameIf require unlessAllowed)

/-! ### Violations that last -/

/-- Whether a violation may still be found where nothing is missed. Of a type it may only if the
innermost element type is denied. -/
def Judge.IsLasting (judge : Judge) : Violation → Prop
  | .extensionMethod _ | .conversion _ _ => False
  | .memberType name | .signatureType name | .type name =>
    ∃ id, name = judge.symbols.displayName id ∧ judge.DeniesCore id
  | .queryClause _ | .casePattern | .isPattern | .localFunction | .event _ | .property _ | .field _
  | .method _ | .localContainer _ _ => True

/-! ### Checks -/

/-- A check of a pass, for every policy it can be made under. -/
inductive IsCheck (model : SemanticModel) : (RulePolicy → Inspection Unit) → Prop
  | nothing : IsCheck model fun _ => pure ()
  | blame (id : NodeId) (violation : Violation)
      (hlasting : ∀ policy, (Judge.mk model policy).IsLasting violation) :
      IsCheck model fun _ => blame id violation
  /-- Finds fault with a denied name. -/
  | denied (list : DenyList) (name : String) (id : NodeId) (violation : Violation)
      (hlasting : ∀ policy, (Judge.mk model policy).IsLasting violation) :
      IsCheck model fun policy => blameIf (policy.denies list name) id violation
  /-- Finds fault where a question is answered in the negative. -/
  | require {question : RulePolicy → Checked Bool} (hquestion : IsQuestion question)
      (id : NodeId) (violation : Violation)
      (hrefused : ∀ policy, (question policy).MissesIfRefused ∨
        (Judge.mk model policy).IsLasting violation) :
      IsCheck model fun policy => require (question policy) id violation
  /-- Goes on where a question is answered in the negative. -/
  | unlessAllowed {question : RulePolicy → Checked Bool} {rest : RulePolicy → Inspection Unit}
      (hquestion : IsQuestion question) (hrest : IsCheck model rest) :
      IsCheck model fun policy => unlessAllowed (question policy) (rest policy)
  | andThen {first second : RulePolicy → Inspection Unit} (hfirst : IsCheck model first)
      (hsecond : IsCheck model second) :
      IsCheck model fun policy => do first policy; second policy

namespace IsCheck

/-- A choice between two checks that does not depend on the policy is a check. -/
theorem ite {model : SemanticModel} (c : Prop) [Decidable c]
    {first second : RulePolicy → Inspection Unit} (hfirst : IsCheck model first)
    (hsecond : IsCheck model second) :
    IsCheck model fun policy => if c then first policy else second policy := by
  split
  · exact hfirst
  · exact hsecond

/-- Checks of one item after the other are a check. -/
theorem forM {α : Type} {model : SemanticModel} {check : RulePolicy → α → Inspection Unit}
    (h : ∀ item, IsCheck model fun policy => check policy item) (items : List α) :
    IsCheck model fun policy => items.forM (check policy) := by
  induction items with
  | nil => exact nothing
  | cons item rest ih => exact andThen (h item) ih

end IsCheck

namespace PassContext

variable (context : PassContext)

/-- The check for constructs is one, and the policy has no part in it. -/
theorem isCheck_checkConstruct (id : NodeId) (data : NodeData) :
    IsCheck context.model fun _ => checkConstruct id data := by
  unfold checkConstruct
  split
  · next violation hviolation =>
      refine .blame id violation fun policy => ?_
      cases data <;> cases hviolation <;> trivial
  · exact .nothing

/-! ### Types and conversions -/

/-- Finding fault with a type that may not occur at a position is a check. -/
theorem isCheck_requireType (id : NodeId) (type : SymbolId) (position : TypePosition)
    (violation : Violation)
    (hlasting : ∀ policy, (Judge.mk context.model policy).DeniesCore type →
      (Judge.mk context.model policy).IsLasting violation) :
    IsCheck context.model fun policy =>
      require ((context.withPolicy policy).judge.allowsType type position) id violation := by
  refine .require (Judge.isQuestion_allowsType context.model type position) id _ fun policy => ?_
  exact (Judge.missesIfRefused_or_deniesCore context.model policy type position).imp_right
    (hlasting policy)

/-- Checking a type that is used is a check. -/
theorem isCheck_checkTypeUse (id typeNode : NodeId) :
    IsCheck context.model fun policy => (context.withPolicy policy).checkTypeUse id typeNode := by
  simp only [checkTypeUse, model_withPolicy]
  split
  · exact .nothing
  · next type _ =>
      exact context.isCheck_requireType id type .general (.type _) fun _ h => ⟨type, rfl, h⟩

/-- Checking a conversion is a check. -/
theorem isCheck_checkConversion (id : NodeId) (source target : Option SymbolId) :
    IsCheck context.model fun policy =>
      (context.withPolicy policy).checkConversion id source target := by
  unfold checkConversion
  simp only [model_withPolicy, judge_withPolicy]
  split
  · next source target =>
      refine .require (Judge.isQuestion_allowsConversion context.model source target) id _ ?_
      exact fun policy =>
        .inl (Judge.missesIfRefused_allowsConversion context.model policy source target)
  · exact .nothing

/-- Checking the types of a node is a check. -/
theorem isCheck_checkTypes (id : NodeId) (data : NodeData) :
    IsCheck context.model fun policy => (context.withPolicy policy).checkTypes id data := by
  unfold checkTypes
  simp only [model_withPolicy]
  cases data
  case objectCreation type arguments => exact context.isCheck_checkTypeUse id type
  case typeOf type => exact context.isCheck_checkTypeUse id type
  case variableDeclarator name initializer =>
    exact .ite _ (context.isCheck_checkConversion id _ _) .nothing
  case assignment left right => exact context.isCheck_checkConversion id _ _
  case cast type expression =>
    exact .ite (context.isUserConversion id) .nothing (context.isCheck_checkConversion id _ _)
  all_goals exact .nothing

/-! ### Member accesses -/

/-- Checking the type of a member is a check. -/
theorem isCheck_checkMemberType (id reportOn : NodeId) (member : MemberSymbol) :
    IsCheck context.model fun policy =>
      (context.withPolicy policy).checkMemberType id reportOn member := by
  refine .unlessAllowed (Judge.isQuestion_isExemptHost context.model member.containingType) ?_
  set type := (context.model.typeOf id).getD member.type
  exact context.isCheck_requireType reportOn type .parameter
    (.memberType (context.model.symbols.displayName type)) fun _ h => ⟨type, rfl, h⟩

/-- Checking an access is a check. -/
theorem isCheck_checkMemberAccess (id reportOn : NodeId) (isCallee : Bool) :
    IsCheck context.model fun policy =>
      (context.withPolicy policy).checkMemberAccess id reportOn isCallee := by
  unfold checkMemberAccess
  simp only [model_withPolicy, judge_withPolicy]
  cases context.model.symbolOf id with
  | none => exact .nothing
  | some symbol =>
      obtain ⟨external, hexternal⟩ := Judge.exists_isExternal_eq context.model symbol
      simp only [hexternal]
      set name := context.model.symbols.memberName symbol
      cases context.model.symbols.get? symbol with
      | none => exact .nothing
      | some used =>
          cases used with
          | type _ | other _ => exact .nothing
          | event member =>
              exact .ite _ (.andThen (.blame reportOn (.event name) fun _ => trivial)
                (context.isCheck_checkMemberType id reportOn member)) .nothing
          | property member =>
              exact .ite _ (.andThen (.denied .property name reportOn (.property name)
                fun _ => trivial) (context.isCheck_checkMemberType id reportOn member)) .nothing
          | field member =>
              exact .ite _ (.andThen (.denied .field name reportOn (.field name)
                fun _ => trivial) (context.isCheck_checkMemberType id reportOn member)) .nothing
          | method method =>
              obtain ⟨externalHost, hhost⟩ :=
                Judge.exists_isExternal_eq context.model method.containingType
              simp only [hhost]
              exact .ite _ (.denied .method name reportOn (.method name) fun _ => trivial) .nothing

/-! ### Invocations -/

/-- Checking the callee of a call is a check. -/
theorem isCheck_checkCallee (id : NodeId) (symbol : SymbolId) (method : MethodSymbol) :
    IsCheck context.model fun policy =>
      (context.withPolicy policy).checkCallee id symbol method := by
  set name := context.model.symbols.memberName symbol
  refine .ite _ ?_ (.denied .method name id (.method name) fun _ => trivial)
  refine .require (Judge.isQuestion_allowsExtension context.model symbol) id
    (.extensionMethod name) fun policy => ?_
  exact .inl (Judge.missesIfRefused_allowsExtension _ symbol)

/-- Whether a call is exempt is a question to the policy. -/
theorem isQuestion_isExemptCall {symbol : SymbolId} {method : MethodSymbol}
    (h : context.model.symbols.method? symbol = some method) :
    IsQuestion fun policy => (context.withPolicy policy).isExemptCall symbol method := by
  refine .orElse (Judge.isQuestion_isExemptHost context.model method.containingType) ?_
  exact .ite _ (Judge.isQuestion_allowsGenericMethod context.model h) (.known false)

/-- Checking what a parameter takes is a check. -/
theorem isCheck_checkContainer (id : NodeId) (plan : ArgumentPlan) (position : Nat)
    (parameter : Parameter) :
    IsCheck context.model fun policy =>
      (context.withPolicy policy).checkContainer id plan position parameter := by
  -- Containers are told apart without a look at the policy.
  change IsCheck context.model fun _ => context.checkContainer id plan position parameter
  unfold checkContainer
  refine .ite _ ?_ .nothing
  split
  · exact .nothing
  · exact .ite _ (.blame id _ fun _ => trivial) .nothing

/-- Checking the types in a signature is a check. -/
theorem isCheck_checkSignature (id : NodeId) (method : MethodSymbol) (plan : ArgumentPlan) :
    IsCheck context.model fun policy =>
      (context.withPolicy policy).checkSignature id method plan := by
  refine .andThen (.forM (fun type => ?_) _) (.forM (fun (parameter, position) => ?_) _)
  · exact context.isCheck_requireType id type .parameter
      (.signatureType (context.model.symbols.displayName type)) fun _ h => ⟨type, rfl, h⟩
  · exact context.isCheck_checkContainer id plan position parameter

/-- Checking a call is a check. -/
theorem isCheck_checkInvocation (id : NodeId) (symbol : SymbolId) (plan : ArgumentPlan) :
    IsCheck context.model fun policy =>
      (context.withPolicy policy).checkInvocation id symbol plan := by
  unfold checkInvocation
  simp only [model_withPolicy, judge_withPolicy]
  cases hmethod : context.model.symbols.method? symbol with
  | none => exact .nothing
  | some method =>
      obtain ⟨external, hexternal⟩ := Judge.exists_isExternal_eq context.model symbol
      simp only [hexternal]
      refine .ite _ (.andThen (context.isCheck_checkCallee id symbol method) ?_) .nothing
      exact .unlessAllowed (context.isQuestion_isExemptCall hmethod)
        (context.isCheck_checkSignature id method plan)

end PassContext

/-- The inspections that two passes make side by side are one check under both policies. -/
theorem SideBySide.exists_isCheck {context : PassContext} {policy : RulePolicy}
    {x y : Inspection Unit} (h : SideBySide context policy x y) :
    ∃ check, IsCheck context.model check ∧ check context.policy = x ∧ check policy = y := by
  cases h with
  | construct id data => exact ⟨_, context.isCheck_checkConstruct id data, rfl, rfl⟩
  | types id data => exact ⟨_, context.isCheck_checkTypes id data, rfl, rfl⟩
  | memberAccess id reportOn isCallee =>
      exact ⟨_, context.isCheck_checkMemberAccess id reportOn isCallee, rfl, rfl⟩
  | invocation id symbol plan => exact ⟨_, context.isCheck_checkInvocation id symbol plan, rfl, rfl⟩

/-! ### Properties of checks -/

/-- An inspection within another: its faults are among those of the other, in their order, and its
misses are among those of the other. -/
structure Inspection.Within (lax strict : Inspection Unit) : Prop where
  faults : lax.faults.Sublist strict.faults
  misses : lax.misses ⊆ strict.misses

namespace Inspection.Within

/-- An inspection is within itself. -/
theorem refl (x : Inspection Unit) : x.Within x :=
  ⟨List.Sublist.refl _, List.Subset.refl _⟩

/-- Inspections one after the other are within others if each of them is. -/
theorem andThen {x x' y y' : Inspection Unit} (hx : x.Within x') (hy : y.Within y') :
    Inspection.Within (do x; y) (do x'; y') where
  faults := hx.faults.append hy.faults
  misses := append_subset_append hx.misses hy.misses

/-- Under an easier condition there is less to blame. -/
theorem blameIf {lax strict : Bool} (h : lax = true → strict = true) (id : NodeId)
    (violation : Violation) :
    (blameIf lax id violation).Within (blameIf strict id violation) := by
  cases lax with
  | false => exact ⟨List.nil_sublist _, List.nil_subset _⟩
  | true =>
      rw [h rfl]
      exact refl _

/-- What goes on where a question is answered in the negative goes on less often where the question
is eased. -/
theorem unlessAllowed {question question' : Checked Bool} (hquestion : question.Eases question')
    {rest rest' : Inspection Unit} (hrest : rest.Within rest') :
    (unlessAllowed question rest).Within (unlessAllowed question' rest') := by
  cases hlax : question.answer with
  | true =>
      refine ⟨?_, ?_⟩
      · rw [Inspection.unlessAllowed_faults, hlax]
        exact List.nil_sublist _
      · rw [Inspection.unlessAllowed_misses, Inspection.unlessAllowed_misses, hlax]
        exact append_subset_append hquestion.misses (List.nil_subset _)
  | false =>
      have hstrict : question'.answer = false :=
        Bool.eq_false_iff.mpr fun hanswer => by simp [hquestion.answer hanswer] at hlax
      refine ⟨?_, ?_⟩
      · rw [Inspection.unlessAllowed_faults, Inspection.unlessAllowed_faults, hlax, hstrict]
        exact hrest.faults
      · rw [Inspection.unlessAllowed_misses, Inspection.unlessAllowed_misses, hlax, hstrict]
        exact append_subset_append hquestion.misses hrest.misses

end Inspection.Within

namespace IsCheck

variable {model : SemanticModel} {check : RulePolicy → Inspection Unit}

/-- **Checks are monotone.** Under a policy that relaxes another a check finds only faults that it
finds under the other, in their order, and misses only what it misses under the other. -/
theorem within (h : IsCheck model check) {lax strict : RulePolicy}
    (hrelaxes : lax.Relaxes strict) : (check lax).Within (check strict) := by
  induction h with
  | nothing | blame id violation hlasting => exact .refl _
  | denied list name id violation hlasting =>
      exact .blameIf (hrelaxes.denies list name) id violation
  | require hquestion id violation hrefused =>
      exact .unlessAllowed (hquestion.eases hrelaxes) (.refl _)
  | unlessAllowed hquestion hrest ih => exact .unlessAllowed (hquestion.eases hrelaxes) ih
  | andThen hfirst hsecond ihfirst ihsecond => exact .andThen ihfirst ihsecond

/-- What a check misses is the lack of a rule that is not in force and that an entry of a rule
document can make. -/
theorem unmet_of_mem_misses (h : IsCheck model check) {policy : RulePolicy} {miss : Miss}
    (hmem : miss ∈ (check policy).misses) : policy.has miss.rule = false ∧ miss.IsPromotable := by
  induction h with
  | nothing | blame id violation hlasting => exact absurd hmem List.not_mem_nil
  | denied list name id violation hlasting =>
      rw [Inspection.blameIf_misses] at hmem
      exact absurd hmem List.not_mem_nil
  | require hquestion id violation hrefused =>
      rw [Inspection.require_misses] at hmem
      exact hquestion.unmet_of_mem_misses hmem
  | unlessAllowed hquestion hrest ih =>
      rw [Inspection.unlessAllowed_misses, List.mem_append] at hmem
      rcases hmem with hmem | hmem
      · exact hquestion.unmet_of_mem_misses hmem
      · split at hmem
        · exact absurd hmem List.not_mem_nil
        · exact ih hmem
  | andThen hfirst hsecond ihfirst ihsecond =>
      rcases List.mem_append.mp hmem with hmem | hmem
      · exact ihfirst hmem
      · exact ihsecond hmem

/-- Where a check misses nothing, the violations that it finds are such as last. -/
theorem isLasting_of_misses_eq_nil (h : IsCheck model check) {policy : RulePolicy}
    (hmisses : (check policy).misses = []) {fault : Fault}
    (hmem : fault ∈ (check policy).faults) :
    (Judge.mk model policy).IsLasting fault.violation := by
  induction h with
  | nothing => exact absurd hmem List.not_mem_nil
  | blame id violation hlasting =>
      obtain rfl := List.mem_singleton.mp hmem
      exact hlasting policy
  | denied list name id violation hlasting =>
      obtain ⟨-, rfl⟩ := Inspection.mem_blameIf_faults.mp hmem
      exact hlasting policy
  | require hquestion id violation hrefused =>
      obtain ⟨hanswer, rfl⟩ := Inspection.mem_require_faults.mp hmem
      rw [Inspection.require_misses] at hmisses
      exact (hrefused policy).resolve_left fun hmissed => hmissed hanswer hmisses
  | unlessAllowed hquestion hrest ih =>
      rw [Inspection.unlessAllowed_misses, List.append_eq_nil_iff] at hmisses
      rw [Inspection.unlessAllowed_faults] at hmem
      split at hmem
      · exact absurd hmem List.not_mem_nil
      · next hanswer =>
          rw [if_neg hanswer] at hmisses
          exact ih hmisses.2 hmem
  | andThen hfirst hsecond ihfirst ihsecond =>
      obtain ⟨hnone₁, hnone₂⟩ := List.append_eq_nil_iff.mp hmisses
      rcases List.mem_append.mp hmem with hmem | hmem
      · exact ihfirst hnone₁ hmem
      · exact ihsecond hnone₂ hmem

end IsCheck

end Portability
