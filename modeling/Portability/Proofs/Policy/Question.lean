import Portability.Policy.Lookup

/-!
# Questions to the policy

A policy is asked in few ways: whether one of several rules is in force, where something is missed
if none is, and whether names are denied. A question that is put together from these
(`IsQuestion`) has two properties whatever it is about:

* `IsQuestion.eases`: a policy that relaxes another (`RulePolicy.Relaxes`) allows what the other
  allows and misses nothing that the other does not miss,
* `IsQuestion.unmet_of_mem_misses`: what is missed is the lack of a rule that is not in force.

`lookupInto_eq_anyOf` and `lookupConversion_eq_anyOf` put the lookups of the policy in this form.
-/

namespace Portability

/-! ### Rules that are missed -/

/-- Whether a rule allows something. -/
def Rule.IsAllowance : Rule → Prop
  | .allow .. | .allowConversion .. => True
  | .deny .. => False

/-- The list that lacks the names missed in a group. -/
def MissBucket.list : MissBucket → LegalList
  | genericType | memberHost => .genericType
  | genericMethod => .genericMethod
  | parameterGenericType => .parameterGenericType
  | extension => .extension

/-- The rule that a miss is the lack of. -/
def Miss.rule : Miss → Rule
  | .name bucket missed => .allow bucket.list missed
  | .conversion source target => .allowConversion source target

/-- Whether an entry of a rule document can make the rule that a miss is the lack of: the name of a
method needs a dot to be cut at. -/
def Miss.IsPromotable : Miss → Prop
  | .name .genericMethod missed => (Dotted.splitLast? missed).isSome
  | .name _ _ | .conversion _ _ => True

namespace RulePolicy

/-- A policy *relaxes* another if it allows at least as much and denies at most as much. -/
structure Relaxes (lax strict : RulePolicy) : Prop where
  allows : ∀ list name, strict.allows list name → lax.allows list name
  allowsConversion : ∀ source target,
    strict.allowsConversion source target → lax.allowsConversion source target
  denies : ∀ list name, lax.denies list name → strict.denies list name

/-- What a stricter policy allows is allowed by a laxer one. -/
theorem Relaxes.has_of_isAllowance {lax strict : RulePolicy} (h : lax.Relaxes strict)
    {rule : Rule} (hrule : rule.IsAllowance) (hstrict : strict.has rule) : lax.has rule := by
  cases rule with
  | allow list name => exact h.allows list name hstrict
  | allowConversion source target => exact h.allowsConversion source target hstrict
  | deny list name => exact hrule.elim

/-! ### Lookups as searches for a rule -/

/-- Whether any of some rules is in force; if none is, something is missed. -/
def anyOf (policy : RulePolicy) (rules : List Rule) (miss : Miss) : Checked Bool :=
  if rules.any policy.has then pure true else .missed miss

/-- A lookup of names tries a bare and an extended name, and misses the latter. -/
theorem lookupInto_eq_anyOf (policy : RulePolicy) (list : LegalList) (bare : String)
    (extended : Option String) (bucket : MissBucket) :
    policy.lookupInto list bare extended bucket =
      policy.anyOf [.allow list bare, .allow list (extended.getD bare)]
        (.name bucket (extended.getD bare)) := by
  cases hbare : policy.has (.allow list bare) with
  | true => simp [lookupInto, anyOf, allows, hbare]
  | false =>
      cases extended with
      | none => simp [lookupInto, anyOf, allows, hbare]
      | some name =>
          by_cases hname : name = bare
          · simp [lookupInto, anyOf, allows, hbare, hname]
          · cases hextended : policy.has (.allow list name) <;>
              simp [lookupInto, anyOf, allows, hbare, hname, hextended]

/-- The rules that a lookup of a conversion tries. -/
def conversionRules (sources targets : List String) : List Rule :=
  sources.flatMap fun source => targets.map fun target => .allowConversion source target

/-- The rules for a conversion pair each name of the source with each name of the target. -/
theorem mem_conversionRules {sources targets : List String} {rule : Rule} :
    rule ∈ conversionRules sources targets ↔
      ∃ source ∈ sources, ∃ target ∈ targets, .allowConversion source target = rule := by
  simp [conversionRules]

/-- A lookup of a conversion tries every pair of alternatives and misses one of them. -/
theorem lookupConversion_eq_anyOf (policy : RulePolicy) (source : String)
    (sourceExtended : Option String) (target : String) (targetExtended : Option String) :
    policy.lookupConversion source sourceExtended target targetExtended =
      policy.anyOf
        (conversionRules (alternatives source sourceExtended) (alternatives target targetExtended))
        (.conversion (sourceExtended.getD source) (targetExtended.getD target)) := by
  simp only [lookupConversion, anyOf, conversionRules, List.any_flatMap, List.any_map,
    Function.comp_def]
  rfl

/-- The most specific name is among the alternatives. -/
theorem getD_mem_alternatives (bare : String) (extended : Option String) :
    extended.getD bare ∈ alternatives bare extended := by
  cases extended with
  | none => simp [alternatives]
  | some name => by_cases h : name = bare <;> simp [alternatives, h]

end RulePolicy

/-! ### Questions -/

/-- Lists put together hold no more where their parts hold no more. -/
theorem append_subset_append {α : Type} {first first' second second' : List α}
    (hfirst : first ⊆ first') (hsecond : second ⊆ second') :
    first ++ second ⊆ first' ++ second' :=
  List.append_subset.mpr
    ⟨List.subset_append_of_subset_left _ hfirst, List.subset_append_of_subset_right _ hsecond⟩

/-- A check of a relaxed policy beside that of a stricter one: it allows what the other allows, and
misses nothing that the other does not miss. -/
structure Checked.Eases (lax strict : Checked Bool) : Prop where
  answer : strict.answer = true → lax.answer = true
  misses : lax.misses ⊆ strict.misses

/-- A question to the policy that is answered by looking for rules. -/
inductive IsQuestion : (RulePolicy → Checked Bool) → Prop
  /-- The answer is known without the policy. -/
  | known (answer : Bool) : IsQuestion fun _ => pure answer
  /-- Whether some names are not denied. -/
  | undenied (list : DenyList) (names : List String) :
      IsQuestion fun policy => pure (!names.any (policy.denies list))
  /-- Whether one of some rules is in force. -/
  | search (rules : List Rule) (miss : Miss) (hrules : ∀ rule ∈ rules, rule.IsAllowance)
      (hmiss : miss.rule ∈ rules) (hpromotable : miss.IsPromotable) :
      IsQuestion fun policy => policy.anyOf rules miss
  /-- Another question where the first is answered in the negative. -/
  | orElse {first second : RulePolicy → Checked Bool} (hfirst : IsQuestion first)
      (hsecond : IsQuestion second) :
      IsQuestion fun policy => do if ← first policy then return true else second policy

namespace IsQuestion

/-- A lookup of names is a question. -/
theorem lookupInto {list : LegalList} {bucket : MissBucket} (hlist : bucket.list = list)
    (bare : String) (extended : Option String)
    (hpromotable : (Miss.name bucket (extended.getD bare)).IsPromotable) :
    IsQuestion fun policy => policy.lookupInto list bare extended bucket := by
  simp only [RulePolicy.lookupInto_eq_anyOf]
  refine search _ _ ?_ ?_ hpromotable
  · simp [Rule.IsAllowance]
  · simp [Miss.rule, hlist]

/-- A lookup of one name is a question. -/
theorem lookup (list : LegalList) (name : String)
    (hpromotable : (Miss.name (.ofList list) name).IsPromotable) :
    IsQuestion fun policy => policy.lookup list name := by
  refine lookupInto ?_ name none hpromotable
  cases list <;> rfl

/-- A lookup of a conversion is a question. -/
theorem lookupConversion (source : String) (sourceExtended : Option String) (target : String)
    (targetExtended : Option String) :
    IsQuestion fun policy =>
      policy.lookupConversion source sourceExtended target targetExtended := by
  simp only [RulePolicy.lookupConversion_eq_anyOf]
  refine search _ _ ?_ ?_ trivial
  · intro rule hrule
    obtain ⟨_, -, _, -, rfl⟩ := RulePolicy.mem_conversionRules.mp hrule
    exact trivial
  · exact RulePolicy.mem_conversionRules.mpr
      ⟨_, RulePolicy.getD_mem_alternatives source sourceExtended,
        _, RulePolicy.getD_mem_alternatives target targetExtended, rfl⟩

/-- **Questions are monotone.** A relaxed policy allows what the stricter one allows, and misses
nothing that the stricter one does not miss. -/
theorem eases {question : RulePolicy → Checked Bool} (h : IsQuestion question)
    {lax strict : RulePolicy} (hrelaxes : lax.Relaxes strict) :
    (question lax).Eases (question strict) := by
  induction h with
  | known answer => exact ⟨fun hanswer => hanswer, List.Subset.refl _⟩
  | undenied list names =>
      refine ⟨fun hanswer => ?_, List.Subset.refl _⟩
      simp only [Checked.pure_answer, Bool.not_eq_true', List.any_eq_false] at hanswer ⊢
      exact fun name hname hdenied => hanswer name hname (hrelaxes.denies list name hdenied)
  | search rules miss hrules hmiss hpromotable =>
      by_cases hstrict : rules.any strict.has
      · obtain ⟨rule, hmem, hhas⟩ := List.any_eq_true.mp hstrict
        have hlax : rules.any lax.has :=
          List.any_eq_true.mpr ⟨rule, hmem, hrelaxes.has_of_isAllowance (hrules rule hmem) hhas⟩
        simp only [RulePolicy.anyOf, hstrict, hlax, if_true]
        exact ⟨fun _ => rfl, List.Subset.refl _⟩
      · simp only [RulePolicy.anyOf, hstrict, Bool.false_eq_true, if_false]
        refine ⟨fun hanswer => absurd hanswer Bool.false_ne_true, ?_⟩
        split
        · exact List.nil_subset _
        · exact List.Subset.refl _
  | @orElse first second hfirst hsecond ihfirst ihsecond =>
      -- A host that only the relaxed policy exempts ends the question there, without a miss more.
      cases hlax : (first lax).answer with
      | true =>
          refine ⟨fun _ => by simp [hlax], ?_⟩
          simp only [Checked.bind_misses, hlax, if_true, Checked.pure_misses, List.append_nil]
          exact List.Subset.trans ihfirst.misses (List.subset_append_left _ _)
      | false =>
          have hstrict : (first strict).answer = false := by
            cases hanswer : (first strict).answer with
            | true => exact absurd (ihfirst.answer hanswer) (by simp [hlax])
            | false => rfl
          constructor
          · simpa [hlax, hstrict] using ihsecond.answer
          · simp only [Checked.bind_misses, hlax, hstrict, Bool.false_eq_true, if_false]
            exact append_subset_append ihfirst.misses ihsecond.misses

/-- **Misses are lacks of rules.** What is missed is the lack of a rule that is not in force and that
an entry of a rule document can make. -/
theorem unmet_of_mem_misses {question : RulePolicy → Checked Bool} (h : IsQuestion question)
    {policy : RulePolicy} {miss : Miss} (hmem : miss ∈ (question policy).misses) :
    policy.has miss.rule = false ∧ miss.IsPromotable := by
  induction h with
  | known answer => exact absurd hmem List.not_mem_nil
  | undenied list names => exact absurd hmem List.not_mem_nil
  | search rules missed hrules hmiss hpromotable =>
      by_cases hany : rules.any policy.has
      · simp [RulePolicy.anyOf, hany] at hmem
      · obtain rfl : miss = missed := by simpa [RulePolicy.anyOf, hany, Checked.missed] using hmem
        refine ⟨?_, hpromotable⟩
        exact Bool.eq_false_iff.mpr fun hhas => hany (List.any_eq_true.mpr ⟨_, hmiss, hhas⟩)
  | orElse hfirst hsecond ihfirst ihsecond =>
      rw [Checked.bind_misses, List.mem_append] at hmem
      rcases hmem with hmem | hmem
      · exact ihfirst hmem
      · split at hmem
        · exact absurd hmem List.not_mem_nil
        · exact ihsecond hmem

/-- A choice between two questions that does not depend on the policy is a question. -/
theorem ite (c : Prop) [Decidable c] {first second : RulePolicy → Checked Bool}
    (hfirst : IsQuestion first) (hsecond : IsQuestion second) :
    IsQuestion fun policy => if c then first policy else second policy := by
  split
  · exact hfirst
  · exact hsecond

end IsQuestion

/-! ### Refusals -/

/-- A check that refuses only what it misses. -/
def Checked.MissesIfRefused (check : Checked Bool) : Prop :=
  check.answer = false → check.misses ≠ []

/-- Where the answer is yes, there is no refusal to log. -/
theorem Checked.missesIfRefused_true : (pure true : Checked Bool).MissesIfRefused :=
  fun hanswer => nomatch hanswer

/-- A choice among rules that refuses has its miss. -/
theorem RulePolicy.missesIfRefused_anyOf (policy : RulePolicy) (rules : List Rule) (miss : Miss) :
    (policy.anyOf rules miss).MissesIfRefused := by
  unfold anyOf
  split
  · exact Checked.missesIfRefused_true
  · exact fun _ => List.cons_ne_nil miss []

end Portability
