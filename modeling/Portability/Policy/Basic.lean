import Portability.Policy.RuleDocument

/-!
# Policies

A policy is a set of rules. It answers whether a name is on one of the lists, and no more: the
order of the rules and repeated rules make no difference.
-/

namespace Portability

/-- Text order, which is the order of the code points. -/
def textLe (a b : String) : Bool :=
  decide (a ≤ b)

/-- The distinct texts of a list in increasing order. -/
def sortedTexts (texts : List String) : List String :=
  texts.eraseDups.mergeSort textLe

/-- A set of rules. -/
structure RulePolicy where
  rules : List Rule := []
  deriving Repr, Inhabited

namespace RulePolicy

/-- The policy of a rule document. -/
def ofDocument (document : RuleDocument) : RulePolicy where
  rules := document.rules

/-- Adds a rule. -/
def insert (policy : RulePolicy) (rule : Rule) : RulePolicy where
  rules := rule :: policy.rules

/-- Whether a rule is in force. -/
def has (policy : RulePolicy) (rule : Rule) : Bool :=
  policy.rules.contains rule

/-- Whether a name is on a list of allowed names. -/
def allows (policy : RulePolicy) (list : LegalList) (name : String) : Bool :=
  policy.has (.allow list name)

/-- Whether a conversion is allowed. -/
def allowsConversion (policy : RulePolicy) (source target : String) : Bool :=
  policy.has (.allowConversion source target)

/-- Whether a name is on a list of denied names. -/
def denies (policy : RulePolicy) (list : DenyList) (name : String) : Bool :=
  policy.has (.deny list name)

/-- What a type may be converted to, in increasing order; `none` for a type that no rule allows to
be converted. -/
def conversionTargets? (policy : RulePolicy) (source : String) : Option (List String) :=
  let targets := policy.rules.filterMap fun
    | .allowConversion s target => if s = source then some target else none
    | _ => none
  if targets.isEmpty then none else some (sortedTexts targets)

/-- A rule is in force after an insertion if it is the inserted one or was in force before. -/
theorem has_insert {policy : RulePolicy} {rule other : Rule} :
    (policy.insert rule).has other ↔ other = rule ∨ policy.has other := by
  simp [has, insert]

end RulePolicy

end Portability
