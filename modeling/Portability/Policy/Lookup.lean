import Portability.Policy.MissLog

/-!
# Lookups

A lookup in the policy answers a question and lists the misses on the way, `Checked`. Since the
misses are part of the result and the log is no argument, an answer cannot depend on the log.
-/

namespace Portability

/-- An answer, and the misses on the way to it in the order of their lookups. -/
structure Checked (α : Type) where
  answer : α
  misses : List Miss := []
  deriving Repr, DecidableEq

namespace Checked

/-- One question after the other: the misses of the second are put behind those of the first. -/
instance : Monad Checked where
  pure a := { answer := a }
  bind x f :=
    let y := f x.answer
    { answer := y.answer, misses := x.misses ++ y.misses }

@[simp] theorem pure_answer {α : Type} (a : α) : (pure a : Checked α).answer = a := rfl

@[simp] theorem pure_misses {α : Type} (a : α) : (pure a : Checked α).misses = [] := rfl

@[simp] theorem bind_answer {α β : Type} (x : Checked α) (f : α → Checked β) :
    (x >>= f).answer = (f x.answer).answer := rfl

@[simp] theorem bind_misses {α β : Type} (x : Checked α) (f : α → Checked β) :
    (x >>= f).misses = x.misses ++ (f x.answer).misses := rfl

/-- A failed lookup. -/
def missed (miss : Miss) : Checked Bool :=
  { answer := false, misses := [miss] }

end Checked

namespace RulePolicy

/-- Whether a list allows a bare name or, where it is given and differs, an extended one. What is
missed is the last name that was tried. -/
def lookupInto (policy : RulePolicy) (list : LegalList) (bare : String)
    (extended : Option String) (bucket : MissBucket) : Checked Bool :=
  if policy.allows list bare then pure true
  else
    match extended with
    | some name =>
      if name ≠ bare then
        if policy.allows list name then pure true else .missed (.name bucket name)
      else .missed (.name bucket bare)
    | none => .missed (.name bucket bare)

/-- Whether a list allows a name; if not, it is missed in the list's own group. -/
def lookup (policy : RulePolicy) (list : LegalList) (name : String) : Checked Bool :=
  policy.lookupInto list name none (.ofList list)

/-- A bare name, and an extended one where it is given and differs. -/
def alternatives (bare : String) (extended : Option String) : List String :=
  bare :: (extended.filter (· ≠ bare)).toList

/-- Whether a conversion is allowed between a bare or extended name of its source and one of its
target. What is missed is the most specific pair. -/
def lookupConversion (policy : RulePolicy) (source : String) (sourceExtended : Option String)
    (target : String) (targetExtended : Option String) : Checked Bool :=
  let allowed := (alternatives source sourceExtended).any fun s =>
    (alternatives target targetExtended).any fun t => policy.allowsConversion s t
  if allowed then pure true
  else .missed (.conversion (sourceExtended.getD source) (targetExtended.getD target))

end RulePolicy

end Portability
