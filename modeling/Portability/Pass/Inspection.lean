import Portability.Diagnostic.Violation
import Portability.Policy.Lookup

/-!
# Inspections

An inspection looks at what a node uses and lists the faults it finds and the misses on the way to
them. It changes nothing; what becomes of faults and misses is up to the pass that takes them in.
Since neither list is an argument, what an inspection finds cannot depend on what was found before.
-/

namespace Portability

/-- A violation and the node that is at fault. -/
structure Fault where
  node : NodeId
  violation : Violation
  deriving DecidableEq, Repr

/-- An answer, and the faults and misses on the way to it, each in order. -/
structure Inspection (α : Type) where
  answer : α
  faults : List Fault := []
  misses : List Miss := []
  deriving DecidableEq, Repr

namespace Inspection

/-- One inspection after the other: their faults and misses are put one behind the other. -/
instance : Monad Inspection where
  pure a := { answer := a }
  bind x f :=
    let y := f x.answer
    { answer := y.answer, faults := x.faults ++ y.faults, misses := x.misses ++ y.misses }

@[simp] theorem pure_faults {α : Type} (a : α) : (pure a : Inspection α).faults = [] := rfl

@[simp] theorem pure_misses {α : Type} (a : α) : (pure a : Inspection α).misses = [] := rfl

@[simp] theorem bind_faults {α β : Type} (x : Inspection α) (f : α → Inspection β) :
    (x >>= f).faults = x.faults ++ (f x.answer).faults := rfl

@[simp] theorem bind_misses {α β : Type} (x : Inspection α) (f : α → Inspection β) :
    (x >>= f).misses = x.misses ++ (f x.answer).misses := rfl

/-- Asks the policy. -/
def ask {α : Type} (question : Checked α) : Inspection α where
  answer := question.answer
  misses := question.misses

@[simp] theorem ask_answer {α : Type} (question : Checked α) :
    (ask question).answer = question.answer := rfl

@[simp] theorem ask_faults {α : Type} (question : Checked α) : (ask question).faults = [] := rfl

@[simp] theorem ask_misses {α : Type} (question : Checked α) :
    (ask question).misses = question.misses := rfl

/-- Finds fault with a node. -/
def blame (node : NodeId) (violation : Violation) : Inspection Unit where
  answer := ()
  faults := [{ node, violation }]

@[simp] theorem blame_faults (node : NodeId) (violation : Violation) :
    (blame node violation).faults = [{ node, violation }] := rfl

@[simp] theorem blame_misses (node : NodeId) (violation : Violation) :
    (blame node violation).misses = [] := rfl

/-- Finds fault with a node under a condition. -/
def blameIf (condition : Bool) (node : NodeId) (violation : Violation) : Inspection Unit :=
  if condition then blame node violation else pure ()

/-- A conditional fault is found just where its condition holds. -/
theorem mem_blameIf_faults {condition : Bool} {node : NodeId} {violation : Violation}
    {fault : Fault} :
    fault ∈ (blameIf condition node violation).faults ↔
      condition = true ∧ fault = { node, violation } := by
  cases condition <;> simp [blameIf]

/-- A conditional fault is no miss. -/
@[simp] theorem blameIf_misses (condition : Bool) (node : NodeId) (violation : Violation) :
    (blameIf condition node violation).misses = [] := by
  cases condition <;> rfl

/-- Goes on unless the policy allows what is asked for. -/
def unlessAllowed (question : Checked Bool) (rest : Inspection Unit) : Inspection Unit := do
  let allowed ← ask question
  if allowed then pure () else rest

/-- What comes after a question is found only where the answer is no. -/
theorem unlessAllowed_faults (question : Checked Bool) (rest : Inspection Unit) :
    (unlessAllowed question rest).faults = if question.answer then [] else rest.faults := by
  cases hanswer : question.answer <;> simp [unlessAllowed, hanswer]

/-- The question is logged either way, and what comes after it only where the answer is no. -/
theorem unlessAllowed_misses (question : Checked Bool) (rest : Inspection Unit) :
    (unlessAllowed question rest).misses =
      question.misses ++ if question.answer then [] else rest.misses := by
  cases hanswer : question.answer <;> simp [unlessAllowed, hanswer]

/-- Finds fault with a node unless the policy allows what is asked for. -/
def require (question : Checked Bool) (node : NodeId) (violation : Violation) :
    Inspection Unit :=
  unlessAllowed question (blame node violation)

/-- A requirement finds its fault just where the answer is no. -/
theorem mem_require_faults {question : Checked Bool} {node : NodeId} {violation : Violation}
    {fault : Fault} :
    fault ∈ (require question node violation).faults ↔
      question.answer = false ∧ fault = { node, violation } := by
  cases hanswer : question.answer <;> simp [require, unlessAllowed_faults, hanswer]

/-- A requirement logs what its question does. -/
@[simp] theorem require_misses (question : Checked Bool) (node : NodeId) (violation : Violation) :
    (require question node violation).misses = question.misses := by
  simp [require, unlessAllowed_misses]

end Inspection

end Portability
