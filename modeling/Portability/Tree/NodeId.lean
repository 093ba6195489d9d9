import Portability.Json.Record

/-!
# Node handles

A node is addressed by its position in the arena that holds it. A slot for a child may be empty,
and so may every other place that names a node, so "no node" is a handle of its own. In documents
it is spelled by the largest number of 32 bits.
-/

namespace Portability

/-- A handle of a node, or of no node. -/
inductive NodeId where
  | none
  | ofIndex (index : Nat)
  deriving DecidableEq, Repr, Inhabited

namespace NodeId

/-- The number that stands for no node. -/
def noneNumber : Nat := twoTo 32 - 1

/-- Whether a handle names no node. -/
def isNone : NodeId → Bool
  | none => true
  | ofIndex _ => false

/-- Whether a handle names a node. -/
def isSome (node : NodeId) : Bool :=
  !node.isNone

/-- The number of a handle in documents. -/
def toNumber : NodeId → Nat
  | none => noneNumber
  | ofIndex index => index

/-- The handle of a number in documents. -/
def ofNumber (n : Nat) : NodeId :=
  if n = noneNumber then none else ofIndex n

/-- A handle as messages show it. -/
def display : NodeId → String
  | none => "#none"
  | ofIndex index => "#" ++ toString index

/-- A handle is written as its number. -/
def toJson (node : NodeId) : Json :=
  Json.nat node.toNumber

/-- A handle is a number of 32 bits. -/
def read (value : Json) : Except ReadError NodeId :=
  (Json.readNatOfBits 32 value).map ofNumber

/-- A handle is read back from its number, unless it has the number that stands for no node. -/
theorem ofNumber_toNumber {node : NodeId} (h : node ≠ ofIndex noneNumber) :
    ofNumber node.toNumber = node := by
  cases node with
  | none => rfl
  | ofIndex index =>
    have : index ≠ noneNumber := fun e => h (by rw [e])
    simp [toNumber, ofNumber, this]

end NodeId

end Portability
