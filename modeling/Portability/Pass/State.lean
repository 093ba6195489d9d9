import Portability.Judge
import Portability.KnownNamespaces
import Portability.Pass.Inspection
import Portability.Tree.Flatten

/-!
# The state of a pass

A pass goes over the tree of one unit. It changes the arena, collects diagnostics, announces each
of them as it is found, and adds to the log of misses. What it goes by, the meaning of the nodes,
the policy and the namespaces to be dissolved, stays fixed.
-/

namespace Portability

/-- What a pass over a unit goes by. -/
structure PassContext where
  file : String
  model : SemanticModel
  policy : RulePolicy
  namespaces : KnownNamespaces

/-- The judge of a pass. -/
def PassContext.judge (context : PassContext) : Judge where
  model := context.model
  policy := context.policy

/-- What a pass over a unit changes. -/
structure PassState where
  arena : NodeArena
  diagnostics : Array Diagnostic := #[]
  /-- The messages as they were announced, with the nodes they are about. -/
  announced : Array (NodeId × String) := #[]
  misses : MissLog := {}
  deriving Repr, Inhabited

/-- A step of a pass. -/
abbrev PassM := StateM PassState

namespace PassM

/-- Looks at the arena. -/
def inspect {α : Type} (f : NodeArena → α) : PassM α := do
  return f (← get).arena

/-- Changes the arena. -/
def change (f : NodeArena → NodeArena) : PassM Unit :=
  modify fun state => { state with arena := f state.arena }

/-- Adds nodes to the arena. -/
def build (f : NodeArena → NodeId × NodeArena) : PassM NodeId :=
  modifyGet fun state =>
    let (id, arena) := f state.arena
    (id, { state with arena })

/-- Adds what was missed to the log. -/
def log (misses : List Miss) : PassM Unit :=
  modify fun state => { state with misses := state.misses.insertAll misses }

/-- Of two steps the second one starts in the state that the first one leaves. -/
theorem run_bind {α β : Type} (x : PassM α) (f : α → PassM β) (s : PassState) :
    (x >>= f).run s = (f (x.run s).1).run (x.run s).2 := rfl

/-- Looking at the arena changes nothing. -/
theorem run_inspect {α : Type} (f : NodeArena → α) (s : PassState) :
    (inspect f).run s = (f s.arena, s) := rfl

/-- A change is one of the arena alone. -/
theorem run_change (f : NodeArena → NodeArena) (s : PassState) :
    (change f).run s = ((), { s with arena := f s.arena }) := rfl

/-- Building adds to the arena and answers the node that was built. -/
theorem run_build (f : NodeArena → NodeId × NodeArena) (s : PassState) :
    (build f).run s = ((f s.arena).1, { s with arena := (f s.arena).2 }) := rfl

/-- Logging changes the log alone. -/
theorem run_log (misses : List Miss) (s : PassState) :
    (log misses).run s = ((), { s with misses := s.misses.insertAll misses }) := rfl

end PassM

/-- The comment that shows a message in the source. -/
def messageComment (message : String) : String :=
  "/* " ++ message ++ " */"

namespace PassContext

/-- The diagnostic of a fault. -/
def diagnostic (context : PassContext) (fault : Fault) : Diagnostic :=
  fault.violation.diagnostic context.file fault.node

/-- Shows a fault in the source: the message becomes the first comment of the node. -/
def annotate (context : PassContext) (arena : NodeArena) (fault : Fault) : NodeArena :=
  arena.prependComment fault.node (messageComment (context.diagnostic fault).message)

/-- Reports a fault: it is shown in the source, announced and collected. -/
def report (context : PassContext) (fault : Fault) : PassM Unit :=
  modify fun state =>
    let diagnostic := context.diagnostic fault
    { state with
      arena := context.annotate state.arena fault
      diagnostics := state.diagnostics.push diagnostic
      announced := state.announced.push (fault.node, diagnostic.message) }

/-- Takes in an inspection: its misses are logged and its faults reported, in order. -/
def settle (context : PassContext) (inspection : Inspection Unit) : PassM Unit := do
  PassM.log inspection.misses
  inspection.faults.forM context.report

/-- A report notes the fault in the arena, adds its diagnostic and announces it. -/
theorem run_report (context : PassContext) (fault : Fault) (s : PassState) :
    (context.report fault).run s =
      ((), { s with
        arena := context.annotate s.arena fault
        diagnostics := s.diagnostics.push (context.diagnostic fault)
        announced := s.announced.push (fault.node, (context.diagnostic fault).message) }) := rfl

/-- Faults are reported one after the other, each behind those before it. -/
theorem run_forM_report (context : PassContext) (faults : List Fault) (s : PassState) :
    (faults.forM context.report).run s =
      ((), { s with
        arena := faults.foldl context.annotate s.arena
        diagnostics := s.diagnostics ++ faults.map context.diagnostic
        announced := s.announced ++
          faults.map fun fault => (fault.node, (context.diagnostic fault).message) }) := by
  induction faults generalizing s with
  | nil =>
    simp
    rfl
  | cons fault rest ih =>
    rw [List.forM_eq_forM, List.forM_cons, PassM.run_bind, run_report, ← List.forM_eq_forM, ih]
    simp

/-- What settling an inspection does to each part of the state. -/
theorem run_settle (context : PassContext) (inspection : Inspection Unit) (s : PassState) :
    (context.settle inspection).run s =
      ((), {
        arena := inspection.faults.foldl context.annotate s.arena
        diagnostics := s.diagnostics ++ inspection.faults.map context.diagnostic
        announced := s.announced ++
          inspection.faults.map fun fault => (fault.node, (context.diagnostic fault).message)
        misses := s.misses.insertAll inspection.misses }) := by
  rw [settle, PassM.run_bind, PassM.run_log, run_forM_report]

end PassContext

end Portability
