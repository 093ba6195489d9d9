import Portability.Pass.Visit

/-!
# The pass over a program

The units of a program are gone over one after the other. They share the policy, the namespaces to
be dissolved and the log of misses; each has its own arena and diagnostics.
-/

namespace Portability

/-- A unit after the pass. -/
structure CheckedUnit where
  file : String
  root : NodeId
  arena : NodeArena
  diagnostics : List Diagnostic
  deriving DecidableEq, Repr, Inhabited

/-- A unit as it is written for the next stage. -/
def CheckedUnit.toJson (unit : CheckedUnit) : Json :=
  .object
    [("file", .string unit.file),
     ("root", unit.root.toJson),
     ("arena", unit.arena.toJson),
     ("diagnostics", Json.list Diagnostic.toJson unit.diagnostics)]

/-- The outcome of a run. -/
structure RunOutcome where
  /-- In the order of the program document. -/
  units : List CheckedUnit
  misses : MissReport
  deriving DecidableEq, Repr, Inhabited

/-- Every diagnostic, unit by unit. -/
def RunOutcome.diagnostics (outcome : RunOutcome) : List Diagnostic :=
  outcome.units.flatMap (·.diagnostics)

namespace ProgramDocument

/-- What the pass over one of a program's units goes by. -/
def passContext (program : ProgramDocument) (policy : RulePolicy) (namespaces : KnownNamespaces)
    (unit : UnitDocument) : PassContext where
  file := unit.file
  model := program.modelOf unit
  policy := policy
  namespaces := namespaces

/-- Goes over a unit, starting from what was missed before. -/
def checkUnit (program : ProgramDocument) (policy : RulePolicy) (namespaces : KnownNamespaces)
    (misses : MissLog) (unit : UnitDocument) : CheckedUnit × MissLog :=
  let context := program.passContext policy namespaces unit
  let (root, state) := context.runFrom misses unit.arena unit.root
  ({ file := unit.file, root, arena := state.arena, diagnostics := state.diagnostics.toList },
   state.misses)

/-- Goes over units one after the other, each starting from what was missed before it. -/
def checkUnits (program : ProgramDocument) (policy : RulePolicy) (namespaces : KnownNamespaces) :
    MissLog → List UnitDocument → List CheckedUnit × MissLog
  | misses, [] => ([], misses)
  | misses, unit :: rest =>
    let (first, misses) := program.checkUnit policy namespaces misses unit
    let (others, misses) := program.checkUnits policy namespaces misses rest
    (first :: others, misses)

/-- Goes over all units of a program, dissolving the namespaces below a root. -/
def check (program : ProgramDocument) (policy : RulePolicy) (root : String) : RunOutcome :=
  let namespaces := KnownNamespaces.collect program.symbols root
  let (units, misses) := program.checkUnits policy namespaces {} program.units
  { units, misses := misses.report }

end ProgramDocument

end Portability
