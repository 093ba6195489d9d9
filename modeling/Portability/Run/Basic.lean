import Portability.CommandLine.Arguments
import Portability.Pass.Program
import Portability.Run.Files

/-!
# Runs

A run loads a program document and a rule document, goes over the program, and writes the outcome
where the arguments ask for it. The first step that fails ends it.
-/

namespace Portability

/-- Why a run ends early. Each fault names the path it is about. -/
inductive RunError where
  /-- The program document cannot be loaded; without a cause it cannot be read. -/
  | program (path : String) (cause : Option ProgramError)
  /-- The rule document cannot be loaded; without a cause it cannot be read. -/
  | rules (path : String) (cause : Option ReadError)
  /-- A file cannot be written. -/
  | output (path : String)
  deriving DecidableEq, Repr

namespace RunError

/-- What failed, in words. -/
def message : RunError → String
  | program path _ => "failed to load program '" ++ path ++ "'"
  | rules path _ => "failed to load rules from '" ++ path ++ "'"
  | output path => "failed to write '" ++ path ++ "'"

end RunError

namespace Arguments

variable {m : Type → Type} [Monad m] (files : FileAccess m)

/-- A value as the text of an output file. -/
def outputText (arguments : Arguments) (value : Json) : String :=
  if arguments.pretty then value.pretty else value.compact

/-- Loads the program document. -/
def loadProgram (arguments : Arguments) : m (Except RunError ProgramDocument) := do
  match ← files.read arguments.program with
  | none => return .error (.program arguments.program none)
  | some text =>
    match ProgramDocument.parse text with
    | .ok program => return .ok program
    | .error cause => return .error (.program arguments.program (some cause))

/-- Where the rule document is: its file, and the path by which faults are reported. -/
def rulesPath? (arguments : Arguments) : Option (String × String) :=
  match arguments.rules, arguments.configDir with
  | some path, _ => some (path, path)
  | none, some directory =>
    let separator := if directory.endsWith "/" then "" else "/"
    some (directory ++ separator ++ RuleDocument.fileName, directory)
  | none, none => none

/-- Loads the policy; without a rule document it is empty. -/
def loadPolicy (arguments : Arguments) : m (Except RunError RulePolicy) := do
  match arguments.rulesPath? with
  | none => return .ok {}
  | some (path, shown) =>
    match ← files.read path with
    | none => return .error (.rules shown none)
    | some text =>
      match RuleDocument.parse text with
      | .ok document => return .ok (.ofDocument document)
      | .error cause => return .error (.rules shown (some cause))

/-- Writes a value to a file, if one is asked for. -/
def writeOutput (arguments : Arguments) (path : Option String) (value : Json) :
    m (Except RunError Unit) := do
  match path with
  | none => return .ok ()
  | some path =>
    if ← files.write path (arguments.outputText value) then return .ok ()
    else return .error (.output path)

/-- Loads, checks, and writes the units and then the rules that were missed. -/
def run (arguments : Arguments) : m (Except RunError RunOutcome) :=
  ExceptT.run do
    let program ← ExceptT.mk (arguments.loadProgram files)
    let policy ← ExceptT.mk (arguments.loadPolicy files)
    let outcome := program.check policy arguments.rootNamespace
    ExceptT.mk <| arguments.writeOutput files arguments.out
      (Json.list CheckedUnit.toJson outcome.units)
    ExceptT.mk <| arguments.writeOutput files arguments.report
      outcome.misses.toRuleDocument.toJson
    return outcome

end Arguments

end Portability
