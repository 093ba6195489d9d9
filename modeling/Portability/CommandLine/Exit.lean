import Portability.Diagnostic.Report
import Portability.Run.Basic

/-!
# The command

`Exit.ofCommand` is all that the command does with its arguments: what it prints and how it ends.
The status is 0 where nothing was found, 1 where there are diagnostics or a run failed, and 2 where
the arguments start no run.
-/

namespace Portability

/-- How a command ends. -/
structure Exit where
  status : Nat
  stdout : String := ""
  stderr : String := ""
  deriving DecidableEq, Repr, Inhabited

namespace Exit

/-- The name of the command and its version. -/
def versionLine : String := "cslua 0.1.0"

/-- How the command is used. -/
def usage : String :=
  "Portability check and namespace flattening for C#-to-Lua translation\n\n" ++
  "Usage: cslua [OPTIONS] --program <PROGRAM>\n\n" ++
  "Options:\n" ++
  "  -p, --program <PROGRAM>                Program document written by the front end (JSON)\n" ++
  "  -c, --config-dir <CONFIG_DIR>          Directory containing `rewriter.json`\n" ++
  "      --rules <RULES>                    Path of the rule document; takes precedence over `--config-dir`\n" ++
  "  -r, --root-namespace <ROOT_NAMESPACE>  Namespace whose declarations are flattened into each unit [default: ]\n" ++
  "  -o, --out <OUT>                        Write the rewritten units here (JSON)\n" ++
  "      --report <REPORT>                  Write the rule misses here, as a rule document ready to merge\n" ++
  "      --format <FORMAT>                  How diagnostics are printed [default: text] [possible values: text, json]\n" ++
  "      --pretty                           Pretty-print JSON output\n" ++
  "      --no-color                         Never color diagnostics\n" ++
  "  -h, --help                             Print help\n" ++
  "  -V, --version                          Print version\n"

/-- What is printed instead of starting a run. -/
def ofArgumentError : ArgumentError → Exit
  | .help => { status := 0, stdout := usage }
  | .version => { status := 0, stdout := versionLine ++ "\n" }
  | error =>
    { status := 2,
      stderr := "error: " ++ error.message ++ "\n\nFor more information, try '--help'.\n" }

/-- What is printed about a run that failed. -/
def ofRunError (error : RunError) : Exit where
  status := 1
  stderr := "Error: " ++ error.message ++ "\n"

/-- The diagnostics as they are printed: nothing where there are none, unless JSON is asked for. -/
def diagnosticsText (arguments : Arguments) (terminal : Bool) (ds : List Diagnostic) : String :=
  match arguments.format with
  | .json => arguments.outputText (Json.list Diagnostic.toJson ds) ++ "\n"
  | .text =>
    if ds.isEmpty then ""
    else
      let color := terminal && !arguments.noColor
      Diagnostic.report color ds ++ "\n\n" ++ Diagnostic.summary color ds ++ "\n"

/-- What is printed about a run that was finished. -/
def ofOutcome (arguments : Arguments) (terminal : Bool) (outcome : RunOutcome) : Exit where
  status := if outcome.diagnostics.isEmpty then 0 else 1
  stdout := diagnosticsText arguments terminal outcome.diagnostics

/-- Does what the arguments ask for. `terminal` tells whether the output goes to a terminal. -/
def ofCommand {m : Type → Type} [Monad m] (files : FileAccess m) (terminal : Bool)
    (arguments : List String) : m Exit := do
  match Arguments.parse arguments with
  | .error error => return ofArgumentError error
  | .ok arguments =>
    match ← arguments.run files with
    | .error error => return ofRunError error
    | .ok outcome => return ofOutcome arguments terminal outcome

end Exit

end Portability
