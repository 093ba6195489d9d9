import Portability.ArgumentPlan
import Portability.CommandLine.Arguments
import Portability.CommandLine.Exit
import Portability.CommandLine.LogSettings
import Portability.Diagnostic.Basic
import Portability.Diagnostic.Report
import Portability.Diagnostic.Violation
import Portability.Json.Basic
import Portability.Json.Double
import Portability.Json.Parser
import Portability.Json.Printer
import Portability.Json.Record
import Portability.Judge
import Portability.KnownNamespaces
import Portability.Main
import Portability.Pass.Check
import Portability.Pass.Inspection
import Portability.Pass.Program
import Portability.Pass.State
import Portability.Pass.Visit
import Portability.Policy.Basic
import Portability.Policy.Lookup
import Portability.Policy.MissLog
import Portability.Policy.Rule
import Portability.Policy.RuleDocument
import Portability.Program.Document
import Portability.Program.Model
import Portability.Proofs.ArgumentPlan
import Portability.Proofs.Json.Merged
import Portability.Proofs.Json.Record
import Portability.Proofs.Judge
import Portability.Proofs.KnownNamespaces
import Portability.Proofs.Pass.Accesses
import Portability.Proofs.Pass.Annotation
import Portability.Proofs.Pass.Blame
import Portability.Proofs.Pass.Checks
import Portability.Proofs.Pass.Confinement
import Portability.Proofs.Pass.Constructs
import Portability.Proofs.Pass.Denials
import Portability.Proofs.Pass.DissolvedNames
import Portability.Proofs.Pass.Effect
import Portability.Proofs.Pass.Findings
import Portability.Proofs.Pass.Flattening
import Portability.Proofs.Pass.GenericNames
import Portability.Proofs.Pass.Independence
import Portability.Proofs.Pass.Leniency
import Portability.Proofs.Pass.Lockstep
import Portability.Proofs.Pass.Moves
import Portability.Proofs.Pass.Promotion
import Portability.Proofs.Pass.QualifiedNames
import Portability.Proofs.Pass.Relinking
import Portability.Proofs.Pass.Shortening
import Portability.Proofs.Pass.Shown
import Portability.Proofs.Pass.Sparing
import Portability.Proofs.Pass.Units
import Portability.Proofs.Pass.Visits
import Portability.Proofs.Policy.MissReport
import Portability.Proofs.Policy.Promotion
import Portability.Proofs.Policy.Question
import Portability.Proofs.Policy.Recording
import Portability.Proofs.Policy.RuleDocument
import Portability.Proofs.Program.Collecting
import Portability.Proofs.Program.Declarations
import Portability.Proofs.Program.DefaultValues
import Portability.Proofs.Program.Handles
import Portability.Proofs.Program.Instantiation
import Portability.Proofs.Program.KnownPaths
import Portability.Proofs.Program.NamingPaths
import Portability.Proofs.Program.ParentChains
import Portability.Proofs.Program.RootNames
import Portability.Proofs.Program.Storage
import Portability.Proofs.Program.Validation
import Portability.Proofs.Program.Verdicts
import Portability.Proofs.Symbol.CycleSearch
import Portability.Proofs.Symbol.Json
import Portability.Proofs.Symbol.NamespaceTree
import Portability.Proofs.Symbol.Naming
import Portability.Proofs.Symbol.Path
import Portability.Proofs.Symbol.Walk
import Portability.Proofs.Symbol.Wellformed
import Portability.Proofs.Text.Dotted
import Portability.Proofs.Text.Joined
import Portability.Proofs.Text.Segments
import Portability.Proofs.Text.Template
import Portability.Proofs.Tree.Chains
import Portability.Proofs.Tree.Children
import Portability.Proofs.Tree.Confinement
import Portability.Proofs.Tree.Dissolve
import Portability.Proofs.Tree.DocumentOrder
import Portability.Proofs.Tree.DottedNames
import Portability.Proofs.Tree.Frame
import Portability.Proofs.Tree.Json
import Portability.Proofs.Tree.Names
import Portability.Proofs.Tree.Notes
import Portability.Proofs.Tree.Preorder
import Portability.Proofs.Tree.Reach
import Portability.Proofs.Tree.Shape
import Portability.Proofs.Tree.Spelling
import Portability.RefKind
import Portability.Run.Basic
import Portability.Run.Files
import Portability.Symbol.Arena
import Portability.Symbol.Basic
import Portability.Symbol.Constant
import Portability.Symbol.Json
import Portability.Symbol.Name
import Portability.Symbol.Wellformed
import Portability.Text.Dotted
import Portability.Text.Quoted
import Portability.Text.Template
import Portability.Text.Unprintable
import Portability.Tree.Arena
import Portability.Tree.Flatten
import Portability.Tree.Json
import Portability.Tree.Node
import Portability.Tree.NodeId
import Portability.Tree.Spelling
