import Portability.Diagnostic.Basic
import Portability.Text.Template

/-!
# Reports of diagnostics

A report has one line per diagnostic, `Player.cs#12 - error CSL2001: message`, and ends with a
summary, `Found 3 errors in 2 files.` On a terminal the parts of a line can be colored.
-/

namespace Portability

/-- The styles of a colored report. -/
inductive TextStyle where
  | cyan
  | brightBlue
  | boldRed
  | boldYellow
  | boldBlue
  deriving DecidableEq, Repr, Inhabited

namespace TextStyle

/-- The control sequence that starts a style. -/
def start : TextStyle → String
  | cyan => "\x1b[36m"
  | brightBlue => "\x1b[94m"
  | boldRed => "\x1b[1;31m"
  | boldYellow => "\x1b[1;33m"
  | boldBlue => "\x1b[1;34m"

/-- The control sequence that ends every style. -/
def reset : String := "\x1b[0m"

/-- A text in a style. Where the text itself ends a style, this one is started again. -/
def apply (style : TextStyle) (text : String) : String :=
  style.start ++ Template.replaceAll text reset (reset ++ style.start) ++ reset

end TextStyle

/-- The style of a category's word. -/
def Category.style : Category → TextStyle
  | error => .boldRed
  | warning => .boldYellow
  | message => .boldBlue

namespace Diagnostic

/-- What stands for the name of a file without one. -/
def unknownFile : String := "<unknown>"

/-- A text in a style, or as it is where nothing is colored. -/
def styled (color : Bool) (style : TextStyle) (text : String) : String :=
  if color then style.apply text else text

/-- Where a diagnostic is: the file and the node. -/
def location (d : Diagnostic) : String :=
  (if d.file = "" then unknownFile else d.file) ++ d.node.display

/-- The line of a diagnostic in a report. -/
def reportLine (color : Bool) (d : Diagnostic) : String :=
  styled color .cyan d.location ++ " - " ++ styled color d.category.style d.category.label ++ " " ++
    styled color .brightBlue ("CSL" ++ toString d.code) ++ ": " ++ d.message

/-- The lines of a report, without an end to the last one. -/
def report (color : Bool) (ds : List Diagnostic) : String :=
  String.intercalate "\n" (ds.map (reportLine color))

/-- A number of things, the word in the plural for any number but one. -/
def counted (n : Nat) (word : String) : String :=
  toString n ++ " " ++ word ++ if n = 1 then "" else "s"

/-- The last line of a report: how many diagnostics there are, in how many files. -/
def summary (color : Bool) (ds : List Diagnostic) : String :=
  let files := (ds.map (·.file)).eraseDups
  let text := "Found " ++ counted ds.length "error" ++ " in " ++ counted files.length "file" ++ "."
  if ds.isEmpty then text else styled color .boldRed text

end Diagnostic

end Portability
