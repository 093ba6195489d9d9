/-!
# Log settings

Logging is off unless a filter is set in the environment. A second variable chooses the layout of
the log.
-/

namespace Portability

/-- The layouts of a log. -/
inductive LogFormat where
  | text
  | tree
  | json
  deriving DecidableEq, Repr, Inhabited

namespace LogFormat

/-- The layout of a name, in upper or lower case; `text` for any other name. Only letters from `A`
to `Z` have a lower case that occurs in the names. -/
def ofName (name : String) : LogFormat :=
  match name.toLower with
  | "tree" => tree
  | "json" => json
  | _ => text

end LogFormat

/-- How a run is logged. -/
structure LogSettings where
  /-- What is logged. -/
  directive : String
  format : LogFormat := .text
  deriving DecidableEq, Repr, Inhabited

namespace LogSettings

/-- The variable that holds the filter. -/
def filterVariable : String := "CSLUA_LOG"

/-- The variable that holds the filter where the first is not set. -/
def fallbackFilterVariable : String := "RUST_LOG"

/-- The variable that chooses the layout. -/
def formatVariable : String := "CSLUA_LOG_FORMAT"

/-- The settings that an environment asks for, where `value?` looks a variable up; none where no
filter is set. -/
def ofEnvironment (value? : String → Option String) : Option LogSettings :=
  ((value? filterVariable).or (value? fallbackFilterVariable)).map fun directive =>
    { directive, format := ((value? formatVariable).map LogFormat.ofName).getD .text }

end LogSettings

end Portability
