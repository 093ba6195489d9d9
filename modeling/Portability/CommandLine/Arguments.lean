/-!
# Command-line arguments

A run is started with options only. An option that takes a value is given as `--name value`,
`--name=value`, `-n value`, `-nvalue` or `-n=value`; a switch as `--name`. No option may be given
twice, and `--` ends the options.

Arguments are read from left to right and the first fault decides, with one delay: the value of an
option that stands in an argument of its own is only looked at when the next known option or the
end is reached. Whether the program document is missing is found out last.
-/

namespace Portability

/-- How diagnostics are printed. -/
inductive OutputFormat where
  /-- A line for each diagnostic. -/
  | text
  /-- A JSON array of diagnostics. -/
  | json
  deriving DecidableEq, Repr, Inhabited

/-- What a run is asked to do. -/
structure Arguments where
  /-- The path of the program document. -/
  program : String
  /-- The directory that holds the rule document. -/
  configDir : Option String := none
  /-- The path of the rule document, which goes before the directory. -/
  rules : Option String := none
  /-- The namespace that is dissolved. -/
  rootNamespace : String := ""
  /-- Where the units are written. -/
  out : Option String := none
  /-- Where the rule document of what was missed is written. -/
  report : Option String := none
  format : OutputFormat := .text
  /-- Whether JSON is indented. -/
  pretty : Bool := false
  noColor : Bool := false
  deriving DecidableEq, Repr, Inhabited

namespace Arguments

/-- The options that take a value. -/
inductive Setting where
  | program
  | configDir
  | rules
  | rootNamespace
  | out
  | report
  | format
  deriving DecidableEq, Repr

/-- The options that take none. -/
inductive Switch where
  | pretty
  | noColor
  deriving DecidableEq, Repr

/-- How the use of an option that takes a value is shown. -/
def Setting.usage : Setting → String
  | program => "--program <PROGRAM>"
  | configDir => "--config-dir <CONFIG_DIR>"
  | rules => "--rules <RULES>"
  | rootNamespace => "--root-namespace <ROOT_NAMESPACE>"
  | out => "--out <OUT>"
  | report => "--report <REPORT>"
  | format => "--format <FORMAT>"

/-- How the use of an option that takes none is shown. -/
def Switch.usage : Switch → String
  | pretty => "--pretty"
  | noColor => "--no-color"

end Arguments

/-- Why arguments start no run. -/
inductive ArgumentError where
  /-- There is no program document. -/
  | missingProgram
  /-- An option has no value, or an empty one where it does not accept that. -/
  | missingValue (setting : Arguments.Setting)
  /-- An option has a value that it does not accept. -/
  | invalidValue (setting : Arguments.Setting) (value : String)
  /-- An argument is no known option and no value of one. -/
  | unknownArgument (argument : String)
  /-- An option that takes a value is given twice. -/
  | repeatedSetting (setting : Arguments.Setting)
  /-- An option that takes no value is given twice. -/
  | repeatedSwitch (switch : Arguments.Switch)
  /-- An option that takes no value is given one. `option` is its use. -/
  | unwantedValue (option value : String)
  /-- Not a fault: help is asked for. -/
  | help
  /-- Not a fault: the version is asked for. -/
  | version
  deriving DecidableEq, Repr

namespace ArgumentError

/-- The values of the option with a fixed choice of them, shown below a complaint about it. -/
def choices : Arguments.Setting → String
  | .format => "\n  [possible values: text, json]"
  | _ => ""

/-- An option that may not be given twice. -/
def repeated (option : String) : String :=
  "the argument '" ++ option ++ "' cannot be used multiple times"

/-- What is wrong, in words. -/
def message : ArgumentError → String
  | missingProgram =>
    "the following required arguments were not provided:\n  " ++ Arguments.Setting.program.usage
  | missingValue setting =>
    "a value is required for '" ++ setting.usage ++ "' but none was supplied" ++ choices setting
  | invalidValue setting value =>
    "invalid value '" ++ value ++ "' for '" ++ setting.usage ++ "'" ++ choices setting
  | unknownArgument argument => "unexpected argument '" ++ argument ++ "' found"
  | repeatedSetting setting => repeated setting.usage
  | repeatedSwitch switch => repeated switch.usage
  | unwantedValue option value =>
    "unexpected value '" ++ value ++ "' for '" ++ option ++ "' found; no more were expected"
  | help => "help is asked for"
  | version => "the version is asked for"

end ArgumentError

namespace Arguments

/-- What the name of an option stands for. -/
inductive Flag where
  | setting (setting : Setting)
  | switch (switch : Switch)
  | help
  | version
  deriving DecidableEq, Repr

/-- The names after two dashes. -/
def longNames : List (String × Flag) :=
  [("program", .setting .program),
   ("config-dir", .setting .configDir),
   ("configDir", .setting .configDir),
   ("rules", .setting .rules),
   ("root-namespace", .setting .rootNamespace),
   ("rootNamespace", .setting .rootNamespace),
   ("out", .setting .out),
   ("report", .setting .report),
   ("format", .setting .format),
   ("pretty", .switch .pretty),
   ("no-color", .switch .noColor),
   ("noColor", .switch .noColor),
   ("help", .help),
   ("version", .version)]

/-- The names after one dash. -/
def shortNames : List (Char × Flag) :=
  [('p', .setting .program),
   ('c', .setting .configDir),
   ('r', .setting .rootNamespace),
   ('o', .setting .out),
   ('h', .help),
   ('V', .version)]

/-- The format of a name, in upper or lower case. -/
def formatOfName? (name : String) : Option OutputFormat :=
  match name.toLower with
  | "text" => some .text
  | "json" => some .json
  | _ => none

/-- Whether an option accepts a value: paths are not empty, and formats are known. -/
def Setting.accepts (setting : Setting) (value : String) : Bool :=
  match setting with
  | .rootNamespace => true
  | .format => (formatOfName? value).isSome
  | _ => value != ""

/-- What was read so far. -/
structure Progress where
  settings : List (Setting × String) := []
  switches : List Switch := []
  /-- The option read last, if its value stands in an argument of its own. -/
  pending : Option (Setting × Option String) := none
  /-- Whether the options are at their end. -/
  ended : Bool := false
  deriving DecidableEq, Repr

namespace Progress

/-- Takes the value of an option. -/
def assign (progress : Progress) (setting : Setting) (value : String) :
    Except ArgumentError Progress :=
  if (progress.settings.lookup setting).isSome then .error (.repeatedSetting setting)
  else if !setting.accepts value then
    .error (if value == "" then .missingValue setting else .invalidValue setting value)
  else .ok { progress with settings := (setting, value) :: progress.settings }

/-- Takes the value that is still to be looked at. -/
def settle (progress : Progress) : Except ArgumentError Progress :=
  let settled := { progress with pending := none }
  match progress.pending with
  | none => .ok settled
  | some (setting, none) => .error (.missingValue setting)
  | some (setting, some value) => settled.assign setting value

/-- Takes a known option. `attached` is a value in the same argument. -/
def takeFlag (progress : Progress) (flag : Flag) (attached : Option String) :
    Except ArgumentError Progress := do
  match flag, attached with
  | .setting setting, some value => (← progress.settle).assign setting value
  | .setting setting, none => return { ← progress.settle with pending := some (setting, none) }
  | .switch switch, some value => throw (.unwantedValue switch.usage value)
  | .help, some value => throw (.unwantedValue "--help" value)
  | .version, some value => throw (.unwantedValue "--version" value)
  | .switch switch, none =>
    let settled ← progress.settle
    if settled.switches.contains switch then throw (.repeatedSwitch switch)
    return { settled with switches := switch :: settled.switches }
  | .help, none =>
    let _ ← progress.settle
    throw .help
  | .version, none =>
    let _ ← progress.settle
    throw .version

/-- Takes an argument without dashes: a value that is waited for, or nothing known. -/
def takeValue (progress : Progress) (value : String) : Except ArgumentError Progress :=
  match progress.pending with
  | some (setting, none) => .ok { progress with pending := some (setting, some value) }
  | _ => .error (.unknownArgument value)

/-- Takes the text after two dashes, where a value may follow an equals sign. -/
def takeLong (progress : Progress) (text : List Char) : Except ArgumentError Progress :=
  let name := text.takeWhile (· ≠ '=')
  let attached :=
    match text.drop name.length with
    | [] => none
    | _ :: value => some (String.ofList value)
  match longNames.lookup (String.ofList name) with
  | some flag => progress.takeFlag flag attached
  | none => .error (.unknownArgument ("--" ++ String.ofList name))

/-- Takes the text after one dash: a name, and for an option with a value what follows it. -/
def takeShort (progress : Progress) (name : Char) (text : List Char) :
    Except ArgumentError Progress :=
  match shortNames.lookup name with
  | none => .error (.unknownArgument (String.ofList ['-', name]))
  | some (.setting setting) =>
    let attached :=
      match text with
      | [] => none
      | '=' :: value => some (String.ofList value)
      | value => some (String.ofList value)
    progress.takeFlag (.setting setting) attached
  | some flag => progress.takeFlag flag none

/-- Takes one argument. -/
def take (progress : Progress) (argument : String) : Except ArgumentError Progress :=
  if progress.ended then .error (.unknownArgument argument)
  else
    match argument.toList with
    | ['-', '-'] => .ok { progress with ended := true }
    | '-' :: '-' :: text => progress.takeLong text
    | '-' :: name :: text => progress.takeShort name text
    | _ => progress.takeValue argument

/-- The arguments of a run, once all were read. -/
def finish (progress : Progress) : Except ArgumentError Arguments := do
  let settled ← progress.settle
  let value (setting : Setting) : Option String := settled.settings.lookup setting
  match value .program with
  | none => throw .missingProgram
  | some program =>
    return {
      program
      configDir := value .configDir
      rules := value .rules
      rootNamespace := (value .rootNamespace).getD ""
      out := value .out
      report := value .report
      format := ((value .format).bind formatOfName?).getD .text
      pretty := settled.switches.contains .pretty
      noColor := settled.switches.contains .noColor }

end Progress

/-- Reads the arguments of a run, those after the program's own name. -/
def parse (arguments : List String) : Except ArgumentError Arguments := do
  let progress ← arguments.foldlM Progress.take {}
  progress.finish

end Arguments

end Portability
