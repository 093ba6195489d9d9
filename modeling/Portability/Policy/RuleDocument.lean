import Portability.Json.Parser
import Portability.Json.Printer
import Portability.Json.Record
import Portability.Policy.Rule

/-!
# Rule documents

A rule document is an array of sections. A section with the id `config` fills the list whose key is
its first argument, with the entries that have the list's tag and enough arguments:

```text
[{ "id": "config", "args": ["IllegalMethodList"], "entries": [
    { "id": "method", "args": ["UnityEngine.GameObject", "SendMessage"] }
]}]
```

Reading is lenient below the top level. A section of the wrong shape is left out of the document;
sections with another id or an unknown key, and entries of the wrong shape, say nothing.
-/

namespace Portability

/-- An entry of a section. -/
structure RuleEntry where
  id : String
  arguments : List String := []
  deriving DecidableEq, Repr, Inhabited

namespace RuleEntry

/-- An entry as documents hold it. -/
def toJson (entry : RuleEntry) : Json :=
  .object [("id", .string entry.id), ("args", Json.strings entry.arguments)]

/-- Reads what `toJson` writes. -/
def read (value : Json) : Except ReadError RuleEntry := do
  let record ← Json.readRecord ["id", "args"] value
  let id ← record.required "id" Json.readText
  let arguments ← record.list "args" Json.readText
  return { id, arguments }

end RuleEntry

/-- A section of a rule document. Entries are kept as they were written. -/
structure RuleSection where
  id : String := ""
  arguments : List String := []
  entries : List Json := []
  deriving Repr, Inhabited

namespace RuleSection

/-- The id of sections that fill a list. -/
def configId : String := "config"

/-- A section as documents hold it. -/
def toJson (ruleSection : RuleSection) : Json :=
  .object
    [("id", .string ruleSection.id),
     ("args", Json.strings ruleSection.arguments),
     ("entries", .array ruleSection.entries)]

/-- Reads what `toJson` writes; every field may be missing. -/
def read (value : Json) : Except ReadError RuleSection := do
  let record ← Json.readRecord ["id", "args", "entries"] value
  let id ← record.withDefault "id" "" Json.readText
  let arguments ← record.list "args" Json.readText
  let entries ← record.list "entries" .ok
  return { id, arguments, entries }

/-- The section that fills a list with the given entries. -/
def config (list : RuleList) (entries : List RuleEntry) : RuleSection where
  id := configId
  arguments := [list.key]
  entries := entries.map RuleEntry.toJson

/-- The list that a section fills. -/
def list? (ruleSection : RuleSection) : Option RuleList :=
  if ruleSection.id = configId then ruleSection.arguments.head?.bind RuleList.ofKey? else none

/-- An entry that has the tag of a list and arguments enough for it. -/
def entryFor? (list : RuleList) (value : Json) : Option RuleEntry :=
  match RuleEntry.read value with
  | .ok entry =>
    if entry.id = list.entryTag ∧ list.arity ≤ entry.arguments.length then some entry else none
  | .error _ => none

/-- The entries of a section that have the shape of a list's entries. -/
def entriesFor (ruleSection : RuleSection) (list : RuleList) : List RuleEntry :=
  ruleSection.entries.filterMap (entryFor? list)

/-- The rules that a section makes. -/
def rules (ruleSection : RuleSection) : List Rule :=
  match ruleSection.list? with
  | some list => (ruleSection.entriesFor list).filterMap fun entry => list.rule? entry.arguments
  | none => []

end RuleSection

/-- A rule document. -/
structure RuleDocument where
  sections : List RuleSection := []
  deriving Repr, Inhabited

namespace RuleDocument

/-- The name of the rule document in a configuration directory. -/
def fileName : String := "rewriter.json"

/-- A rule document is written as the array of its sections. -/
def toJson (document : RuleDocument) : Json :=
  Json.list RuleSection.toJson document.sections

/-- Reads an array of sections and leaves out items that are none. Within the items the last value
of a repeated key counts. -/
def read (value : Json) : Except ReadError RuleDocument :=
  if !value.isReadable then .error .unreadable
  else
    match value with
    | .array items =>
      .ok { sections := items.filterMap fun item => (RuleSection.read item.merged).toOption }
    | _ => .error (.unexpected "array")

/-- The rule document that a text holds. -/
def parse (text : String) : Except ReadError RuleDocument :=
  match Json.parse? text with
  | none => .error .malformed
  | some value => read value

/-- A rule document as an indented text. -/
def toText (document : RuleDocument) : String :=
  document.toJson.pretty

/-- The rules of all sections. -/
def rules (document : RuleDocument) : List Rule :=
  document.sections.flatMap RuleSection.rules

end RuleDocument

end Portability
