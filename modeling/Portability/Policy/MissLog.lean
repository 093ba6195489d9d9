import Portability.Policy.Basic

/-!
# Missed names

Looking up a name that a list should hold and does not is a *miss*. Misses are collected in a log,
which keeps each one once. The log is only written while a program is checked; no answer depends
on what it holds.

`MissReport` is the sorted content of a log. It can be turned into a rule document that allows
what was missed, up to names of methods that have no dot.
-/

namespace Portability

/-- The groups of missed names. -/
inductive MissBucket where
  | genericType
  | genericMethod
  | parameterGenericType
  | extension
  /-- The type whose member is accessed, kept apart from other generic types. -/
  | memberHost
  deriving DecidableEq, Repr, Inhabited

namespace MissBucket

/-- All groups. -/
def all : List MissBucket :=
  [.genericType, .genericMethod, .parameterGenericType, .extension, .memberHost]

/-- The name of a group. -/
def name : MissBucket → String
  | genericType => "IllegalGenericTypes"
  | genericMethod => "IllegalGenericMethods"
  | parameterGenericType => "IllegalParameterGenericTypes"
  | extension => "IllegalExtensions"
  | memberHost => "AccessMemberOfIllegalGenericTypes"

/-- The group of names that are missing from a list. -/
def ofList : LegalList → MissBucket
  | .genericType => genericType
  | .genericMethod => genericMethod
  | .parameterGenericType => parameterGenericType
  | .extension => extension

end MissBucket

/-- A lookup that failed. -/
inductive Miss where
  | name (bucket : MissBucket) (name : String)
  | conversion (source target : String)
  deriving DecidableEq, Repr

/-- The misses of a run, each of them once, the latest first. -/
structure MissLog where
  misses : List Miss := []
  deriving DecidableEq, Repr, Inhabited

namespace MissLog

/-- Whether a miss is in the log. -/
def contains (log : MissLog) (miss : Miss) : Bool :=
  log.misses.contains miss

/-- The log with a miss added, unless it is there already. -/
def insert (log : MissLog) (miss : Miss) : MissLog :=
  if log.contains miss then log else { misses := miss :: log.misses }

/-- Adds a miss and tells whether it is new. -/
def record (log : MissLog) (miss : Miss) : Bool × MissLog :=
  (!log.contains miss, log.insert miss)

/-- Adds misses one after the other. -/
def insertAll (log : MissLog) (misses : List Miss) : MissLog :=
  misses.foldl insert log

/-- Whether nothing was missed. -/
def isEmpty (log : MissLog) : Bool :=
  log.misses.isEmpty

/-- The missed names of a group. -/
def names (log : MissLog) (bucket : MissBucket) : List String :=
  log.misses.filterMap fun
    | .name b name => if b = bucket then some name else none
    | .conversion _ _ => none

/-- The missed conversions. -/
def conversions (log : MissLog) : List (String × String) :=
  log.misses.filterMap fun
    | .name _ _ => none
    | .conversion source target => some (source, target)

/-- Inserting keeps every miss once. -/
theorem nodup_insert {log : MissLog} {miss : Miss} (h : log.misses.Nodup) :
    (log.insert miss).misses.Nodup := by
  unfold insert contains
  split
  · exact h
  · simp_all

/-- The log holds a miss after an insertion if it is the inserted one or was there before. -/
theorem mem_insert {log : MissLog} {miss other : Miss} :
    other ∈ (log.insert miss).misses ↔ other = miss ∨ other ∈ log.misses := by
  unfold insert contains
  split
  · simp_all
  · simp

end MissLog

/-- The sorted misses of a run. -/
structure MissReport where
  genericTypes : List String := []
  genericMethods : List String := []
  parameterGenericTypes : List String := []
  extensions : List String := []
  memberHosts : List String := []
  /-- Pairs of source and target. -/
  conversions : List (String × String) := []
  deriving DecidableEq, Repr, Inhabited

/-- Pairs of texts in lexicographic order. -/
def textPairLe (a b : String × String) : Bool :=
  decide (a.1 < b.1) || (a.1 == b.1 && textLe a.2 b.2)

/-- The misses of a log in increasing order. -/
def MissLog.report (log : MissLog) : MissReport where
  genericTypes := (log.names .genericType).mergeSort textLe
  genericMethods := (log.names .genericMethod).mergeSort textLe
  parameterGenericTypes := (log.names .parameterGenericType).mergeSort textLe
  extensions := (log.names .extension).mergeSort textLe
  memberHosts := (log.names .memberHost).mergeSort textLe
  conversions := log.conversions.mergeSort textPairLe

namespace MissReport

/-- The number of misses. -/
def total (report : MissReport) : Nat :=
  report.genericTypes.length + report.genericMethods.length +
    report.parameterGenericTypes.length + report.extensions.length +
    report.memberHosts.length + report.conversions.length

/-- Whether nothing was missed. -/
def isEmpty (report : MissReport) : Bool :=
  report.total == 0

/-- A report as documents hold it. -/
def toJson (report : MissReport) : Json :=
  .object
    [("illegal_generic_types", Json.strings report.genericTypes),
     ("illegal_generic_methods", Json.strings report.genericMethods),
     ("illegal_parameter_generic_types", Json.strings report.parameterGenericTypes),
     ("illegal_extensions", Json.strings report.extensions),
     ("access_member_of_illegal_generic_types", Json.strings report.memberHosts),
     ("illegal_conversions",
      Json.list (fun (source, target) => Json.strings [source, target]) report.conversions)]

/-- A conversion is an array of two texts. -/
def readConversion : Reader (String × String)
  | .array [source, target] => do
    let source ← Json.readText source
    let target ← Json.readText target
    return (source, target)
  | _ => .error (.unexpected "pair")

/-- Reads what `toJson` writes; every field may be missing. -/
def read (value : Json) : Except ReadError MissReport := do
  let record ← Json.readRecord
    ["illegal_generic_types", "illegal_generic_methods", "illegal_parameter_generic_types",
     "illegal_extensions", "access_member_of_illegal_generic_types", "illegal_conversions"] value
  let genericTypes ← record.list "illegal_generic_types" Json.readText
  let genericMethods ← record.list "illegal_generic_methods" Json.readText
  let parameterGenericTypes ← record.list "illegal_parameter_generic_types" Json.readText
  let extensions ← record.list "illegal_extensions" Json.readText
  let memberHosts ← record.list "access_member_of_illegal_generic_types" Json.readText
  let conversions ← record.list "illegal_conversions" readConversion
  return { genericTypes, genericMethods, parameterGenericTypes, extensions, memberHosts,
           conversions }

/-! ### Promotion to rules -/

/-- Entries for names of types. -/
def typeEntries (names : List String) : List RuleEntry :=
  names.map fun name => { id := "type", arguments := [name] }

/-- Entries for names of methods, each cut at its last dot. A name without a dot has no entry. -/
def methodEntries (names : List String) : List RuleEntry :=
  names.filterMap fun name =>
    (Dotted.splitLast? name).map fun (type, method) =>
      { id := "method", arguments := [type, method] }

/-- Entries for conversions. -/
def conversionEntries (pairs : List (String × String)) : List RuleEntry :=
  pairs.map fun (source, target) => { id := "convertion", arguments := [source, target] }

/-- The lists that a report fills, with their entries. Hosts of members join the generic types. -/
def promoted (report : MissReport) : List (RuleList × List RuleEntry) :=
  [(.legal .genericType, typeEntries (sortedTexts (report.genericTypes ++ report.memberHosts))),
   (.legal .genericMethod, methodEntries report.genericMethods),
   (.legal .parameterGenericType, typeEntries report.parameterGenericTypes),
   (.legal .extension, typeEntries report.extensions),
   (.conversions, conversionEntries report.conversions)]

/-- The rule document that allows what was missed. A list without entries has no section. -/
def toRuleDocument (report : MissReport) : RuleDocument where
  sections := (report.promoted.filter fun (_, entries) => !entries.isEmpty).map
    fun (list, entries) => RuleSection.config list entries

end MissReport

end Portability
