import Portability.Text.Dotted

/-!
# Rules

A policy consists of rules, each of which puts a name on one of nine lists. Four lists hold names
that external code may be used by, one holds pairs of types that may be converted into each other,
and four hold names that must not be used.

The lists have keys in rule files, and entries of a fixed shape: a tag and a number of arguments.
-/

namespace Portability

/-- The lists of names that are allowed. -/
inductive LegalList where
  | genericType
  | genericMethod
  | parameterGenericType
  | extension
  deriving DecidableEq, Repr, Inhabited

/-- The lists of names that are denied. -/
inductive DenyList where
  | type
  | method
  | property
  | field
  deriving DecidableEq, Repr, Inhabited

/-- What a rule says. -/
inductive Rule where
  | allow (list : LegalList) (name : String)
  | allowConversion (source target : String)
  | deny (list : DenyList) (name : String)
  deriving DecidableEq, Repr

/-- The lists that a rule file can fill. -/
inductive RuleList where
  | legal (list : LegalList)
  | conversions
  | denied (list : DenyList)
  deriving DecidableEq, Repr, Inhabited

namespace RuleList

/-- All lists, in the order in which reports present them. -/
def all : List RuleList :=
  [.legal .genericType, .legal .genericMethod, .legal .parameterGenericType, .legal .extension,
   .conversions,
   .denied .type, .denied .method, .denied .property, .denied .field]

/-- The key of a list in rule files. -/
def key : RuleList → String
  | legal .genericType => "LegalGenericTypeList"
  | legal .genericMethod => "LegalGenericMethodList"
  | legal .parameterGenericType => "LegalParameterGenericTypeList"
  | legal .extension => "LegalExtensionList"
  | conversions => "LegalConvertionList"
  | denied .type => "IllegalTypeList"
  | denied .method => "IllegalMethodList"
  | denied .property => "IllegalPropertyList"
  | denied .field => "IllegalFieldList"

/-- The list of a key. -/
def ofKey? (key : String) : Option RuleList :=
  all.find? fun list => list.key == key

/-- The tag of a list's entries. -/
def entryTag : RuleList → String
  | legal .genericType | legal .parameterGenericType | legal .extension | denied .type => "type"
  | legal .genericMethod | denied .method => "method"
  | conversions => "convertion"
  | denied .property => "property"
  | denied .field => "field"

/-- The number of arguments of a list's entries: the parts of a member's name are given apart, and
so are the sides of a conversion. -/
def arity : RuleList → Nat
  | legal .genericType | legal .parameterGenericType | legal .extension | denied .type => 1
  | legal .genericMethod | denied .method | conversions | denied .property | denied .field => 2

/-- The name that an entry's arguments spell on a list of names of the given arity. -/
def entryName? : Nat → List String → Option String
  | 1, name :: _ => some name
  | 2, type :: member :: _ => some (type ++ "." ++ member)
  | _, _ => none

/-- The rule that an entry's arguments make. More arguments than the list's arity are ignored; with
fewer there is no rule. -/
def rule? (list : RuleList) (arguments : List String) : Option Rule :=
  match list with
  | legal l => (entryName? list.arity arguments).map (.allow l)
  | denied d => (entryName? list.arity arguments).map (.deny d)
  | conversions =>
    match arguments with
    | source :: target :: _ => some (.allowConversion source target)
    | _ => none

end RuleList

end Portability
