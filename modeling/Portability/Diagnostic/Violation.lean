import Portability.Diagnostic.Basic
import Portability.Text.Template

/-!
# Violations and their messages

Everything the check finds fault with is a `Violation`. Each kind has a code in the message
catalog: 1001 to 1004 are constructs that cannot be lowered at all, 2001 to 2009 uses of external
code that the policy does not allow, and 3001 external extension methods.

`Diagnostic.ofCode` is the message of any code: the catalog's template filled with the arguments,
or the bare arguments where the catalog has no such code.
-/

namespace Portability

/-- An entry of the message catalog. -/
structure MessageEntry where
  code : Nat
  category : Category
  template : String
  deriving DecidableEq, Repr

namespace MessageEntry

/-- The template `[cslua] Unsupported ...`. -/
def unsupported (code : Nat) (parts : List String) : MessageEntry where
  code := code
  category := .error
  template := "[cslua] Unsupported " ++ String.join parts ++ " !"

/-- The first placeholder in quotes. -/
def firstQuoted : String := "'" ++ Template.placeholder 0 ++ "'"

/-- The second placeholder in quotes. -/
def secondQuoted : String := "'" ++ Template.placeholder 1 ++ "'"

/-- The message catalog. -/
def catalog : List MessageEntry :=
  [unsupported 1001 ["linq syntax ", firstQuoted],
   unsupported 1002 ["'case pattern' syntax"],
   unsupported 1003 ["'is pattern' syntax"],
   unsupported 1004 ["'local function' syntax"],
   unsupported 2001 ["'extern event' ", firstQuoted],
   unsupported 2002 ["'extern property' ", firstQuoted],
   unsupported 2003 ["'extern field' ", firstQuoted],
   unsupported 2004 ["'extern method' ", firstQuoted],
   unsupported 2005 ["'extern type from member access' ", firstQuoted],
   unsupported 2006 ["'extern type from invocation's parameters or return' ", firstQuoted],
   unsupported 2007 ["'extern type' ", firstQuoted],
   unsupported 2008 ["conversion from ", firstQuoted, " to ", secondQuoted],
   unsupported 2009 ["local container ", firstQuoted, " passed as extern ", secondQuoted],
   unsupported 3001 ["'extension method' ", firstQuoted]]

/-- The catalog's entry for a code. -/
def find? (code : Nat) : Option MessageEntry :=
  catalog.find? fun entry => entry.code == code

end MessageEntry

/-- The error of a code: the catalog's template filled with `arguments`, or the arguments alone,
separated by blanks, where the catalog does not know the code. -/
def Diagnostic.ofCode (file : String) (node : NodeId) (code : Nat) (arguments : List String) :
    Diagnostic where
  file := file
  node := node
  message :=
    match MessageEntry.find? code with
    | some entry => Template.fill entry.template arguments
    | none => String.intercalate " " arguments
  category := .error
  code := code

/-- What a node can be at fault for. Names are display names of symbols. -/
inductive Violation where
  /-- A query clause that cannot be lowered, by its keyword. -/
  | queryClause (keyword : String)
  | casePattern
  | isPattern
  | localFunction
  /-- Any use of an external event. -/
  | event (name : String)
  /-- A denied external property. -/
  | property (name : String)
  /-- A denied external field. -/
  | field (name : String)
  /-- A denied external method. -/
  | method (name : String)
  /-- The type of an external member. -/
  | memberType (name : String)
  /-- A parameter or return type of an external method. -/
  | signatureType (name : String)
  /-- A type that is constructed or asked for. -/
  | type (name : String)
  /-- A conversion that is not listed. -/
  | conversion (source target : String)
  /-- A program's own container handed over as an external container interface. -/
  | localContainer (container interface : String)
  /-- An external extension method whose host is not listed. -/
  | extensionMethod (name : String)
  deriving DecidableEq, Repr

namespace Violation

/-- The code in the message catalog. -/
def code : Violation → Nat
  | queryClause _ => 1001
  | casePattern => 1002
  | isPattern => 1003
  | localFunction => 1004
  | event _ => 2001
  | property _ => 2002
  | field _ => 2003
  | method _ => 2004
  | memberType _ => 2005
  | signatureType _ => 2006
  | type _ => 2007
  | conversion _ _ => 2008
  | localContainer _ _ => 2009
  | extensionMethod _ => 3001

/-- What the message's placeholders stand for. -/
def arguments : Violation → List String
  | queryClause keyword => [keyword]
  | casePattern | isPattern | localFunction => []
  | event name | property name | field name | method name | memberType name
  | signatureType name | type name | extensionMethod name => [name]
  | conversion source target => [source, target]
  | localContainer container interface => [container, interface]

/-- The diagnostic of a violation at a node. -/
def diagnostic (file : String) (node : NodeId) (violation : Violation) : Diagnostic :=
  Diagnostic.ofCode file node violation.code violation.arguments

/-- Every violation has its message in the catalog. -/
theorem find?_code_isSome (violation : Violation) :
    (MessageEntry.find? violation.code).isSome := by
  cases violation <;> rfl

end Violation

end Portability
