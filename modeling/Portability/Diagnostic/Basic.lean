import Portability.Tree.NodeId

/-!
# Diagnostics

A diagnostic says what is wrong with a node of a source file. It carries a code, which is also
part of its one-line display, and the text of the message.
-/

namespace Portability

/-- How grave a diagnostic is. -/
inductive Category where
  | warning
  | error
  | message
  deriving DecidableEq, Repr, Inhabited

namespace Category

/-- The word for a category in displayed diagnostics. -/
def label : Category → String
  | warning => "warning"
  | error => "error"
  | message => "message"

/-- The names of the categories in documents. -/
instance : Named Category where
  all := [.warning, .error, .message]
  name
    | .warning => "Warning"
    | .error => "Error"
    | .message => "Message"

end Category

/-- A finding on a node of a source file. -/
structure Diagnostic where
  file : String
  node : NodeId
  message : String
  category : Category
  code : Nat
  deriving DecidableEq, Repr, Inhabited

namespace Diagnostic

/-- Whether the category is that of errors. -/
def isError (d : Diagnostic) : Bool :=
  d.category == .error

/-- A diagnostic on one line, `Unit.cs(#3): error CSL2004: message`. -/
def display (d : Diagnostic) : String :=
  d.file ++ "(" ++ d.node.display ++ "): " ++ d.category.label ++ " CSL" ++ toString d.code ++
    ": " ++ d.message

/-- A diagnostic as documents hold it. -/
def toJson (d : Diagnostic) : Json :=
  .object
    [("file", .string d.file),
     ("node", d.node.toJson),
     ("message_text", .string d.message),
     ("category", Named.toJson d.category),
     ("code", Json.nat d.code)]

/-- Reads what `toJson` writes; every field has to be there. -/
def read (value : Json) : Except ReadError Diagnostic := do
  let record ← Json.readRecord ["file", "node", "message_text", "category", "code"] value
  let file ← record.required "file" Json.readText
  let node ← record.required "node" NodeId.read
  let message ← record.required "message_text" Json.readText
  let category ← record.required "category" Named.read
  let code ← record.required "code" (Json.readNatOfBits 32)
  return { file, node, message, category, code }

end Diagnostic

end Portability
