import Portability.Tree.Arena

/-!
# Spelling of nodes

Names and simple expressions are spelled as the source would spell them; declarations and
statements by the name of their kind.

The nodes on a path from a name downwards differ from each other unless the name contains itself,
so a spelling never goes deeper than the arena has nodes.
-/

namespace Portability

namespace NodeArena

/-- Texts with a comma and a blank between neighbours. -/
def commaSeparated (texts : List String) : String :=
  String.intercalate ", " texts

/-- The spelling of a node down to `depth` levels. A missing node is spelled by nothing. -/
def spellTo (arena : NodeArena) : Nat → NodeId → String
  | 0, _ => ""
  | depth + 1, id =>
    let spell := arena.spellTo depth
    match arena.data? id with
    | none => ""
    | some (.identifierName text) => text
    | some (.literal text) => text
    | some (.predefinedType keyword) => keyword
    | some (.genericName text typeArguments) =>
      if typeArguments.isEmpty then text
      else text ++ "<" ++ commaSeparated (typeArguments.map spell) ++ ">"
    | some (.qualifiedName left right) => spell left ++ "." ++ spell right
    | some (.memberAccess expression name) => spell expression ++ "." ++ spell name
    | some (.invocation expression arguments) =>
      spell expression ++ "(" ++ commaSeparated (arguments.map spell) ++ ")"
    | some (.argument name refKind expression) =>
      let label := match name with
        | some name => name ++ ": "
        | none => ""
      label ++ refKind.keyword ++ spell expression
    | some (.objectCreation type arguments) =>
      "new " ++ spell type ++ "(" ++ commaSeparated (arguments.map spell) ++ ")"
    | some (.typeOf type) => "typeof(" ++ spell type ++ ")"
    | some (.cast type expression) => "(" ++ spell type ++ ")" ++ spell expression
    | some (.assignment left right) => spell left ++ " = " ++ spell right
    | some (.verbatim text _) => text
    | some data => Named.name data.kind

/-- The spelling of a node. -/
def spell (arena : NodeArena) (id : NodeId) : String :=
  arena.spellTo arena.size id

end NodeArena

end Portability
