import Portability.Tree.Arena

/-!
# Syntax trees in documents

Every node kind writes its fields in the order of their declaration after the tag `kind`. When
read, fields that are lists may be missing, and so may optional names, passing modes and the few
slots that are often empty. The comments of a node are left out where there are none.
-/

namespace Portability

namespace NodeKind

/-- The names of the fields of a kind, in the order of their declaration. -/
def fieldNames : NodeKind → List String
  | compilationUnit => ["externs", "usings", "attribute_lists", "members"]
  | externAlias => ["name"]
  | usingDirective => ["alias", "name"]
  | namespaceDeclaration => ["name", "externs", "usings", "members"]
  | typeDeclaration => ["keyword", "name", "members"]
  | methodDeclaration | localFunction => ["name", "body"]
  | block => ["statements"]
  | variableDeclaration => ["ty", "declarators"]
  | variableDeclarator => ["name", "initializer"]
  | expressionStatement | returnStatement => ["expression"]
  | switchStatement => ["expression", "sections"]
  | switchSection => ["labels", "statements"]
  | caseLabel => ["value"]
  | casePatternLabel => ["pattern"]
  | identifierName | literal => ["text"]
  | genericName => ["text", "type_arguments"]
  | qualifiedName | assignment => ["left", "right"]
  | predefinedType => ["keyword"]
  | memberAccess => ["expression", "name"]
  | invocation => ["expression", "arguments"]
  | argument => ["name", "ref_kind", "expression"]
  | objectCreation => ["ty", "arguments"]
  | typeOf => ["ty"]
  | cast => ["ty", "expression"]
  | isPattern => ["expression", "pattern"]
  | queryExpression => ["clauses"]
  | queryClause => ["keyword", "expressions"]
  | joinClause => ["identifier", "expressions", "into"]
  | joinIntoClause => ["identifier"]
  | groupClause => ["group", "by"]
  | queryContinuation => ["identifier", "clauses"]
  | verbatim => ["text", "children"]

end NodeKind

namespace NodeData

/-- Handles as an array. -/
def idsToJson (ids : List NodeId) : Json :=
  Json.list NodeId.toJson ids

/-- What the fields of a node hold, in the order of `NodeKind.fieldNames`. -/
def fieldValues : NodeData → List Json
  | compilationUnit externs usings attributeLists members =>
    [idsToJson externs, idsToJson usings, idsToJson attributeLists, idsToJson members]
  | externAlias name => [.string name]
  | usingDirective aliasName name => [Json.option .string aliasName, name.toJson]
  | namespaceDeclaration name externs usings members =>
    [name.toJson, idsToJson externs, idsToJson usings, idsToJson members]
  | typeDeclaration keyword name members => [.string keyword, .string name, idsToJson members]
  | methodDeclaration name body | localFunction name body => [.string name, idsToJson body]
  | block statements => [idsToJson statements]
  | variableDeclaration type declarators => [type.toJson, idsToJson declarators]
  | variableDeclarator name initializer => [.string name, initializer.toJson]
  | expressionStatement expression | returnStatement expression => [expression.toJson]
  | switchStatement expression sections => [expression.toJson, idsToJson sections]
  | switchSection labels statements => [idsToJson labels, idsToJson statements]
  | caseLabel value => [value.toJson]
  | casePatternLabel pattern => [pattern.toJson]
  | identifierName text | literal text => [.string text]
  | genericName text typeArguments => [.string text, idsToJson typeArguments]
  | qualifiedName left right | assignment left right => [left.toJson, right.toJson]
  | predefinedType keyword => [.string keyword]
  | memberAccess expression name => [expression.toJson, name.toJson]
  | invocation expression arguments => [expression.toJson, idsToJson arguments]
  | argument name refKind expression =>
    [Json.option .string name, Named.toJson refKind, expression.toJson]
  | objectCreation type arguments => [type.toJson, idsToJson arguments]
  | typeOf type => [type.toJson]
  | cast type expression => [type.toJson, expression.toJson]
  | isPattern expression pattern => [expression.toJson, pattern.toJson]
  | queryExpression clauses => [idsToJson clauses]
  | queryClause keyword expressions => [.string keyword, idsToJson expressions]
  | joinClause identifier expressions into =>
    [.string identifier, idsToJson expressions, into.toJson]
  | joinIntoClause identifier => [.string identifier]
  | groupClause group key => [group.toJson, key.toJson]
  | queryContinuation identifier clauses => [.string identifier, idsToJson clauses]
  | verbatim text children => [.string text, idsToJson children]

/-- The data of a node as documents hold it. -/
def toJson (data : NodeData) : Json :=
  .object (("kind", Named.toJson data.kind) :: data.kind.fieldNames.zip data.fieldValues)

/-- A node of the given kind from its fields. -/
def ofRecord (kind : NodeKind) (record : Json.Record) : Except ReadError NodeData :=
  let text (field : String) := record.required field Json.readText
  let optionalText (field : String) := record.optional field Json.readText
  let slot (field : String) := record.required field NodeId.read
  let optionalSlot (field : String) := record.withDefault field .none NodeId.read
  let list (field : String) := record.list field NodeId.read
  match kind with
  | .compilationUnit => do
    let externs ← list "externs"
    let usings ← list "usings"
    let attributeLists ← list "attribute_lists"
    let members ← list "members"
    return compilationUnit externs usings attributeLists members
  | .externAlias => return externAlias (← text "name")
  | .usingDirective => return usingDirective (← optionalText "alias") (← slot "name")
  | .namespaceDeclaration => do
    let name ← slot "name"
    let externs ← list "externs"
    let usings ← list "usings"
    let members ← list "members"
    return namespaceDeclaration name externs usings members
  | .typeDeclaration =>
    return typeDeclaration (← text "keyword") (← text "name") (← list "members")
  | .methodDeclaration => return methodDeclaration (← text "name") (← list "body")
  | .localFunction => return localFunction (← text "name") (← list "body")
  | .block => return block (← list "statements")
  | .variableDeclaration => return variableDeclaration (← slot "ty") (← list "declarators")
  | .variableDeclarator =>
    return variableDeclarator (← text "name") (← optionalSlot "initializer")
  | .expressionStatement => return expressionStatement (← slot "expression")
  | .returnStatement => return returnStatement (← optionalSlot "expression")
  | .switchStatement => return switchStatement (← slot "expression") (← list "sections")
  | .switchSection => return switchSection (← list "labels") (← list "statements")
  | .caseLabel => return caseLabel (← slot "value")
  | .casePatternLabel => return casePatternLabel (← slot "pattern")
  | .identifierName => return identifierName (← text "text")
  | .genericName => return genericName (← text "text") (← list "type_arguments")
  | .qualifiedName => return qualifiedName (← slot "left") (← slot "right")
  | .predefinedType => return predefinedType (← text "keyword")
  | .literal => return literal (← text "text")
  | .memberAccess => return memberAccess (← slot "expression") (← slot "name")
  | .invocation => return invocation (← slot "expression") (← list "arguments")
  | .argument => do
    let name ← optionalText "name"
    let refKind ← record.withDefault "ref_kind" .none Named.readInTagged
    let expression ← slot "expression"
    return argument name refKind expression
  | .objectCreation => return objectCreation (← slot "ty") (← list "arguments")
  | .typeOf => return typeOf (← slot "ty")
  | .assignment => return assignment (← slot "left") (← slot "right")
  | .cast => return cast (← slot "ty") (← slot "expression")
  | .isPattern => return isPattern (← slot "expression") (← slot "pattern")
  | .queryExpression => return queryExpression (← list "clauses")
  | .queryClause => return queryClause (← text "keyword") (← list "expressions")
  | .joinClause =>
    return joinClause (← text "identifier") (← list "expressions") (← optionalSlot "into")
  | .joinIntoClause => return joinIntoClause (← text "identifier")
  | .groupClause => return groupClause (← slot "group") (← slot "by")
  | .queryContinuation => return queryContinuation (← text "identifier") (← list "clauses")
  | .verbatim => return verbatim (← text "text") (← list "children")

/-- Reads what `toJson` writes. -/
def read (value : Json) : Except ReadError NodeData := do
  let (tag, content) ← Json.readTagged "kind" value
  match (Named.ofName? tag : Option NodeKind) with
  | none => throw (.unknownName tag)
  | some kind => ofRecord kind (← Json.readRecord kind.fieldNames content)

end NodeData

namespace Node

/-- A node as documents hold it. -/
def toJson (node : Node) : Json :=
  .object <| ("data", node.data.toJson) ::
    if node.leadingComments.isEmpty then []
    else [("leading_comments", Json.strings node.leadingComments)]

/-- Reads what `toJson` writes. -/
def read (value : Json) : Except ReadError Node := do
  let record ← Json.readRecord ["data", "leading_comments"] value
  let data ← record.required "data" NodeData.read
  let leadingComments ← record.list "leading_comments" Json.readText
  return { data, leadingComments }

end Node

namespace NodeArena

/-- An arena as documents hold it. -/
def toJson (arena : NodeArena) : Json :=
  .object [("nodes", Json.list Node.toJson arena.nodes.toList)]

/-- Reads what `toJson` writes. -/
def read (value : Json) : Except ReadError NodeArena := do
  let record ← Json.readRecord ["nodes"] value
  let nodes ← record.required "nodes" (Json.readList Node.read)
  return { nodes := nodes.toArray }

end NodeArena

end Portability
