import Portability.RefKind
import Portability.Tree.NodeId

/-!
# Nodes of syntax trees

A node holds its data and the comments in front of it. The data is one of 36 kinds; constructs the
check never looks into are `verbatim`, source text with children.

The children of a node stand in *slots*. `NodeData.slots` lists them in source order, empty ones
included, and `NodeData.withSlots` puts other handles into the same slots; together they are how
every pass walks and relinks a tree:

* `NodeData.withSlots_slots`: putting back what was there changes nothing,
* `NodeData.slots_withSlots`: what is put into the slots is what they hold.
-/

namespace Portability

/-- The kinds of nodes. -/
inductive NodeKind where
  | compilationUnit | externAlias | usingDirective | namespaceDeclaration | typeDeclaration
  | methodDeclaration | localFunction
  | block | variableDeclaration | variableDeclarator | expressionStatement | returnStatement
  | switchStatement | switchSection | caseLabel | casePatternLabel
  | identifierName | genericName | qualifiedName | predefinedType
  | literal | memberAccess | invocation | argument | objectCreation | typeOf | assignment | cast
  | isPattern
  | queryExpression | queryClause | joinClause | joinIntoClause | groupClause | queryContinuation
  | verbatim
  deriving DecidableEq, Repr, Inhabited

/-- The names of the kinds of nodes in documents. -/
instance : Named NodeKind where
  all :=
    [.compilationUnit, .externAlias, .usingDirective, .namespaceDeclaration, .typeDeclaration,
     .methodDeclaration, .localFunction,
     .block, .variableDeclaration, .variableDeclarator, .expressionStatement, .returnStatement,
     .switchStatement, .switchSection, .caseLabel, .casePatternLabel,
     .identifierName, .genericName, .qualifiedName, .predefinedType,
     .literal, .memberAccess, .invocation, .argument, .objectCreation, .typeOf, .assignment, .cast,
     .isPattern,
     .queryExpression, .queryClause, .joinClause, .joinIntoClause, .groupClause,
     .queryContinuation,
     .verbatim]
  name
    | .compilationUnit => "CompilationUnit"
    | .externAlias => "ExternAlias"
    | .usingDirective => "UsingDirective"
    | .namespaceDeclaration => "NamespaceDeclaration"
    | .typeDeclaration => "TypeDeclaration"
    | .methodDeclaration => "MethodDeclaration"
    | .localFunction => "LocalFunction"
    | .block => "Block"
    | .variableDeclaration => "VariableDeclaration"
    | .variableDeclarator => "VariableDeclarator"
    | .expressionStatement => "ExpressionStatement"
    | .returnStatement => "Return"
    | .switchStatement => "Switch"
    | .switchSection => "SwitchSection"
    | .caseLabel => "CaseLabel"
    | .casePatternLabel => "CasePatternLabel"
    | .identifierName => "IdentifierName"
    | .genericName => "GenericName"
    | .qualifiedName => "QualifiedName"
    | .predefinedType => "PredefinedType"
    | .literal => "Literal"
    | .memberAccess => "MemberAccess"
    | .invocation => "Invocation"
    | .argument => "Argument"
    | .objectCreation => "ObjectCreation"
    | .typeOf => "TypeOf"
    | .assignment => "Assignment"
    | .cast => "Cast"
    | .isPattern => "IsPattern"
    | .queryExpression => "QueryExpression"
    | .queryClause => "QueryClause"
    | .joinClause => "JoinClause"
    | .joinIntoClause => "JoinIntoClause"
    | .groupClause => "GroupClause"
    | .queryContinuation => "QueryContinuation"
    | .verbatim => "Opaque"

/-- What a node is. -/
inductive NodeData where
  | compilationUnit (externs usings attributeLists members : List NodeId)
  /-- `extern alias Name;` -/
  | externAlias (name : String)
  /-- `using Name;` or `using Alias = Name;` -/
  | usingDirective (aliasName : Option String) (name : NodeId)
  | namespaceDeclaration (name : NodeId) (externs usings members : List NodeId)
  /-- A class, a structure, an interface, an enumeration or a delegate. -/
  | typeDeclaration (keyword name : String) (members : List NodeId)
  | methodDeclaration (name : String) (body : List NodeId)
  /-- A function inside a method; it cannot be lowered. -/
  | localFunction (name : String) (body : List NodeId)
  | block (statements : List NodeId)
  | variableDeclaration (type : NodeId) (declarators : List NodeId)
  /-- One declared name; the initializer may be missing. -/
  | variableDeclarator (name : String) (initializer : NodeId)
  | expressionStatement (expression : NodeId)
  /-- The expression may be missing. -/
  | returnStatement (expression : NodeId)
  | switchStatement (expression : NodeId) (sections : List NodeId)
  | switchSection (labels statements : List NodeId)
  | caseLabel (value : NodeId)
  /-- `case Type name when condition:`; it cannot be lowered. -/
  | casePatternLabel (pattern : NodeId)
  | identifierName (text : String)
  | genericName (text : String) (typeArguments : List NodeId)
  | qualifiedName (left right : NodeId)
  | predefinedType (keyword : String)
  | literal (text : String)
  | memberAccess (expression name : NodeId)
  | invocation (expression : NodeId) (arguments : List NodeId)
  /-- An argument, possibly given by name. -/
  | argument (name : Option String) (refKind : RefKind) (expression : NodeId)
  | objectCreation (type : NodeId) (arguments : List NodeId)
  | typeOf (type : NodeId)
  | assignment (left right : NodeId)
  | cast (type expression : NodeId)
  /-- `expression is Type name`; it cannot be lowered. -/
  | isPattern (expression pattern : NodeId)
  | queryExpression (clauses : List NodeId)
  /-- `from`, `where`, `select`, `orderby` or `let`. -/
  | queryClause (keyword : String) (expressions : List NodeId)
  | joinClause (identifier : String) (expressions : List NodeId) (into : NodeId)
  | joinIntoClause (identifier : String)
  | groupClause (group key : NodeId)
  | queryContinuation (identifier : String) (clauses : List NodeId)
  /-- Anything else, by its source text. -/
  | verbatim (text : String) (children : List NodeId)
  deriving DecidableEq, Repr, Inhabited

namespace NodeData

/-- The kind of a node. -/
def kind : NodeData → NodeKind
  | compilationUnit .. => .compilationUnit
  | externAlias .. => .externAlias
  | usingDirective .. => .usingDirective
  | namespaceDeclaration .. => .namespaceDeclaration
  | typeDeclaration .. => .typeDeclaration
  | methodDeclaration .. => .methodDeclaration
  | localFunction .. => .localFunction
  | block .. => .block
  | variableDeclaration .. => .variableDeclaration
  | variableDeclarator .. => .variableDeclarator
  | expressionStatement .. => .expressionStatement
  | returnStatement .. => .returnStatement
  | switchStatement .. => .switchStatement
  | switchSection .. => .switchSection
  | caseLabel .. => .caseLabel
  | casePatternLabel .. => .casePatternLabel
  | identifierName .. => .identifierName
  | genericName .. => .genericName
  | qualifiedName .. => .qualifiedName
  | predefinedType .. => .predefinedType
  | literal .. => .literal
  | memberAccess .. => .memberAccess
  | invocation .. => .invocation
  | argument .. => .argument
  | objectCreation .. => .objectCreation
  | typeOf .. => .typeOf
  | assignment .. => .assignment
  | cast .. => .cast
  | isPattern .. => .isPattern
  | queryExpression .. => .queryExpression
  | queryClause .. => .queryClause
  | joinClause .. => .joinClause
  | joinIntoClause .. => .joinIntoClause
  | groupClause .. => .groupClause
  | queryContinuation .. => .queryContinuation
  | verbatim .. => .verbatim

/-- Whether a node declares a namespace. -/
def isNamespace : NodeData → Bool
  | namespaceDeclaration .. => true
  | _ => false

/-- Whether a node is a name that can stand on the right of a qualified name. -/
def isSimpleName : NodeData → Bool
  | identifierName .. | genericName .. => true
  | _ => false

/-! ### Slots -/

/-- The slots for children in source order, empty ones included. -/
def slots : NodeData → List NodeId
  | compilationUnit externs usings attributeLists members =>
    externs ++ usings ++ attributeLists ++ members
  | usingDirective _ name => [name]
  | namespaceDeclaration name externs usings members => name :: (externs ++ usings ++ members)
  | typeDeclaration _ _ members => members
  | methodDeclaration _ body | localFunction _ body => body
  | block statements => statements
  | variableDeclaration type declarators => type :: declarators
  | variableDeclarator _ initializer => [initializer]
  | expressionStatement expression | returnStatement expression => [expression]
  | switchStatement expression sections => expression :: sections
  | switchSection labels statements => labels ++ statements
  | caseLabel value => [value]
  | casePatternLabel pattern => [pattern]
  | genericName _ typeArguments => typeArguments
  | qualifiedName left right => [left, right]
  | memberAccess expression name => [expression, name]
  | invocation expression arguments => expression :: arguments
  | argument _ _ expression => [expression]
  | objectCreation type arguments => type :: arguments
  | typeOf type => [type]
  | assignment left right => [left, right]
  | cast type expression => [type, expression]
  | isPattern expression pattern => [expression, pattern]
  | queryExpression clauses | queryContinuation _ clauses => clauses
  | queryClause _ expressions => expressions
  | joinClause _ expressions into => expressions ++ [into]
  | groupClause group key => [group, key]
  | verbatim _ children => children
  | externAlias _ | identifierName _ | predefinedType _ | literal _ | joinIntoClause _ => []

/-- The same node with other handles in its slots, which are as many as before and in the order of
`slots`. -/
def withSlots (data : NodeData) (ids : List NodeId) : NodeData :=
  match data with
  | compilationUnit externs usings attributeLists _ =>
    let afterExterns := ids.drop externs.length
    let afterUsings := afterExterns.drop usings.length
    compilationUnit (ids.take externs.length) (afterExterns.take usings.length)
      (afterUsings.take attributeLists.length) (afterUsings.drop attributeLists.length)
  | usingDirective aliasName _ => usingDirective aliasName (ids.headD .none)
  | namespaceDeclaration _ externs usings _ =>
    let lists := ids.tail
    let afterExterns := lists.drop externs.length
    namespaceDeclaration (ids.headD .none) (lists.take externs.length)
      (afterExterns.take usings.length) (afterExterns.drop usings.length)
  | typeDeclaration keyword name _ => typeDeclaration keyword name ids
  | methodDeclaration name _ => methodDeclaration name ids
  | localFunction name _ => localFunction name ids
  | block _ => block ids
  | variableDeclaration _ _ => variableDeclaration (ids.headD .none) ids.tail
  | variableDeclarator name _ => variableDeclarator name (ids.headD .none)
  | expressionStatement _ => expressionStatement (ids.headD .none)
  | returnStatement _ => returnStatement (ids.headD .none)
  | switchStatement _ _ => switchStatement (ids.headD .none) ids.tail
  | switchSection labels _ => switchSection (ids.take labels.length) (ids.drop labels.length)
  | caseLabel _ => caseLabel (ids.headD .none)
  | casePatternLabel _ => casePatternLabel (ids.headD .none)
  | genericName text _ => genericName text ids
  | qualifiedName _ _ => qualifiedName (ids.headD .none) (ids.tail.headD .none)
  | memberAccess _ _ => memberAccess (ids.headD .none) (ids.tail.headD .none)
  | invocation _ _ => invocation (ids.headD .none) ids.tail
  | argument name refKind _ => argument name refKind (ids.headD .none)
  | objectCreation _ _ => objectCreation (ids.headD .none) ids.tail
  | typeOf _ => typeOf (ids.headD .none)
  | assignment _ _ => assignment (ids.headD .none) (ids.tail.headD .none)
  | cast _ _ => cast (ids.headD .none) (ids.tail.headD .none)
  | isPattern _ _ => isPattern (ids.headD .none) (ids.tail.headD .none)
  | queryExpression _ => queryExpression ids
  | queryClause keyword _ => queryClause keyword ids
  | joinClause identifier expressions _ =>
    joinClause identifier (ids.take expressions.length) ((ids.drop expressions.length).headD .none)
  | groupClause _ _ => groupClause (ids.headD .none) (ids.tail.headD .none)
  | queryContinuation identifier _ => queryContinuation identifier ids
  | verbatim text _ => verbatim text ids
  | externAlias _ | identifierName _ | predefinedType _ | literal _ | joinIntoClause _ => data

/-- The children of a node in source order. -/
def children (data : NodeData) : List NodeId :=
  data.slots.filter NodeId.isSome

/-- The same node with `f` applied to every child; empty slots stay empty. -/
def mapChildren (f : NodeId → NodeId) (data : NodeData) : NodeData :=
  data.withSlots (data.slots.map fun slot => if slot.isNone then slot else f slot)

/-- Putting back what the slots hold changes nothing. -/
theorem withSlots_slots (data : NodeData) : data.withSlots data.slots = data := by
  cases data <;> simp [slots, withSlots]

/-- The slots hold what was put into them. -/
theorem slots_withSlots {data : NodeData} {ids : List NodeId}
    (h : ids.length = data.slots.length) : (data.withSlots ids).slots = ids := by
  cases data
  case compilationUnit => simp only [slots, withSlots, List.append_assoc, List.take_append_drop]
  case namespaceDeclaration =>
    rcases ids with _ | ⟨first, rest⟩
    · simp [slots] at h
    · simp only [slots, withSlots, List.append_assoc, List.take_append_drop, List.headD_cons,
        List.tail_cons]
  case joinClause identifier expressions into =>
    have : (ids.drop expressions.length).length = 1 := by simp_all [slots]
    obtain ⟨last, hlast⟩ := List.length_eq_one_iff.1 this
    have := List.take_append_drop expressions.length ids
    simpa [slots, withSlots, hlast] using this
  all_goals
    rcases ids with _ | ⟨first, _ | ⟨second, rest⟩⟩ <;> simp_all [slots, withSlots]

end NodeData

/-- A node: its data, and the comments in front of it from the outside in. -/
structure Node where
  data : NodeData
  leadingComments : List String := []
  deriving DecidableEq, Repr, Inhabited

end Portability
