import Portability.ArgumentPlan
import Portability.Pass.State

/-!
# Checks of a pass

Each check inspects a node: whether it is a construct that can be lowered at all, and what the
policy does not allow of the external symbols it uses. Nodes are asked for by their handles from
before the pass, while faults are found with the nodes that stand in their place.
-/

namespace Portability

namespace PassContext

open Inspection (blame blameIf require unlessAllowed)

variable (context : PassContext)

/-! ### Constructs -/

/-- The query clauses that cannot be lowered, and the other constructs that cannot be either. -/
def unsupported? : NodeData → Option Violation
  | .joinClause .. => some (.queryClause "join")
  | .joinIntoClause .. => some (.queryClause "join into")
  | .groupClause .. => some (.queryClause "group")
  | .queryContinuation .. => some (.queryClause "into")
  | .isPattern .. => some .isPattern
  | .casePatternLabel .. => some .casePattern
  | .localFunction .. => some .localFunction
  | _ => none

/-- Finds fault with a construct that cannot be lowered. -/
def checkConstruct (id : NodeId) (data : NodeData) : Inspection Unit :=
  match unsupported? data with
  | some violation => blame id violation
  | none => pure ()

/-! ### Types and conversions -/

/-- Finds fault with a type that may not be constructed or asked for. -/
def checkTypeUse (id typeNode : NodeId) : Inspection Unit :=
  let named := (context.model.symbolOf typeNode).filter fun symbol =>
    (context.model.symbols.type? symbol).isSome
  match named.or (context.model.typeOf id) with
  | none => pure ()
  | some type =>
    require (context.judge.allowsType type .general) id
      (.type (context.model.symbols.displayName type))

/-- Finds fault with a conversion that is not listed. Nothing is known where a side has no type. -/
def checkConversion (id : NodeId) (source target : Option SymbolId) : Inspection Unit :=
  match source, target with
  | some source, some target =>
    require (context.judge.allowsConversion source target) id
      (.conversion (context.model.symbols.displayName source)
        (context.model.symbols.displayName target))
  | _, _ => pure ()

/-- Whether a cast is a conversion that the program defines. -/
def isUserConversion (cast : NodeId) : Bool :=
  match (context.model.symbolOf cast).bind context.model.symbols.method? with
  | some method => method.kind == .conversion
  | none => false

/-- Checks what a node does with types. -/
def checkTypes (id : NodeId) : NodeData → Inspection Unit
  | .objectCreation type _ | .typeOf type => context.checkTypeUse id type
  | .variableDeclarator _ initializer =>
    if initializer.isSome then
      context.checkConversion id (context.model.typeOf initializer) (context.model.typeOf id)
    else pure ()
  | .assignment left right =>
    context.checkConversion id (context.model.typeOf right) (context.model.typeOf left)
  | .cast type expression =>
    if context.isUserConversion id then pure ()
    else
      let target := (context.model.symbolOf type).or (context.model.typeOf id)
      context.checkConversion id (context.model.typeOf expression) target
  | _ => pure ()

/-! ### Member accesses -/

/-- Finds fault with the type of an external member, unless the members of its host are exempt. -/
def checkMemberType (id reportOn : NodeId) (member : MemberSymbol) : Inspection Unit :=
  let type := (context.model.typeOf id).getD member.type
  unlessAllowed (context.judge.isExemptHost member.containingType)
    (require (context.judge.allowsType type .parameter) reportOn
      (.memberType (context.model.symbols.displayName type)))

/-- Finds fault with the access to an external member: any event, a denied property or field, and a
denied method that is not called. -/
def checkMemberAccess (id reportOn : NodeId) (isCallee : Bool) : Inspection Unit := do
  let symbols := context.model.symbols
  match context.model.symbolOf id with
  | none => return
  | some symbol =>
    let isExternal := context.judge.isExternal symbol
    let name := symbols.memberName symbol
    match symbols.get? symbol with
    | some (.event member) =>
      if isExternal then
        blame reportOn (.event name)
        context.checkMemberType id reportOn member
    | some (.property member) =>
      if isExternal then
        blameIf (context.judge.deniesProperty symbol) reportOn (.property name)
        context.checkMemberType id reportOn member
    | some (.field member) =>
      if isExternal then
        blameIf (context.judge.deniesField symbol) reportOn (.field name)
        context.checkMemberType id reportOn member
    | some (.method method) =>
      if !isCallee && context.judge.isExternal method.containingType then
        blameIf (context.judge.deniesMethod symbol) reportOn (.method name)
    | _ => return

/-! ### Invocations -/

/-- The method that an invocation calls: what the invocation resolves to or else its callee, if
that is a method. -/
def calledMethod? (id callee : NodeId) : Option SymbolId :=
  ((context.model.symbolOf id).or (context.model.symbolOf callee)).filter fun symbol =>
    (context.model.symbols.method? symbol).isSome

/-- The receiver of an extension method that is called like a member. A call through the declaring
type has none. -/
def extensionReceiver? (arena : NodeArena) (method : SymbolId) (callee : NodeId) :
    Option NodeId :=
  match context.model.symbols.method? method, arena.data? callee with
  | some extension, some (.memberAccess receiver _) =>
    let isTypeName :=
      match (context.model.symbolOf receiver).bind context.model.symbols.get? with
      | some symbol => symbol.isType
      | none => false
    if extension.isExtension && !isTypeName then some receiver else none
  | _, _ => none

/-- The method that an invocation calls, and what its parameters are given. -/
def plannedCall? (arena : NodeArena) (id callee : NodeId) (arguments : List NodeId) :
    Option (SymbolId × ArgumentPlan) :=
  (context.calledMethod? id callee).map fun symbol =>
    let receiver := context.extensionReceiver? arena symbol callee
    (symbol, ArgumentPlan.ofCall context.model arena symbol receiver arguments)

/-- Finds fault with an external method that may not be called. -/
def checkCallee (id : NodeId) (symbol : SymbolId) (method : MethodSymbol) : Inspection Unit :=
  let name := context.model.symbols.memberName symbol
  if method.isExtension then
    require (context.judge.allowsExtension symbol) id (.extensionMethod name)
  else
    blameIf (context.judge.deniesMethod symbol) id (.method name)

/-- Whether a call is exempt from the checks of the types it mentions: the method's host is, or the
method is generic and listed. -/
def isExemptCall (symbol : SymbolId) (method : MethodSymbol) : Checked Bool := do
  if ← context.judge.isExemptHost method.containingType then return true
  else if method.isGeneric then context.judge.allowsGenericMethod symbol
  else return false

/-- Finds fault with a type of a signature that may not be used. -/
def checkSignatureType (id : NodeId) (type : SymbolId) : Inspection Unit :=
  require (context.judge.allowsType type .parameter) id
    (.signatureType (context.model.symbols.displayName type))

/-- Whether a symbol is a type of the program's own that is no interface. -/
def isLocalContainer (type : SymbolId) : Bool :=
  match context.model.symbols.type? type with
  | some t => !t.isInterface && !context.judge.isExternal type
  | none => false

/-- Finds fault with an argument of one of the program's own types for a container interface. -/
def checkContainer (id : NodeId) (plan : ArgumentPlan) (position : Nat) (parameter : Parameter) :
    Inspection Unit := do
  if context.judge.isSystemContainerInterface parameter.type then
    match (plan.sourceExpression? position).bind context.model.typeOf with
    | none => return
    | some type =>
      if context.isLocalContainer type then
        blame id (.localContainer (context.model.symbols.displayName type)
          (context.model.symbols.displayName parameter.type))

/-- Finds fault with the types that a call mentions: those of the signature, and then those of the
arguments for container interfaces. -/
def checkSignature (id : NodeId) (method : MethodSymbol) (plan : ArgumentPlan) :
    Inspection Unit := do
  let signature := method.parameters.map (·.type) ++ method.returnType.toList
  signature.forM (context.checkSignatureType id)
  method.parameters.zipIdx.forM fun (parameter, position) =>
    context.checkContainer id plan position parameter

/-- Finds out what is wrong with the call of a method. -/
def checkInvocation (id : NodeId) (symbol : SymbolId) (plan : ArgumentPlan) :
    Inspection Unit := do
  match context.model.symbols.method? symbol with
  | none => return
  | some method =>
    if context.judge.isExternal symbol then
      context.checkCallee id symbol method
      unlessAllowed (context.isExemptCall symbol method)
        (context.checkSignature id method plan)

end PassContext

end Portability
