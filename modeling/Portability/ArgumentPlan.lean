import Portability.Program.Model

/-!
# Argument plans

The target language knows neither named nor optional arguments, so a call is spelled out as one
slot per declared parameter, in the order of the declaration:

```text
void f(int a, int b = 5, int c = 7);
f(1, c: 9)     1, the default 5, 9
```

Arguments that no parameter takes follow as surplus, so nothing is dropped from a method's call. A
default value is resolved where the parameter is declared; where that cannot be done the constant
alone is known.
-/

namespace Portability

/-- What a parameter is given. -/
inductive ArgumentSlot where
  /-- An argument by its position. -/
  | positional (expression : NodeId)
  /-- An argument by its name. -/
  | named (expression : NodeId)
  /-- The default value, resolved where it is declared. -/
  | resolvedDefault (value : Constant) (expression : ResolvedExpression)
  /-- The default value, as a constant only. -/
  | constantDefault (value : Constant)
  /-- An argument that the call assigns to. -/
  | outPlaceholder (source : NodeId)
  /-- All that is left for a parameter that takes any number of arguments. -/
  | paramsArray (elements : List NodeId)
  /-- Neither an argument nor a default value. -/
  | missing (parameter : Nat)
  deriving DecidableEq, Repr

namespace ArgumentSlot

/-- The one expression that fills a slot. -/
def source? : ArgumentSlot → Option NodeId
  | positional expression | named expression | outPlaceholder expression => some expression
  | _ => none

/-- All expressions that a slot holds. -/
def expressions : ArgumentSlot → List NodeId
  | positional expression | named expression | outPlaceholder expression => [expression]
  | paramsArray elements => elements
  | resolvedDefault _ _ | constantDefault _ | missing _ => []

end ArgumentSlot

/-- An argument that is given by name. -/
structure NamedArgument where
  name : String
  expression : NodeId
  deriving DecidableEq, Repr, Inhabited

/-- The slots of a call. -/
structure ArgumentPlan where
  /-- One slot for each declared parameter. -/
  bound : List ArgumentSlot := []
  /-- The arguments that no parameter takes. -/
  surplus : List ArgumentSlot := []
  deriving DecidableEq, Repr

namespace ArgumentPlan

/-- The slots of the parameters and then the surplus. -/
def slots (plan : ArgumentPlan) : List ArgumentSlot :=
  plan.bound ++ plan.surplus

/-- The number of declared parameters. -/
def parameterCount (plan : ArgumentPlan) : Nat :=
  plan.bound.length

/-- The one expression that a parameter is given. -/
def sourceExpression? (plan : ArgumentPlan) (parameter : Nat) : Option NodeId :=
  plan.bound[parameter]?.bind ArgumentSlot.source?

/-- The arguments of a call that are given by position, and those given by name. A node that is no
argument stands for itself. -/
def splitArguments (arena : NodeArena) : List NodeId → List NodeId × List NamedArgument
  | [] => ([], [])
  | id :: rest =>
    let (positional, named) := splitArguments arena rest
    match arena.data? id with
    | some (.argument (some name) _ expression) =>
      (positional, { name, expression } :: named)
    | some (.argument none _ expression) => (expression :: positional, named)
    | _ => (id :: positional, named)

/-- The first argument with a name, and the arguments without it. -/
def takeNamed? (name : String) : List NamedArgument → Option (NodeId × List NamedArgument)
  | [] => none
  | argument :: rest =>
    if argument.name = name then some (argument.expression, rest)
    else (takeNamed? name rest).map fun (expression, others) => (expression, argument :: others)

/-- The slot of a parameter that is given no argument. -/
def defaultSlot (model : SemanticModel) (method : SymbolId) (position : Nat)
    (parameter : Parameter) : ArgumentSlot :=
  match parameter.defaultValue with
  | none => .missing position
  | some value =>
    let resolved := (model.defaultValueText method position).bind (model.resolveInScope method)
    match resolved with
    | some expression => .resolvedDefault value expression
    | none => .constantDefault value

/-- The slot of one parameter, and the arguments that are left. Positional arguments are taken
first. A parameter for any number of arguments takes all positional ones, or else one that is given
by its name. -/
def takeSlot (model : SemanticModel) (method : SymbolId) (position : Nat) (parameter : Parameter)
    (positional : List NodeId) (named : List NamedArgument) :
    ArgumentSlot × List NodeId × List NamedArgument :=
  let isOut := parameter.refKind == .out
  match positional, takeNamed? parameter.name named with
  | first :: others, _ =>
    if parameter.isParams then (.paramsArray (first :: others), [], named)
    else if isOut then (.outPlaceholder first, others, named)
    else (.positional first, others, named)
  | [], some (expression, others) =>
    if parameter.isParams then (.paramsArray [expression], [], others)
    else if isOut then (.outPlaceholder expression, [], others)
    else (.named expression, [], others)
  | [], none =>
    if parameter.isParams then (.paramsArray [], [], named)
    else (defaultSlot model method position parameter, [], named)

/-- Gives the parameters from a position on what is left of the arguments. -/
def bindFrom (model : SemanticModel) (method : SymbolId) (position : Nat) :
    List Parameter → List NodeId → List NamedArgument → ArgumentPlan
  | [], positional, named =>
    { surplus := positional.map .positional ++ named.map fun argument => .named argument.expression }
  | parameter :: rest, positional, named =>
    let (slot, positional, named) := takeSlot model method position parameter positional named
    let plan := bindFrom model method (position + 1) rest positional named
    { plan with bound := slot :: plan.bound }

/-- The plan of a call. The receiver of an extension method that is called like a member is its
first positional argument. Without a method there is only surplus, and arguments given by name have
no place in it. -/
def ofCall (model : SemanticModel) (arena : NodeArena) (method : SymbolId)
    (receiver : Option NodeId) (arguments : List NodeId) : ArgumentPlan :=
  let (positional, named) := splitArguments arena arguments
  let positional := receiver.toList ++ positional
  match model.symbols.method? method with
  | none => { surplus := positional.map .positional }
  | some callee => bindFrom model method 0 callee.parameters positional named

end ArgumentPlan

end Portability
