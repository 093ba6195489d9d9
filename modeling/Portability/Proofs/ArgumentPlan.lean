import Mathlib.Data.List.Forall2
import Mathlib.Data.List.Perm.Basic
import Portability.ArgumentPlan

/-!
# What becomes of the arguments of a call

Parameters take arguments one after the other: by position as long as there are any, then by name.
One parameter either takes the next argument by position (`takeSlot_cons`), all of them
(`takeSlot_of_isParams`), or none, and then it takes what is given by its name or nothing
(`takeSlot_nil`). What one step keeps together is kept by a whole plan, first for the parameters
that are left when no argument is (`givesByName_bindFrom`) and from there for all of them
(`givesOut_bindFrom`).

So a plan neither loses an argument nor uses one twice: `ofCall_givesOut`.
-/

namespace Portability

namespace NodeArena

/-- The name that a node among the arguments of a call is given by. -/
def givenName? (arena : NodeArena) (id : NodeId) : Option String :=
  match arena.data? id with
  | some (.argument name _ _) => name
  | _ => none

/-- The expression that a node among the arguments of a call supplies. A node that is no argument
supplies itself. -/
def supplied (arena : NodeArena) (id : NodeId) : NodeId :=
  match arena.data? id with
  | some (.argument _ _ expression) => expression
  | _ => id

/-- The expressions that a call supplies by position, its receiver first. -/
def positionalOf (arena : NodeArena) (receiver : Option NodeId) (arguments : List NodeId) :
    List NodeId :=
  receiver.toList ++ (arguments.filter fun id => (arena.givenName? id).isNone).map arena.supplied

/-- The arguments that a call supplies by name. -/
def namedOf (arena : NodeArena) (arguments : List NodeId) : List NamedArgument :=
  arguments.filterMap fun id =>
    (arena.givenName? id).map fun name => { name, expression := arena.supplied id }

end NodeArena

namespace ArgumentSlot

/-- Whether a slot is one of those that a parameter can have in its position. -/
inductive Serves (position : Nat) (parameter : Parameter) : ArgumentSlot → Prop
  | paramsArray (elements : List NodeId) (h : parameter.isParams) :
      Serves position parameter (.paramsArray elements)
  | outPlaceholder (source : NodeId) (h : parameter.isParams = false)
      (hout : parameter.refKind = .out) : Serves position parameter (.outPlaceholder source)
  | positional (expression : NodeId) (h : parameter.isParams = false)
      (hin : parameter.refKind ≠ .out) : Serves position parameter (.positional expression)
  | named (expression : NodeId) (h : parameter.isParams = false)
      (hin : parameter.refKind ≠ .out) : Serves position parameter (.named expression)
  | resolvedDefault {value : Constant} (expression : ResolvedExpression)
      (h : parameter.isParams = false) (hvalue : parameter.defaultValue = some value) :
      Serves position parameter (.resolvedDefault value expression)
  | constantDefault {value : Constant} (h : parameter.isParams = false)
      (hvalue : parameter.defaultValue = some value) :
      Serves position parameter (.constantDefault value)
  | missing (h : parameter.isParams = false) (hvalue : parameter.defaultValue = none) :
      Serves position parameter (.missing position)

/-- A slot that is filled by an expression has that one alone. -/
theorem expressions_of_source? {slot : ArgumentSlot} {expression : NodeId}
    (h : slot.source? = some expression) : slot.expressions = [expression] := by
  cases slot <;> simp_all [source?, expressions]

end ArgumentSlot

namespace ArgumentPlan

variable {model : SemanticModel} {arena : NodeArena} {method : SymbolId} {position : Nat}
  {parameter : Parameter} {parameters : List Parameter}
  {positional : List NodeId} {named : List NamedArgument}

/-! ### The arguments of a call -/

/-- The first argument of a call is one by name or one by position. -/
theorem splitArguments_cons (id : NodeId) (rest : List NodeId) :
    splitArguments arena (id :: rest) =
      let others := splitArguments arena rest
      match arena.givenName? id with
      | some name => (others.1, { name, expression := arena.supplied id } :: others.2)
      | none => (arena.supplied id :: others.1, others.2) := by
  cases hdata : arena.data? id with
  | none => simp [splitArguments, NodeArena.givenName?, NodeArena.supplied, hdata]
  | some data =>
      cases data
      case argument name refKind expression =>
        cases name <;> simp [splitArguments, NodeArena.givenName?, NodeArena.supplied, hdata]
      all_goals simp [splitArguments, NodeArena.givenName?, NodeArena.supplied, hdata]

/-- What is given by position are the arguments without a name, in their order. -/
theorem splitArguments_fst (arguments : List NodeId) :
    (splitArguments arena arguments).1 = arena.positionalOf none arguments := by
  induction arguments with
  | nil => rfl
  | cons id rest ih =>
      rw [splitArguments_cons]
      cases hname : arena.givenName? id <;> simp_all [NodeArena.positionalOf]

/-- What is given by name are the arguments that have one, in their order. -/
theorem splitArguments_snd (arguments : List NodeId) :
    (splitArguments arena arguments).2 = arena.namedOf arguments := by
  induction arguments with
  | nil => rfl
  | cons id rest ih =>
      rw [splitArguments_cons]
      cases hname : arena.givenName? id <;> simp_all [NodeArena.namedOf]

/-- What is supplied by position and what by name is all that is supplied. -/
theorem perm_positionalOf_namedOf (receiver : Option NodeId) (arguments : List NodeId) :
    (arena.positionalOf receiver arguments ++
      (arena.namedOf arguments).map NamedArgument.expression).Perm
      (receiver.toList ++ arguments.map arena.supplied) := by
  rw [NodeArena.positionalOf, List.append_assoc]
  refine List.Perm.append_left _ ?_
  induction arguments with
  | nil => rfl
  | cons id rest ih =>
      cases hname : arena.givenName? id with
      | none => simpa [NodeArena.namedOf, hname] using ih
      | some name =>
          have hmiddle := ih.cons (arena.supplied id)
          simp only [NodeArena.namedOf, List.filterMap_cons, hname, List.filter_cons] at hmiddle ⊢
          exact List.perm_middle.trans hmiddle

/-! ### Arguments by name -/

/-- Nothing is taken by a name that no argument has. -/
theorem takeNamed?_eq_none_iff {name : String} :
    takeNamed? name named = none ↔ ∀ argument ∈ named, argument.name ≠ name := by
  induction named with
  | nil => simp [takeNamed?]
  | cons first rest ih =>
      rw [takeNamed?, List.forall_mem_cons]
      split
      next h => simp [h]
      next h => simp [h, ih]

/-- The argument of a name that is taken was one of those that were left, and the others still
are. -/
theorem takeNamed?_eq_some {name : String} {expression : NodeId} {others : List NamedArgument}
    (h : takeNamed? name named = some (expression, others)) :
    named.Perm ({ name, expression } :: others) ∧ others.Sublist named := by
  induction named generalizing others with
  | nil => cases h
  | cons first rest ih =>
      rw [takeNamed?] at h
      split at h
      next hname =>
        obtain ⟨rfl, rfl⟩ := Prod.mk.inj (Option.some.inj h)
        subst hname
        exact ⟨.refl _, List.sublist_cons_self first rest⟩
      next =>
        obtain ⟨⟨found, more⟩, hfound, heq⟩ := Option.map_eq_some_iff.mp h
        obtain ⟨rfl, rfl⟩ := Prod.mk.inj heq
        obtain ⟨hperm, hsublist⟩ := ih hfound
        exact ⟨(hperm.cons first).trans (.swap _ _ _), hsublist.cons_cons first⟩

/-! ### One parameter -/

/-- A parameter that nothing is given for, and that takes no rest, is served by its default. -/
theorem serves_defaultSlot (h : parameter.isParams = false) :
    (defaultSlot model method position parameter).Serves position parameter := by
  rw [defaultSlot]
  cases hvalue : parameter.defaultValue with
  | none => exact .missing h hvalue
  | some value =>
      dsimp only
      split
      · exact .resolvedDefault _ h hvalue
      · exact .constantDefault h hvalue

/-- A default is no expression of the call. -/
theorem expressions_defaultSlot :
    (defaultSlot model method position parameter).expressions = [] := by
  rw [defaultSlot]
  cases parameter.defaultValue with
  | none => rfl
  | some value =>
      dsimp only
      split <;> rfl

/-- A parameter for any number of arguments takes all that are left by position. -/
theorem takeSlot_of_isParams (h : parameter.isParams) (first : NodeId) (others : List NodeId) :
    takeSlot model method position parameter (first :: others) named =
      (.paramsArray (first :: others), [], named) := by
  simp only [takeSlot, h, if_true]

/-- Any other parameter takes the next argument by position. -/
theorem takeSlot_cons (model : SemanticModel) (method : SymbolId) (position : Nat)
    (named : List NamedArgument) (h : parameter.isParams = false) (first : NodeId)
    (others : List NodeId) :
    ∃ slot, takeSlot model method position parameter (first :: others) named =
        (slot, others, named) ∧ slot.Serves position parameter ∧ slot.source? = some first := by
  simp only [takeSlot, h, Bool.false_eq_true, if_false, beq_iff_eq]
  split
  next hout => exact ⟨_, rfl, .outPlaceholder first h hout, rfl⟩
  next hin => exact ⟨_, rfl, .positional first h hin, rfl⟩

/-- The slot of a parameter that is given nothing by position, and the arguments by name that are
left: they are those that there were but for what is in the slot, and the slot is not empty if one
of them has the name of the parameter. -/
structure TakesByName (position : Nat) (parameter : Parameter) (named : List NamedArgument)
    (slot : ArgumentSlot) (left : List NamedArgument) : Prop where
  serves : slot.Serves position parameter
  perm : (slot.expressions ++ left.map NamedArgument.expression).Perm
    (named.map NamedArgument.expression)
  sublist : left.Sublist named
  filled : ∀ argument ∈ named, argument.name = parameter.name → slot.expressions ≠ []

/-- Where nothing is left by position, a parameter takes an argument of its name or none. -/
theorem takeSlot_nil (model : SemanticModel) (method : SymbolId) (position : Nat)
    (parameter : Parameter) (named : List NamedArgument) :
    ∃ slot left, takeSlot model method position parameter [] named = (slot, [], left) ∧
      TakesByName position parameter named slot left := by
  cases hnamed : takeNamed? parameter.name named with
  | none =>
      have hnone := takeNamed?_eq_none_iff.mp hnamed
      cases hparams : parameter.isParams with
      | true =>
          refine ⟨.paramsArray [], named, by simp [takeSlot, hnamed, hparams], ?_⟩
          exact ⟨.paramsArray [] hparams, .refl _, .refl _,
            fun argument hmem hname => absurd hname (hnone argument hmem)⟩
      | false =>
          refine ⟨defaultSlot model method position parameter, named,
            by simp [takeSlot, hnamed, hparams], serves_defaultSlot hparams, ?_, .refl _,
            fun argument hmem hname => absurd hname (hnone argument hmem)⟩
          rw [expressions_defaultSlot]
          exact .refl _
  | some taken =>
      obtain ⟨expression, others⟩ := taken
      obtain ⟨hperm, hsublist⟩ := takeNamed?_eq_some hnamed
      have hexpressions := (hperm.map NamedArgument.expression).symm
      -- whichever slot it is, it holds the one expression that was taken
      have hslot {slot : ArgumentSlot} (hserves : slot.Serves position parameter)
          (hslot : slot.expressions = [expression]) :
          TakesByName position parameter named slot others :=
        ⟨hserves, hslot ▸ hexpressions, hsublist,
          fun _ _ _ => hslot ▸ List.cons_ne_nil expression []⟩
      simp only [takeSlot, hnamed, beq_iff_eq]
      cases hparams : parameter.isParams with
      | true => exact ⟨_, _, rfl, hslot (.paramsArray _ hparams) rfl⟩
      | false =>
          simp only [Bool.false_eq_true, if_false]
          split
          next hout => exact ⟨_, _, rfl, hslot (.outPlaceholder _ hparams hout) rfl⟩
          next hin => exact ⟨_, _, rfl, hslot (.named _ hparams hin) rfl⟩

/-! ### All parameters -/

/-- The slot of the first parameter stands before those of the others. -/
theorem bindFrom_cons {slot : ArgumentSlot} {leftPositional : List NodeId}
    {leftNamed : List NamedArgument}
    (h : takeSlot model method position parameter positional named =
      (slot, leftPositional, leftNamed)) :
    bindFrom model method position (parameter :: parameters) positional named =
      let plan := bindFrom model method (position + 1) parameters leftPositional leftNamed
      { plan with bound := slot :: plan.bound } := by
  simp only [bindFrom, h]

/-- Whether the slots of a plan are those of the given parameters, each in its position. -/
def ServesAll (plan : ArgumentPlan) (position : Nat) (parameters : List Parameter) : Prop :=
  List.Forall₂ (fun parameter slot => slot.Serves parameter.2 parameter.1)
    (parameters.zipIdx position) plan.bound

/-- Whether every parameter that has the name of one of the given arguments is given another. -/
def FillsNamesakes (plan : ArgumentPlan) (parameters : List Parameter)
    (unused : List NamedArgument) : Prop :=
  List.Forall₂ (fun parameter slot =>
    ∀ argument ∈ unused, argument.name = parameter.name → slot.expressions ≠ [])
    parameters plan.bound

/-- A plan for arguments that are all given by name, of which some are left unused. -/
structure GivesByName (plan : ArgumentPlan) (position : Nat) (parameters : List Parameter)
    (named unused : List NamedArgument) : Prop where
  serves : plan.ServesAll position parameters
  surplus_eq : plan.surplus = unused.map fun argument => .named argument.expression
  perm : (plan.bound.flatMap ArgumentSlot.expressions ++
    unused.map NamedArgument.expression).Perm (named.map NamedArgument.expression)
  sublist : unused.Sublist named
  filled : plan.FillsNamesakes parameters unused

/-- Arguments that are all given by name are given out without loss. -/
theorem givesByName_bindFrom (model : SemanticModel) (method : SymbolId) (position : Nat)
    (parameters : List Parameter) (named : List NamedArgument) :
    ∃ unused, (bindFrom model method position parameters [] named).GivesByName position parameters
      named unused := by
  induction parameters generalizing position named with
  | nil => exact ⟨named, .nil, rfl, .refl _, .refl _, .nil⟩
  | cons parameter rest ih =>
      obtain ⟨slot, left, htake, hslot⟩ := takeSlot_nil model method position parameter named
      obtain ⟨unused, hrest⟩ := ih (position + 1) left
      refine ⟨unused, ?_⟩
      rw [bindFrom_cons htake]
      refine ⟨.cons hslot.serves hrest.serves, hrest.surplus_eq, ?_,
        hrest.sublist.trans hslot.sublist, .cons ?_ hrest.filled⟩
      · rw [List.flatMap_cons, List.append_assoc]
        exact (hrest.perm.append_left _).trans hslot.perm
      · intro argument hunused
        exact hslot.filled argument (hslot.sublist.subset (hrest.sublist.subset hunused))

/-- How a plan gives out the arguments of a call: those by position to the first parameters in
their order, and those by name to parameters after them; what is left of both is surplus. Something
is left of those by position only if no parameter came to be given by name. -/
structure GivesOut (plan : ArgumentPlan) (position : Nat) (parameters : List Parameter)
    (positional : List NodeId) (named : List NamedArgument) (byPosition byName : List ArgumentSlot)
    (left : List NodeId) (unused : List NamedArgument) : Prop where
  serves : plan.ServesAll position parameters
  bound_eq : plan.bound = byPosition ++ byName
  surplus_eq : plan.surplus =
    left.map .positional ++ unused.map fun argument => .named argument.expression
  positional_eq : byPosition.flatMap ArgumentSlot.expressions ++ left = positional
  named_perm : (byName.flatMap ArgumentSlot.expressions ++
    unused.map NamedArgument.expression).Perm (named.map NamedArgument.expression)
  sublist : unused.Sublist named
  filled : plan.FillsNamesakes parameters unused
  left_cases : left = [] ∨ byName = [] ∧ (∀ slot ∈ byPosition, slot.source?.isSome) ∧
    ∀ parameter ∈ parameters, parameter.isParams = false

/-- Where nothing is supplied by position all is given by name. -/
theorem GivesByName.givesOut {plan : ArgumentPlan} {unused : List NamedArgument}
    (h : plan.GivesByName position parameters named unused) :
    plan.GivesOut position parameters [] named [] plan.bound [] unused :=
  ⟨h.serves, rfl, h.surplus_eq, rfl, h.perm, h.sublist, h.filled, .inl rfl⟩

/-- The arguments of a call are given out without loss. -/
theorem givesOut_bindFrom (model : SemanticModel) (method : SymbolId) (position : Nat)
    (parameters : List Parameter) (positional : List NodeId) (named : List NamedArgument) :
    ∃ byPosition byName left unused,
      (bindFrom model method position parameters positional named).GivesOut position parameters
        positional named byPosition byName left unused := by
  induction parameters generalizing position positional with
  | nil =>
      exact ⟨[], [], positional, named, .nil, rfl, rfl, rfl, .refl _, .refl _, .nil,
        .inr ⟨rfl, List.forall_mem_nil _, List.forall_mem_nil _⟩⟩
  | cons parameter rest ih =>
      cases positional with
      | nil =>
          obtain ⟨unused, hnamed⟩ :=
            givesByName_bindFrom model method position (parameter :: rest) named
          exact ⟨_, _, _, _, hnamed.givesOut⟩
      | cons first others =>
          cases hparams : parameter.isParams with
          | true =>
              -- all that is left by position is in this slot
              obtain ⟨unused, hrest⟩ :=
                givesByName_bindFrom model method (position + 1) rest named
              refine ⟨[.paramsArray (first :: others)],
                (bindFrom model method (position + 1) rest [] named).bound, [], unused, ?_⟩
              rw [bindFrom_cons (takeSlot_of_isParams hparams first others)]
              refine ⟨.cons (.paramsArray _ hparams) hrest.serves, rfl, hrest.surplus_eq, ?_,
                hrest.perm, hrest.sublist, .cons ?_ hrest.filled, .inl rfl⟩
              · simp [ArgumentSlot.expressions]
              · exact fun _ _ _ => List.cons_ne_nil first others
          | false =>
              obtain ⟨slot, htake, hserves, hsource⟩ :=
                takeSlot_cons model method position named hparams first others
              have hslot := ArgumentSlot.expressions_of_source? hsource
              obtain ⟨byPosition, byName, left, unused, hrest⟩ := ih (position + 1) others
              refine ⟨slot :: byPosition, byName, left, unused, ?_⟩
              rw [bindFrom_cons htake]
              refine ⟨.cons hserves hrest.serves, ?_, hrest.surplus_eq, ?_, hrest.named_perm,
                hrest.sublist, .cons ?_ hrest.filled, hrest.left_cases.imp_right ?_⟩
              · exact congrArg (slot :: ·) hrest.bound_eq
              · rw [List.flatMap_cons, hslot, List.append_assoc, hrest.positional_eq,
                  List.singleton_append]
              · exact fun _ _ _ => hslot ▸ List.cons_ne_nil first []
              · rintro ⟨hbyName, hsources, hnoParams⟩
                have hsome : slot.source?.isSome := by rw [hsource]; rfl
                exact ⟨hbyName, List.forall_mem_cons.mpr ⟨hsome, hsources⟩,
                  List.forall_mem_cons.mpr ⟨hparams, hnoParams⟩⟩

/-! ### Calls -/

/-- The plan of a call binds the parameters of its callee from the first one on. -/
theorem ofCall_eq {callee : MethodSymbol} (hcallee : model.symbols.method? method = some callee)
    (receiver : Option NodeId) (arguments : List NodeId) :
    ofCall model arena method receiver arguments =
      bindFrom model method 0 callee.parameters (arena.positionalOf receiver arguments)
        (arena.namedOf arguments) := by
  simp only [ofCall, hcallee, splitArguments_fst, splitArguments_snd]
  rfl

/-- What is in the slots and what is left is what was supplied. -/
theorem GivesOut.perm {plan : ArgumentPlan} {byPosition byName : List ArgumentSlot}
    {left : List NodeId} {unused : List NamedArgument}
    (h : plan.GivesOut position parameters positional named byPosition byName left unused) :
    (plan.slots.flatMap ArgumentSlot.expressions).Perm
      (positional ++ named.map NamedArgument.expression) := by
  have hleft : (left.map ArgumentSlot.positional).flatMap ArgumentSlot.expressions = left := by
    simp [List.flatMap_map, ArgumentSlot.expressions]
  have hunused : (unused.map fun argument => ArgumentSlot.named argument.expression).flatMap
      ArgumentSlot.expressions = unused.map NamedArgument.expression := by
    rw [List.flatMap_map]
    exact List.map_eq_flatMap.symm
  rw [slots, h.bound_eq, h.surplus_eq, List.flatMap_append, List.flatMap_append,
    List.flatMap_append, hleft, hunused, ← h.positional_eq, List.append_assoc, List.append_assoc]
  refine List.Perm.append_left _ ?_
  exact (List.perm_append_comm_assoc _ _ _).trans (h.named_perm.append_left left)

/-- **No argument is lost, and none is used twice.** The plan of a method's call has one slot for
each parameter, in their order, and then the surplus. Its expressions are those of the receiver and
of the arguments, each as often as it was supplied. Those by position are in the slots of the first
parameters, in the order of the call, and the rest of them is the first part of the surplus. If
there is such a rest, each parameter has an argument by position in its slot and none takes any
number of arguments. An argument by name is left unused only if every parameter of this name is
given another one. -/
theorem ofCall_givesOut {callee : MethodSymbol}
    (hcallee : model.symbols.method? method = some callee) (receiver : Option NodeId)
    (arguments : List NodeId) :
    let plan := ofCall model arena method receiver arguments
    plan.ServesAll 0 callee.parameters ∧
    (plan.slots.flatMap ArgumentSlot.expressions).Perm
      (receiver.toList ++ arguments.map arena.supplied) ∧
    ∃ byPosition byName left unused,
      plan.bound = byPosition ++ byName ∧
      plan.surplus =
        left.map .positional ++ unused.map (fun argument => .named argument.expression) ∧
      byPosition.flatMap ArgumentSlot.expressions ++ left = arena.positionalOf receiver arguments ∧
      unused.Sublist (arena.namedOf arguments) ∧
      (left ≠ [] → byName = [] ∧ (∀ slot ∈ plan.bound, slot.source?.isSome) ∧
        ∀ parameter ∈ callee.parameters, parameter.isParams = false) ∧
      plan.FillsNamesakes callee.parameters unused := by
  intro plan
  obtain ⟨byPosition, byName, left, unused, h⟩ :=
    givesOut_bindFrom model method 0 callee.parameters (arena.positionalOf receiver arguments)
      (arena.namedOf arguments)
  rw [← ofCall_eq hcallee] at h
  refine ⟨h.serves, h.perm.trans (perm_positionalOf_namedOf receiver arguments),
    byPosition, byName, left, unused, h.bound_eq, h.surplus_eq, h.positional_eq, h.sublist,
    fun hleft => ?_, h.filled⟩
  obtain ⟨hbyName, hsources, hnoParams⟩ := h.left_cases.resolve_left hleft
  refine ⟨hbyName, fun slot hslot => hsources slot ?_, hnoParams⟩
  rwa [show plan.bound = byPosition by rw [h.bound_eq, hbyName, List.append_nil]] at hslot

/-- A method `f(int first, params int[] rest, out int last)` and nothing else. -/
def paramsInTheMiddle : SemanticModel :=
  .ofProgram
    { assembly := ⟨0⟩
      symbols :=
        { symbols := #[
            .type { name := "Int32", kind := .struct, assembly := ⟨0⟩ },
            .method { name := "f", containingType := ⟨0⟩, assembly := ⟨0⟩, parameters := [
              { name := "first", type := ⟨0⟩ },
              { name := "rest", type := ⟨0⟩, isParams := true },
              { name := "last", type := ⟨0⟩, refKind := .out }] }] } }
    {}

/-- The arguments of the call `a.f(last: x, b, c, last: y)`, whose receiver is node 0. -/
def lastTwice : NodeArena where
  nodes := #[
    { data := .identifierName "a" }, { data := .identifierName "x" },
    { data := .identifierName "b" }, { data := .identifierName "c" },
    { data := .identifierName "y" },
    { data := .argument (some "last") .out (.ofIndex 1) },
    { data := .argument none .none (.ofIndex 2) },
    { data := .argument (some "last") .out (.ofIndex 4) }]

/-- The second argument for `last` is surplus, since the slot of `last` holds the first. Everything
else is given out, `c` though it is no argument node. -/
theorem ofCall_givesOut_lastTwice :
    let arguments : List NodeId := [.ofIndex 5, .ofIndex 6, .ofIndex 3, .ofIndex 7]
    let plan := ofCall paramsInTheMiddle lastTwice ⟨1⟩ (some (.ofIndex 0)) arguments
    (∃ callee, paramsInTheMiddle.symbols.method? ⟨1⟩ = some callee) ∧
    plan.bound =
      [.positional (.ofIndex 0), .paramsArray [.ofIndex 2, .ofIndex 3],
       .outPlaceholder (.ofIndex 1)] ∧
    plan.surplus = [.named (.ofIndex 4)] ∧
    (plan.slots.flatMap ArgumentSlot.expressions).Perm
      ((some (.ofIndex 0)).toList ++ arguments.map lastTwice.supplied) := by
  intro arguments plan
  obtain ⟨callee, hcallee⟩ : ∃ callee, paramsInTheMiddle.symbols.method? ⟨1⟩ = some callee :=
    ⟨_, rfl⟩
  have hperm : (plan.slots.flatMap ArgumentSlot.expressions).Perm
      ((some (.ofIndex 0)).toList ++ arguments.map lastTwice.supplied) :=
    (ofCall_givesOut hcallee (some (.ofIndex 0)) arguments).2.1
  exact ⟨⟨callee, hcallee⟩, by decide +kernel, by decide +kernel, hperm⟩

end ArgumentPlan

end Portability
