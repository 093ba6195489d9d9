import Mathlib.Data.List.Induction
import Portability.Proofs.ArgumentPlan

/-!
# Default values

What a call leaves out is given its default value, resolved where the parameter is declared. An
index has the value that was added last for a parameter (`defaultValue?_eq_lastAdded?`) and looks
its text up again among all values of the method. The order in which it goes through them makes no
difference as long as values of a method that are spelled alike mean the same (`resolve?_eq`).

A parameter is left out if arguments by position do not get as far and those of its name are taken
by its namesakes before it (`Omits`). One parameter after the other, that is what an empty slot says
(`exists_slot_bindFrom`), and so `ofCall_givesDefault` tells what stands in it.
-/

namespace Portability

/-! ### What an index holds -/

namespace ProgramIndex

/-- The value that was added last for a parameter. -/
def lastAdded? (values : List DefaultValue) (method : SymbolId) (parameter : Nat) :
    Option DefaultValue :=
  values.reverse.find? fun value => value.method == method && value.parameter == parameter

/-- Whether an index holds what is left of default values that are added one after the other, in
whatever order it goes through them. -/
def IsBuiltFrom (index : ProgramIndex) (values : List DefaultValue) : Prop :=
  index.defaultValues.Perm (ofDefaultValues index.assembly index.symbols values).defaultValues

/-- Whether default values of one method that are spelled alike mean the same. -/
def IsUnambiguous (index : ProgramIndex) : Prop :=
  ∀ first ∈ index.defaultValues, ∀ second ∈ index.defaultValues,
    first.method = second.method → first.text = second.text → first.resolved = second.resolved

variable {index : ProgramIndex} {values : List DefaultValue} {method : SymbolId} {parameter : Nat}

/-- Default values are added one after the other, the last one at the end. -/
theorem ofDefaultValues_concat (assembly : AssemblyId) (symbols : SymbolArena)
    (values : List DefaultValue) (value : DefaultValue) :
    ofDefaultValues assembly symbols (values ++ [value]) =
      (ofDefaultValues assembly symbols values).addDefaultValue value := by
  simp [ofDefaultValues]

/-- The index that adds default values in their order is built from them. -/
theorem isBuiltFrom_ofDefaultValues (assembly : AssemblyId) (symbols : SymbolArena)
    (values : List DefaultValue) : (ofDefaultValues assembly symbols values).IsBuiltFrom values := by
  have hshared : (ofDefaultValues assembly symbols values).assembly = assembly ∧
      (ofDefaultValues assembly symbols values).symbols = symbols := by
    induction values using List.reverseRecOn with
    | nil => exact ⟨rfl, rfl⟩
    | append_singleton values value ih =>
        rw [ofDefaultValues_concat]
        exact ih
  rw [IsBuiltFrom, hshared.1, hshared.2]

/-- The value that is added last is the one to be found for its own parameter, and for no other. -/
theorem lastAdded?_concat (values : List DefaultValue) (value : DefaultValue) (method : SymbolId)
    (parameter : Nat) : lastAdded? (values ++ [value]) method parameter =
      if value.method = method ∧ value.parameter = parameter then some value
      else lastAdded? values method parameter := by
  rw [lastAdded?, List.reverse_append, List.reverse_singleton, List.singleton_append]
  split
  next hkey => exact List.find?_cons_of_pos (by simp [hkey])
  next hkey => exact List.find?_cons_of_neg (by simpa using hkey)

/-- The value that is found for a parameter was added for it. -/
theorem isFor_of_lastAdded? {value : DefaultValue}
    (h : lastAdded? values method parameter = some value) :
    value.method = method ∧ value.parameter = parameter := by
  simpa using List.find?_some h

/-- An added value takes the place of the one that its parameter had. -/
theorem mem_addDefaultValue {value last : DefaultValue} :
    value ∈ (index.addDefaultValue last).defaultValues ↔
      if last.method = value.method ∧ last.parameter = value.parameter then value = last
      else value ∈ index.defaultValues := by
  simp only [addDefaultValue, List.mem_append, List.mem_filter, List.mem_singleton,
    Bool.not_eq_true', Bool.and_eq_false_iff, beq_eq_false_iff_ne]
  split
  next hkey => simp [hkey]
  next hkey =>
    have hother : value.method ≠ last.method ∨ value.parameter ≠ last.parameter := by
      rw [not_and_or] at hkey
      exact hkey.imp Ne.symm Ne.symm
    have hne : value ≠ last := by
      rintro rfl
      exact hkey ⟨rfl, rfl⟩
    simp only [hother, and_true, hne, or_false]

/-- Of the values that are added the last one for each parameter is kept. -/
theorem mem_ofDefaultValues {assembly : AssemblyId} {symbols : SymbolArena} {value : DefaultValue} :
    value ∈ (ofDefaultValues assembly symbols values).defaultValues ↔
      lastAdded? values value.method value.parameter = some value := by
  induction values using List.reverseRecOn with
  | nil => simp [ofDefaultValues, lastAdded?]
  | append_singleton values last ih =>
      rw [ofDefaultValues_concat, lastAdded?_concat, mem_addDefaultValue, ih]
      split
      · rw [Option.some_inj, eq_comm]
      · rfl

/-- An index holds those values that were added last for their parameters. -/
theorem IsBuiltFrom.mem_iff (h : index.IsBuiltFrom values) {value : DefaultValue} :
    value ∈ index.defaultValues ↔ lastAdded? values value.method value.parameter = some value :=
  (List.Perm.mem_iff h).trans mem_ofDefaultValues

/-- An index has the value that was added last for a parameter. -/
theorem defaultValue?_eq_lastAdded? (h : index.IsBuiltFrom values) (method : SymbolId)
    (parameter : Nat) : index.defaultValue? method parameter = lastAdded? values method parameter := by
  have hfound {value : DefaultValue} (hvalue : index.defaultValue? method parameter = some value) :
      lastAdded? values method parameter = some value := by
    obtain ⟨rfl, rfl⟩ : value.method = method ∧ value.parameter = parameter := by
      simpa using List.find?_some hvalue
    exact h.mem_iff.mp (List.mem_of_find?_eq_some hvalue)
  cases hlast : lastAdded? values method parameter with
  | none =>
      cases hvalue : index.defaultValue? method parameter with
      | none => rfl
      | some value => rw [← hlast, hfound hvalue]
  | some value =>
      obtain ⟨rfl, rfl⟩ := isFor_of_lastAdded? hlast
      have hsome : (index.defaultValue? value.method value.parameter).isSome :=
        List.find?_isSome.mpr ⟨value, h.mem_iff.mpr hlast, by simp⟩
      obtain ⟨other, hother⟩ := Option.isSome_iff_exists.mp hsome
      rw [hother, ← hlast, hfound hother]

/-- A text of a method means what any value of the method means that is spelled so. -/
theorem resolve?_eq (h : index.IsUnambiguous) {value : DefaultValue}
    (hvalue : value ∈ index.defaultValues) :
    index.resolve? value.method value.text = value.resolved := by
  have hsome : (index.defaultValues.find? fun other =>
      other.method == value.method && other.text == value.text).isSome :=
    List.find?_isSome.mpr ⟨value, hvalue, by simp⟩
  obtain ⟨other, hother⟩ := Option.isSome_iff_exists.mp hsome
  obtain ⟨hmethod, htext⟩ : other.method = value.method ∧ other.text = value.text := by
    simpa using List.find?_some hother
  rw [resolve?, hother]
  exact h other (List.mem_of_find?_eq_some hother) value hvalue hmethod htext

end ProgramIndex

/-! ### What a call leaves out -/

namespace ArgumentPlan

variable {model : SemanticModel} {method : SymbolId} {position : Nat} {first parameter : Parameter}
  {rest parameters : List Parameter} {positional : List NodeId} {named : List NamedArgument}

/-- How many of the parameters are given arguments by position, of which there are `supplied`: each
one, up to the first that takes any number of them. -/
def takersByPosition : List Parameter → (supplied : Nat) → Nat
  | parameter :: rest, supplied + 1 =>
    if parameter.isParams then 1 else takersByPosition rest supplied + 1
  | _, _ => 0

/-- Whether a call gives no argument to a parameter: the arguments by position go to parameters
before it, and those by its name are not more than the parameters of this name that come before it
and are not given any by position. -/
structure Omits (parameters : List Parameter) (supplied : Nat) (named : List NamedArgument)
    (i : Nat) (parameter : Parameter) : Prop where
  beyond : takersByPosition parameters supplied ≤ i
  taken : named.countP (·.name = parameter.name) ≤
    ((parameters.take i).drop (takersByPosition parameters supplied)).countP
      (·.name = parameter.name)

/-- A slot is left empty if nothing is left by position and nothing is given by its name. -/
theorem expressions_takeSlot_eq_nil_iff :
    (takeSlot model method position parameter positional named).1.expressions = [] ↔
      positional = [] ∧ ∀ argument ∈ named, argument.name ≠ parameter.name := by
  rw [← takeNamed?_eq_none_iff]
  cases positional with
  | cons first others =>
      simp only [takeSlot]
      split
      · simp [ArgumentSlot.expressions]
      · split <;> simp [ArgumentSlot.expressions]
  | nil =>
      cases hnamed : takeNamed? parameter.name named with
      | some taken =>
          simp only [takeSlot, hnamed]
          split
          · simp [ArgumentSlot.expressions]
          · split <;> simp [ArgumentSlot.expressions]
      | none =>
          simp only [takeSlot, hnamed]
          split
          · simp [ArgumentSlot.expressions]
          · simp [expressions_defaultSlot]

/-- What stands in the slot of a parameter that is left out. -/
def omittedSlot (model : SemanticModel) (method : SymbolId) (position : Nat)
    (parameter : Parameter) : ArgumentSlot :=
  if parameter.isParams then .paramsArray [] else defaultSlot model method position parameter

/-- A slot without an expression is that of a parameter that is left out. -/
theorem takeSlot_fst_of_expressions_eq_nil
    (h : (takeSlot model method position parameter positional named).1.expressions = []) :
    (takeSlot model method position parameter positional named).1 =
      omittedSlot model method position parameter := by
  obtain ⟨rfl, hnamed⟩ := expressions_takeSlot_eq_nil_iff.mp h
  simp only [takeSlot, takeNamed?_eq_none_iff.mpr hnamed, omittedSlot]
  split <;> rfl

/-- The first parameter is left out if there is nothing for it. -/
theorem omits_zero_iff : Omits (parameter :: rest) positional.length named 0 parameter ↔
    positional = [] ∧ ∀ argument ∈ named, argument.name ≠ parameter.name := by
  have hcount : named.countP (·.name = parameter.name) ≤ 0 ↔
      ∀ argument ∈ named, argument.name ≠ parameter.name := by
    simp [List.countP_eq_zero]
  cases positional with
  | nil =>
      refine ⟨fun h => ⟨rfl, hcount.mp h.taken⟩, fun h => ⟨Nat.le_refl 0, hcount.mpr h.2⟩⟩
  | cons first others =>
      refine ⟨fun h => ?_, fun h => absurd h.1 (List.cons_ne_nil first others)⟩
      have hbeyond := h.beyond
      rw [List.length_cons, takersByPosition] at hbeyond
      split at hbeyond <;> omega

/-- Without arguments by position no parameter takes one. -/
theorem takersByPosition_zero (parameters : List Parameter) :
    takersByPosition parameters 0 = 0 := by
  cases parameters <;> rfl

/-- A parameter is left out if neither the arguments by position nor those by name come to it. -/
theorem omits_iff {supplied i : Nat} : Omits parameters supplied named i parameter ↔
    takersByPosition parameters supplied ≤ i ∧
      named.countP (·.name = parameter.name) ≤
        ((parameters.take i).drop (takersByPosition parameters supplied)).countP
          (·.name = parameter.name) :=
  ⟨fun h => ⟨h.beyond, h.taken⟩, fun h => ⟨h.1, h.2⟩⟩

/-- Without arguments by position only the names count. -/
theorem omits_nil_iff {i : Nat} : Omits parameters ([] : List NodeId).length named i parameter ↔
    named.countP (·.name = parameter.name) ≤
      (parameters.take i).countP (·.name = parameter.name) := by
  rw [List.length_nil, omits_iff, takersByPosition_zero, List.drop_zero]
  exact and_iff_right (Nat.zero_le i)

/-- What a parameter leaves when it takes arguments by position. -/
theorem takeSlot_snd_cons (first : NodeId) (others : List NodeId) :
    (takeSlot model method position parameter (first :: others) named).2 =
      (if parameter.isParams then [] else others, named) := by
  simp only [takeSlot]
  split
  · rfl
  · split <;> rfl

/-- What a parameter leaves when nothing is left by position. An argument is taken if there is one
of its name, and it is one of this name. -/
theorem takeSlot_snd_nil (model : SemanticModel) (method : SymbolId) (position : Nat)
    (parameter : Parameter) (named : List NamedArgument) :
    ∃ left, (takeSlot model method position parameter [] named).2 = ([], left) ∧
      ((∀ argument ∈ named, argument.name ≠ parameter.name) ∧ left = named ∨
        ∃ argument, argument.name = parameter.name ∧ named.Perm (argument :: left)) := by
  cases hnamed : takeNamed? parameter.name named with
  | none =>
      refine ⟨named, ?_, .inl ⟨takeNamed?_eq_none_iff.mp hnamed, rfl⟩⟩
      simp only [takeSlot, hnamed]
      split <;> rfl
  | some taken =>
      obtain ⟨expression, others⟩ := taken
      refine ⟨others, ?_, .inr ⟨_, rfl, (takeNamed?_eq_some hnamed).1⟩⟩
      simp only [takeSlot, hnamed]
      split
      · rfl
      · split <;> rfl

/-- A later parameter is left out if it is once the first one has taken its arguments. -/
theorem omits_succ_iff (model : SemanticModel) (method : SymbolId) (position : Nat)
    (first : Parameter) (rest : List Parameter) (positional : List NodeId)
    (named : List NamedArgument) (i : Nat) (parameter : Parameter) :
    Omits (first :: rest) positional.length named (i + 1) parameter ↔
      let left := (takeSlot model method position first positional named).2
      Omits rest left.1.length left.2 i parameter := by
  cases positional with
  | cons supplied others =>
      rw [takeSlot_snd_cons]
      dsimp only
      split
      next hparams =>
        rw [omits_nil_iff, omits_iff]
        simp [takersByPosition, hparams]
      next hparams =>
        rw [omits_iff, omits_iff]
        simp [takersByPosition, hparams]
  | nil =>
      obtain ⟨left, hleft, hcases⟩ := takeSlot_snd_nil model method position first named
      -- the first parameter and the argument it takes have one name: both sides count one less
      rw [hleft, omits_nil_iff, omits_nil_iff, List.take_succ_cons, List.countP_cons]
      rcases hcases with ⟨hnone, rfl⟩ | ⟨argument, hname, hperm⟩
      · by_cases hsame : first.name = parameter.name
        · have hzero : left.countP (·.name = parameter.name) = 0 := by
            simpa [List.countP_eq_zero, hsame] using hnone
          rw [hzero]
          simp
        · simp [hsame]
      · rw [hperm.countP_eq, List.countP_cons, hname]
        exact Nat.add_le_add_iff_right

/-- The slot of the first parameter comes before those of the rest. -/
theorem bound_bindFrom_cons (parameter : Parameter) (rest : List Parameter) :
    (bindFrom model method position (parameter :: rest) positional named).bound =
      let taken := takeSlot model method position parameter positional named
      taken.1 :: (bindFrom model method (position + 1) rest taken.2.1 taken.2.2).bound :=
  rfl

/-- The slot of a parameter is empty just if a call leaves it out, and then holds what is put there
without an argument. -/
theorem exists_slot_bindFrom (model : SemanticModel) (method : SymbolId) (position : Nat)
    (parameters : List Parameter) (positional : List NodeId) (named : List NamedArgument) {i : Nat}
    {parameter : Parameter} (h : parameters[i]? = some parameter) :
    ∃ slot, (bindFrom model method position parameters positional named).bound[i]? = some slot ∧
      (slot.expressions = [] ↔ Omits parameters positional.length named i parameter) ∧
      (slot.expressions = [] → slot = omittedSlot model method (position + i) parameter) := by
  induction parameters generalizing position positional named i with
  | nil => exact absurd h (by simp)
  | cons first rest ih =>
      rw [bound_bindFrom_cons]
      cases i with
      | zero =>
          obtain rfl : first = parameter := Option.some.inj h
          refine ⟨_, rfl, ?_, takeSlot_fst_of_expressions_eq_nil⟩
          rw [expressions_takeSlot_eq_nil_iff, omits_zero_iff]
      | succ i =>
          obtain ⟨slot, hslot, hempty, homitted⟩ :=
            ih (position + 1) (takeSlot model method position first positional named).2.1
              (takeSlot model method position first positional named).2.2 h
          refine ⟨slot, hslot, ?_, fun hnil => ?_⟩
          · rw [hempty, omits_succ_iff model method position]
          · rw [homitted hnil, Nat.add_right_comm, Nat.add_assoc]

/-! ### Default values in a plan -/

/-- The slot of a parameter that is left out has its default value, with what the text that was
added last for it means. -/
theorem defaultSlot_ofProgram {index : ProgramIndex} {values : List DefaultValue}
    (hindex : index.IsBuiltFrom values) (hclear : index.IsUnambiguous) (bindings : UnitBindings)
    {value : Constant} (hvalue : parameter.defaultValue = some value) :
    defaultSlot (.ofProgram index bindings) method position parameter =
      match (ProgramIndex.lastAdded? values method position).bind (·.resolved) with
      | some expression => .resolvedDefault value expression
      | none => .constantDefault value := by
  let model := SemanticModel.ofProgram index bindings
  have hmeaning : (model.defaultValueText method position).bind (model.resolveInScope method) =
      (ProgramIndex.lastAdded? values method position).bind (·.resolved) := by
    simp only [model, SemanticModel.ofProgram, ProgramIndex.defaultValue?_eq_lastAdded? hindex]
    cases hlast : ProgramIndex.lastAdded? values method position with
    | none => rfl
    | some source =>
        obtain ⟨rfl, rfl⟩ := ProgramIndex.isFor_of_lastAdded? hlast
        exact ProgramIndex.resolve?_eq hclear (hindex.mem_iff.mpr hlast)
  cases hresolved : (ProgramIndex.lastAdded? values method position).bind (·.resolved) with
  | none => simp only [defaultSlot, hvalue, model, hmeaning.trans hresolved]
  | some expression => simp only [defaultSlot, hvalue, model, hmeaning.trans hresolved]

/-- **A parameter that is left out gets its own default value.** Let default values be added to an
index one after the other, so that those of a method that are spelled alike mean the same, and let a
method have a parameter with a default value that does not take any number of arguments. Whatever
the order in which the index goes through its values: the slot of the parameter is empty just if the
call leaves it out, and then it holds the default value, with the meaning of what was added last for
this parameter of this method if that has one, and else as a constant. -/
theorem ofCall_givesDefault {index : ProgramIndex} {values : List DefaultValue}
    (hindex : index.IsBuiltFrom values) (hclear : index.IsUnambiguous) (bindings : UnitBindings)
    (arena : NodeArena) {callee : MethodSymbol}
    (hcallee : index.symbols.method? method = some callee) (receiver : Option NodeId)
    (arguments : List NodeId) {i : Nat} (hparameter : callee.parameters[i]? = some parameter)
    (hparams : parameter.isParams = false) {value : Constant}
    (hvalue : parameter.defaultValue = some value) :
    let plan := ofCall (.ofProgram index bindings) arena method receiver arguments
    ∃ slot, plan.slots[i]? = some slot ∧
      (slot.expressions = [] ↔
        Omits callee.parameters (arena.positionalOf receiver arguments).length
          (arena.namedOf arguments) i parameter) ∧
      (slot.expressions = [] →
        slot = match (ProgramIndex.lastAdded? values method i).bind (·.resolved) with
          | some expression => .resolvedDefault value expression
          | none => .constantDefault value) := by
  intro plan
  have hplan : plan = bindFrom (.ofProgram index bindings) method 0 callee.parameters
      (arena.positionalOf receiver arguments) (arena.namedOf arguments) :=
    ofCall_eq hcallee receiver arguments
  obtain ⟨slot, hslot, hempty, homitted⟩ :=
    exists_slot_bindFrom (.ofProgram index bindings) method 0 callee.parameters
      (arena.positionalOf receiver arguments) (arena.namedOf arguments) hparameter
  refine ⟨slot, ?_, hempty, fun hnil => ?_⟩
  · obtain ⟨hlt, -⟩ := List.getElem?_eq_some_iff.mp hslot
    rw [hplan, slots, List.getElem?_append_left hlt, hslot]
  · rw [homitted hnil, omittedSlot, hparams, Nat.zero_add]
    exact defaultSlot_ofProgram hindex hclear bindings hvalue

/-- A parameter `b` with the default value 5. -/
def fiveByDefault : Parameter :=
  { name := "b", type := ⟨0⟩, defaultValue := some (.int 5) }

/-- A parameter `c` with the default value 7. -/
def sevenByDefault : Parameter :=
  { name := "c", type := ⟨0⟩, defaultValue := some (.int 7) }

/-- A method `f(int a, int b = 5, int c = 7, int d = 5)`. -/
def threeDefaults : MethodSymbol :=
  { name := "f", containingType := ⟨0⟩, assembly := ⟨0⟩, parameters := [
    { name := "a", type := ⟨0⟩ }, fiveByDefault, sevenByDefault,
    { name := "d", type := ⟨0⟩, defaultValue := some (.int 5) }] }

/-- Symbols of `f` and of a method `g(int b = 5)`. -/
def defaultedMethods : SymbolArena where
  symbols := #[
    .type { name := "Int32", kind := .struct, assembly := ⟨0⟩ },
    .method threeDefaults,
    .method { name := "g", containingType := ⟨0⟩, assembly := ⟨0⟩,
              parameters := [fiveByDefault] }]

/-- Values of which the first is replaced by the last. Its text has the same meaning for another
parameter of `f`, and another meaning for `g`. -/
def replacedDefaults : List DefaultValue :=
  [{ method := ⟨1⟩, parameter := 1, text := "Old", resolved := some { text := "Limits.Old" } },
   { method := ⟨1⟩, parameter := 2, text := "Lost" },
   { method := ⟨2⟩, parameter := 0, text := "Five", resolved := some { text := "Other.Five" } },
   { method := ⟨1⟩, parameter := 3, text := "Five", resolved := some { text := "Limits.Five" } },
   { method := ⟨1⟩, parameter := 1, text := "Five", resolved := some { text := "Limits.Five" } }]

/-- An index that goes through these values backwards. -/
def backwardIndex : ProgramIndex :=
  let index := ProgramIndex.ofDefaultValues ⟨0⟩ defaultedMethods replacedDefaults
  { index with defaultValues := index.defaultValues.reverse }

/-- The arguments of the call `f(x, d: y)`. -/
def lastByName : NodeArena where
  nodes := #[
    { data := .identifierName "x" }, { data := .identifierName "y" },
    { data := .argument (some "d") .none (.ofIndex 1) }]

/-- The call leaves out `b`, which was given a meaning last, and `c`, which was given none. -/
theorem ofCall_givesDefault_replaced :
    let arguments : List NodeId := [.ofIndex 0, .ofIndex 2]
    let plan := ofCall (.ofProgram backwardIndex {}) lastByName ⟨1⟩ none arguments
    backwardIndex.IsBuiltFrom replacedDefaults ∧ backwardIndex.IsUnambiguous ∧
    backwardIndex.symbols.method? ⟨1⟩ = some threeDefaults ∧
    threeDefaults.parameters[1]? = some fiveByDefault ∧
    threeDefaults.parameters[2]? = some sevenByDefault ∧
    plan.slots[1]? = some (.resolvedDefault (.int 5) { text := "Limits.Five" }) ∧
    plan.slots[2]? = some (.constantDefault (.int 7)) := by
  intro arguments plan
  have hindex : backwardIndex.IsBuiltFrom replacedDefaults := List.reverse_perm _
  have hclear : backwardIndex.IsUnambiguous := by
    unfold ProgramIndex.IsUnambiguous
    decide
  have hcallee : backwardIndex.symbols.method? ⟨1⟩ = some threeDefaults := rfl
  have hfive : threeDefaults.parameters[1]? = some fiveByDefault := rfl
  have hseven : threeDefaults.parameters[2]? = some sevenByDefault := rfl
  obtain ⟨five, hfiveSlot, hfiveEmpty, hfiveGiven⟩ :=
    ofCall_givesDefault hindex hclear {} lastByName hcallee none arguments hfive rfl rfl
  obtain ⟨seven, hsevenSlot, hsevenEmpty, hsevenGiven⟩ :=
    ofCall_givesDefault hindex hclear {} lastByName hcallee none arguments hseven rfl rfl
  refine ⟨hindex, hclear, hcallee, hfive, hseven, ?_, ?_⟩
  · rw [hfiveSlot, hfiveGiven (hfiveEmpty.mpr ⟨by decide, by decide⟩)]
    rfl
  · rw [hsevenSlot, hsevenGiven (hsevenEmpty.mpr ⟨by decide, by decide⟩)]
    rfl

/-- A parameter that takes any number of arguments, with the default value 5. -/
def restByDefault : Parameter :=
  { name := "rest", type := ⟨0⟩, isParams := true, defaultValue := some (.int 5) }

/-- A method `h(params int[] rest = 5)`. -/
def defaultedRest : MethodSymbol :=
  { name := "h", containingType := ⟨0⟩, assembly := ⟨0⟩, parameters := [restByDefault] }

/-- An index without default values whose only method is `h`. -/
def restIndex : ProgramIndex where
  assembly := ⟨0⟩
  symbols :=
    { symbols := #[.type { name := "Int32", kind := .struct, assembly := ⟨0⟩ },
        .method defaultedRest] }

/-- A parameter that takes any number of arguments takes none if a call leaves it out, and its
default value is not given. -/
theorem withheldDefault_emptyRest :
    let plan := ofCall (.ofProgram restIndex {}) .empty ⟨1⟩ none []
    restIndex.IsBuiltFrom [] ∧ restIndex.IsUnambiguous ∧
    restIndex.symbols.method? ⟨1⟩ = some defaultedRest ∧
    defaultedRest.parameters[0]? = some restByDefault ∧
    restByDefault.defaultValue = some (.int 5) ∧
    Omits defaultedRest.parameters (NodeArena.empty.positionalOf none []).length
      (NodeArena.empty.namedOf []) 0 restByDefault ∧
    plan.slots[0]? = some (.paramsArray []) ∧
    plan.slots[0]? ≠ some (.constantDefault (.int 5)) := by
  refine ⟨.nil, ?_, rfl, rfl, rfl, ⟨by decide, by decide⟩, rfl, by decide⟩
  unfold ProgramIndex.IsUnambiguous
  decide

end ArgumentPlan

end Portability
