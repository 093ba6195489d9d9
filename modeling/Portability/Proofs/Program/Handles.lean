import Portability.Pass.Program
import Portability.Proofs.Program.Validation
import Portability.Proofs.Tree.Frame

/-!
# The handles of valid programs

Of its handles a valid program has those that its symbols refer to, the methods of its default
values, the roots of its units, the nodes that are bound, and what they are bound to: they exist
(`HandlesExist`). Together with the absence of cycles this is all that validity says
(`validate_eq_ok_iff`).

Validation does not look at other handles (`validate_eq_of_sameChecked`): those that nodes hold of
nodes, the types of resolved default values, the children of namespaces and the namespaces of types.
Nor does it miss a parent of a namespace that does not exist. A node may hold the handle of no node,
which names one as soon as the pass adds it (`validate_unclosedProgram`); such a node is bound to
nothing.
-/

namespace Portability

/-! ### Sequences of checks -/

/-- One check after another passes if both do. -/
theorem bind_eq_ok_iff {ε : Type} {first second : Except ε Unit} :
    (first >>= fun _ => second) = .ok () ↔ first = .ok () ∧ second = .ok () := by
  cases first with
  | error error =>
      refine iff_of_false (fun h => ?_) fun h => ?_
      · cases h
      · cases h.1
  | ok => exact (and_iff_right rfl).symm

/-- A sequence of checks passes if each of them does. -/
theorem forM_eq_ok_iff {ε α : Type} {check : α → Except ε Unit} {items : List α} :
    items.forM check = .ok () ↔ ∀ item ∈ items, check item = .ok () := by
  induction items with
  | nil => exact iff_of_true rfl (List.forall_mem_nil _)
  | cons item rest ih =>
      rw [List.forall_mem_cons, ← ih, List.forM_eq_forM, List.forM_cons, bind_eq_ok_iff]

/-- One check after another refuses what one of them refuses. -/
theorem eq_error_or_of_bind {ε : Type} {first second : Except ε Unit} {error : ε}
    (h : (first >>= fun _ => second) = .error error) :
    first = .error error ∨ second = .error error := by
  cases first with
  | error fault => exact .inl h
  | ok => exact .inr h

/-- A sequence of checks refuses what one of them refuses. -/
theorem exists_mem_of_forM_eq_error {ε α : Type} {check : α → Except ε Unit} {items : List α}
    {error : ε} (h : items.forM check = .error error) :
    ∃ item ∈ items, check item = .error error := by
  induction items with
  | nil => cases h
  | cons item rest ih =>
      rw [List.forM_eq_forM, List.forM_cons] at h
      rcases eq_error_or_of_bind h with hitem | hrest
      · exact ⟨item, List.mem_cons_self, hitem⟩
      · obtain ⟨found, hfound, herror⟩ := ih hrest
        exact ⟨found, .tail item hfound, herror⟩

/-- Two sequences of checks come to the same if each check only goes by what the items have in
common. -/
theorem forM_congr_of_map_eq {ε α κ : Type} {key : α → κ} {check checkOther : α → Except ε Unit}
    (hcheck : ∀ item other, key other = key item → checkOther other = check item)
    {items others : List α} (h : others.map key = items.map key) :
    others.forM checkOther = items.forM check := by
  induction items generalizing others with
  | nil =>
      obtain rfl := List.map_eq_nil_iff.mp h
      rfl
  | cons item rest ih =>
      obtain ⟨other, others, rfl, hfirst, hrest⟩ := List.map_eq_cons_iff.mp h
      rw [List.forM_eq_forM, List.forM_cons, List.forM_cons, hcheck item other hfirst]
      exact congrArg _ (funext fun _ => ih hrest)

/-- No symbol is found to be missing if all exist. -/
theorem SymbolArena.find?_isNone_eq_none_iff {symbols : SymbolArena} {ids : List SymbolId} :
    ids.find? (fun id => (symbols.get? id).isNone) = none ↔
      ∀ id ∈ ids, (symbols.get? id).isSome := by
  simp [List.find?_eq_none, Option.isSome_iff_ne_none]

/-- The check finds nothing just where every reference of a symbol points at one. -/
theorem SymbolArena.firstDanglingReference?_eq_none_iff {symbols : SymbolArena} :
    symbols.firstDanglingReference? = none ↔
      ∀ id symbol, symbols.get? id = some symbol →
        ∀ other ∈ symbol.references, (symbols.get? other).isSome := by
  refine ⟨fun h _ _ hsymbol _ => isSome_get?_of_mem_references h hsymbol, fun h => ?_⟩
  refine List.findSome?_eq_none_iff.mpr fun symbol hsymbol => find?_isNone_eq_none_iff.mpr ?_
  obtain ⟨index, hindex⟩ := Array.mem_iff_getElem?.mp (Array.mem_def.mpr hsymbol)
  exact h ⟨index⟩ symbol hindex

/-- A binding is accepted if its node, its symbol and its type exist. -/
theorem NodeBinding.validate_eq_ok_iff {binding : NodeBinding} {symbols : SymbolArena}
    {file : String} {arena : NodeArena} :
    binding.validate symbols file arena = .ok () ↔
      arena.contains binding.node ∧
        ∀ id ∈ binding.symbol.toList ++ binding.type.toList, (symbols.get? id).isSome := by
  unfold validate
  rw [← SymbolArena.find?_isNone_eq_none_iff]
  cases arena.contains binding.node with
  | false => exact iff_of_false nofun fun h => Bool.false_ne_true h.1
  | true =>
      refine Iff.trans ?_ (and_iff_right rfl).symm
      simp only [Bool.not_true, if_neg Bool.false_ne_true]
      split
      next id hid =>
        rw [hid]
        exact iff_of_false nofun nofun
      next hnone => exact iff_of_true rfl (Option.eq_none_iff_forall_ne_some.mpr hnone)

/-- A unit is accepted if its root exists and its bindings are accepted. -/
theorem UnitDocument.validate_eq_ok_iff {unit : UnitDocument} {symbols : SymbolArena} :
    unit.validate symbols = .ok () ↔
      unit.arena.contains unit.root ∧
        ∀ binding ∈ unit.bindings, binding.validate symbols unit.file unit.arena = .ok () := by
  unfold validate
  rw [← forM_eq_ok_iff]
  cases unit.arena.contains unit.root with
  | false => exact iff_of_false nofun fun h => Bool.false_ne_true h.1
  | true => exact (and_iff_right rfl).symm

namespace ProgramDocument

/-- A default value is accepted if its method exists. -/
theorem validateDefaultValue_eq_ok_iff {symbols : SymbolArena} {value : DefaultValue} :
    validateDefaultValue symbols value = .ok () ↔ (symbols.get? value.method).isSome := by
  rw [validateDefaultValue]
  cases symbols.get? value.method with
  | none => exact iff_of_false nofun nofun
  | some symbol => exact iff_of_true rfl rfl

variable {program : ProgramDocument}

/-- Validation goes over the symbols, the default values and the units. -/
theorem validate_eq_ok_iff_checks :
    program.validate = .ok () ↔ validateSymbols program.symbols = .ok () ∧
      (∀ value ∈ program.defaultValues, validateDefaultValue program.symbols value = .ok ()) ∧
      ∀ unit ∈ program.units, unit.validate program.symbols = .ok () := by
  rw [validate, bind_eq_ok_iff, bind_eq_ok_iff, forM_eq_ok_iff, forM_eq_ok_iff]

/-- The handles of symbols and nodes that exist in a valid program. -/
structure HandlesExist (program : ProgramDocument) : Prop where
  /-- What symbols refer to, methods also by their parameters. -/
  references : ∀ id symbol, program.symbols.get? id = some symbol →
    ∀ other ∈ symbol.references, (program.symbols.get? other).isSome
  methods : ∀ value ∈ program.defaultValues, (program.symbols.get? value.method).isSome
  roots : ∀ unit ∈ program.units, unit.arena.contains unit.root
  nodes : ∀ unit ∈ program.units, ∀ binding ∈ unit.bindings, unit.arena.contains binding.node
  bound : ∀ unit ∈ program.units, ∀ binding ∈ unit.bindings,
    ∀ id ∈ binding.symbol.toList ++ binding.type.toList, (program.symbols.get? id).isSome

/-- **Validity.** A program is valid if these handles exist and nothing goes round in circles. -/
theorem validate_eq_ok_iff :
    program.validate = .ok () ↔
      program.HandlesExist ∧ program.symbols.firstCyclicReference? = none ∧
        program.symbols.firstCyclicNamespace? = none := by
  rw [validate_eq_ok_iff_checks, validateSymbols_eq_ok_iff,
    SymbolArena.firstDanglingReference?_eq_none_iff]
  constructor
  · rintro ⟨⟨hreferences, hsymbols, hnamespaces⟩, hvalues, hunits⟩
    have hunit {unit : UnitDocument} (hmem : unit ∈ program.units) :=
      UnitDocument.validate_eq_ok_iff.mp (hunits unit hmem)
    have hbinding {unit : UnitDocument} (hmem : unit ∈ program.units) {binding : NodeBinding}
        (hbinding : binding ∈ unit.bindings) :=
      NodeBinding.validate_eq_ok_iff.mp ((hunit hmem).2 binding hbinding)
    exact ⟨{
      references := hreferences
      methods := fun value hvalue => validateDefaultValue_eq_ok_iff.mp (hvalues value hvalue)
      roots := fun unit hmem => (hunit hmem).1
      nodes := fun unit hmem binding h => (hbinding hmem h).1
      bound := fun unit hmem binding h => (hbinding hmem h).2 }, hsymbols, hnamespaces⟩
  · rintro ⟨hexist, hsymbols, hnamespaces⟩
    refine ⟨⟨hexist.references, hsymbols, hnamespaces⟩, fun value hvalue => ?_,
      fun unit hunit => ?_⟩
    · exact validateDefaultValue_eq_ok_iff.mpr (hexist.methods value hvalue)
    · refine UnitDocument.validate_eq_ok_iff.mpr ⟨hexist.roots unit hunit, fun binding h => ?_⟩
      exact NodeBinding.validate_eq_ok_iff.mpr
        ⟨hexist.nodes unit hunit binding h, hexist.bound unit hunit binding h⟩

end ProgramDocument

/-! ### What validation looks at -/

namespace SymbolArena

/-- Two arenas that agree in what validation looks at: the references of symbols and the parents of
namespaces. -/
structure SameChecked (arena other : SymbolArena) : Prop where
  references : other.symbols.toList.map Symbol.references =
    arena.symbols.toList.map Symbol.references
  structuralReferences : other.symbols.toList.map Symbol.structuralReferences =
    arena.symbols.toList.map Symbol.structuralReferences
  parents : other.namespaces.toList.map Namespace.parent =
    arena.namespaces.toList.map Namespace.parent

namespace SameChecked

variable {arena other : SymbolArena} (h : arena.SameChecked other)

include h

/-- Arenas that agree in what is checked have the same number of symbols. -/
theorem size_eq : other.symbols.size = arena.symbols.size := by
  simpa using congrArg List.length h.references

/-- Arenas that agree in what is checked miss symbols at the same handles. -/
theorem isNone_get?_eq (id : SymbolId) : (other.get? id).isNone = (arena.get? id).isNone := by
  rw [Bool.eq_iff_iff, Option.isNone_iff_eq_none, Option.isNone_iff_eq_none, get?, get?,
    Array.getElem?_eq_none_iff, Array.getElem?_eq_none_iff, h.size_eq]

/-- Arenas that agree in what is checked have the same structural references. -/
theorem structuralReferences_eq (id : SymbolId) :
    other.structuralReferences id = arena.structuralReferences id := by
  have hat (arena : SymbolArena) : arena.structuralReferences id =
      ((arena.symbols.toList.map Symbol.structuralReferences)[id.index]?).getD [] := by
    rw [SymbolArena.structuralReferences, List.getElem?_map, Array.getElem?_toList, get?]
    cases arena.symbols[id.index]? <;> rfl
  rw [hat, hat, h.structuralReferences]

/-- Arenas that agree in what is checked have the same parents. -/
theorem parent?_eq (id : NamespaceId) : other.parent? id = arena.parent? id := by
  have hat (arena : SymbolArena) : arena.parent? id =
      ((arena.namespaces.toList.map Namespace.parent)[id.index]?).join := by
    rw [parent?, List.getElem?_map, Array.getElem?_toList, namespace?]
    cases arena.namespaces[id.index]? <;> rfl
  rw [hat, hat, h.parents]

/-- Arenas that agree in what is checked have the same first dangling reference. -/
theorem firstDanglingReference?_eq :
    other.firstDanglingReference? = arena.firstDanglingReference? := by
  have hat (arena : SymbolArena) : arena.firstDanglingReference? =
      (arena.symbols.toList.map Symbol.references).findSome? fun ids =>
        ids.find? fun id => (arena.get? id).isNone := by
    rw [List.findSome?_map]
    rfl
  rw [hat, hat, h.references]
  simp only [h.isNone_get?_eq]

/-- Arenas that agree in what is checked are searched for cycles with the same answers. -/
theorem searchCycle_eq (fuel : Nat) : other.searchCycle fuel = arena.searchCycle fuel := by
  induction fuel with
  | zero => rfl
  | succ fuel ih =>
      funext path finished id
      simp only [searchCycle, h.structuralReferences_eq, h.isNone_get?_eq, ih]

/-- Arenas that agree in what is checked have the same first cycle of symbols. -/
theorem firstCyclicReference?_eq :
    other.firstCyclicReference? = arena.firstCyclicReference? := by
  simp only [firstCyclicReference?, symbolIds, h.size_eq, h.searchCycle_eq]

/-- In arenas that agree in what is checked the parents end within the same number of steps. -/
theorem parentsEndWithin_eq (steps : Nat) (start : Option NamespaceId) :
    other.parentsEndWithin steps start = arena.parentsEndWithin steps start := by
  induction steps generalizing start with
  | zero => rfl
  | succ steps ih =>
      cases start with
      | none => rfl
      | some id => rw [parentsEndWithin, parentsEndWithin, ih, h.parent?_eq]

/-- Arenas that agree in what is checked have the same first cycle of namespaces. -/
theorem firstCyclicNamespace?_eq :
    other.firstCyclicNamespace? = arena.firstCyclicNamespace? := by
  have hsize : other.namespaces.size = arena.namespaces.size := by
    simpa using congrArg List.length h.parents
  simp only [firstCyclicNamespace?, namespaceIds, hsize, h.parentsEndWithin_eq, h.parent?_eq]

end SameChecked

end SymbolArena

/-- What validation looks at in a unit: of the nodes only how many there are. -/
def UnitDocument.checkedPart (unit : UnitDocument) : String × NodeId × Nat × List NodeBinding :=
  (unit.file, unit.root, unit.arena.size, unit.bindings)

namespace ProgramDocument

/-- Two programs that agree in what validation looks at. -/
structure SameChecked (program other : ProgramDocument) : Prop where
  symbols : program.symbols.SameChecked other.symbols
  methods : other.defaultValues.map DefaultValue.method =
    program.defaultValues.map DefaultValue.method
  units : other.units.map UnitDocument.checkedPart = program.units.map UnitDocument.checkedPart

variable {program other : ProgramDocument}

/-- **Blind spots.** Programs are judged alike, and for the same fault, whatever else they hold. -/
theorem validate_eq_of_sameChecked (h : program.SameChecked other) :
    other.validate = program.validate := by
  have hsymbols : validateSymbols other.symbols = validateSymbols program.symbols := by
    rw [validateSymbols, validateSymbols, h.symbols.firstDanglingReference?_eq,
      h.symbols.firstCyclicReference?_eq, h.symbols.firstCyclicNamespace?_eq]
  have hvalues : other.defaultValues.forM (validateDefaultValue other.symbols) =
      program.defaultValues.forM (validateDefaultValue program.symbols) := by
    refine forM_congr_of_map_eq (fun value another hmethod => ?_) h.methods
    rw [validateDefaultValue, validateDefaultValue, hmethod, h.symbols.isNone_get?_eq]
  have hunits : (other.units.forM fun unit => unit.validate other.symbols) =
      program.units.forM fun unit => unit.validate program.symbols := by
    refine forM_congr_of_map_eq (fun unit another hpart => ?_) h.units
    obtain ⟨hfile, hroot, hsize, hbindings⟩ : another.file = unit.file ∧
        another.root = unit.root ∧ another.arena.size = unit.arena.size ∧
          another.bindings = unit.bindings := by
      simpa [UnitDocument.checkedPart] using hpart
    have hcontains := NodeArena.contains_eq_of_size_eq hsize
    simp only [UnitDocument.validate, NodeBinding.validate, hfile, hroot, hbindings, hcontains,
      h.symbols.isNone_get?_eq]
  rw [validate, validate, hsymbols, hvalues, hunits]

/-! ### What a valid program binds -/

/-- What is bound to a node one of the bindings says. -/
theorem exists_binding_of_findSome? {bindings : List NodeBinding}
    {part : NodeBinding → Option SymbolId} {node : NodeId} {id : SymbolId}
    (h : bindings.reverse.findSome? (fun binding =>
      if binding.node == node then part binding else none) = some id) :
    ∃ binding ∈ bindings, binding.node = node ∧ part binding = some id := by
  obtain ⟨binding, hmem, hpart⟩ := List.exists_of_findSome?_eq_some h
  split at hpart
  next hnode => exact ⟨binding, List.mem_reverse.mp hmem, beq_iff_eq.mp hnode, hpart⟩
  next => cases hpart

/-- Only nodes of the unit are bound, and only to symbols that exist. -/
theorem HandlesExist.of_bound (h : program.HandlesExist) {unit : UnitDocument}
    (hunit : unit ∈ program.units) {node : NodeId} {id : SymbolId}
    (hbound : (program.modelOf unit).symbolOf node = some id ∨
      (program.modelOf unit).typeOf node = some id) :
    unit.arena.contains node ∧ (program.symbols.get? id).isSome := by
  obtain ⟨binding, hmem, hnode, hid⟩ : ∃ binding ∈ unit.bindings, binding.node = node ∧
      id ∈ binding.symbol.toList ++ binding.type.toList := by
    rcases hbound with hsymbol | htype
    · obtain ⟨binding, hmem, hnode, hid⟩ := exists_binding_of_findSome? hsymbol
      exact ⟨binding, hmem, hnode, List.mem_append_left _ (Option.mem_toList.mpr hid)⟩
    · obtain ⟨binding, hmem, hnode, hid⟩ := exists_binding_of_findSome? htype
      exact ⟨binding, hmem, hnode, List.mem_append_right _ (Option.mem_toList.mpr hid)⟩
  obtain rfl := hnode
  exact ⟨h.nodes unit hunit binding hmem, h.bound unit hunit binding hmem id hid⟩

/-- **Which handles validity closes.** A program is valid if the handles of `HandlesExist` exist and
nothing goes round in circles; programs that agree in these handles are judged alike. The nodes of a
valid program's units are the only ones that are bound, so nodes that are added to them are not. -/
theorem validate_closes (program : ProgramDocument) :
    (program.validate = .ok () ↔
      program.HandlesExist ∧ program.symbols.firstCyclicReference? = none ∧
        program.symbols.firstCyclicNamespace? = none) ∧
    (∀ other, program.SameChecked other → other.validate = program.validate) ∧
    (program.validate = .ok () → ∀ unit ∈ program.units, ∀ node id,
      (program.modelOf unit).symbolOf node = some id ∨
        (program.modelOf unit).typeOf node = some id →
      unit.arena.contains node ∧ (program.symbols.get? id).isSome) :=
  ⟨validate_eq_ok_iff, fun _ => validate_eq_of_sameChecked, fun hvalid _ hunit _ _ =>
    (validate_eq_ok_iff.mp hvalid).1.of_bound hunit⟩

/-- A program with a handle of every kind that points nowhere and is not found to. -/
def unclosedProgram : ProgramDocument where
  assembly := ⟨0⟩
  symbols :=
    { assemblies := #["Game"]
      namespaces := #[{ name := "", children := [⟨5⟩] }, { name := "App", parent := some ⟨6⟩ }]
      symbols := #[
        .type { name := "Menu", kind := .classType, assembly := ⟨0⟩, namespaceId := some ⟨7⟩ },
        .method { name := "Show", containingType := ⟨0⟩, assembly := ⟨0⟩,
                  parameters := [{ name := "at", type := ⟨0⟩ }] }] }
  defaultValues := [{ method := ⟨1⟩, parameter := 0, text := "Top",
                      resolved := some { text := "App.Menu.Top", type := some ⟨8⟩ } }]
  units := [{ file := "Menu.cs"
              arena := { nodes := #[{ data := .compilationUnit [] [] [] [.ofIndex 1] }] }
              root := .ofIndex 0
              bindings := [{ node := .ofIndex 0, symbol := some ⟨1⟩ }] }]

/-- The program of `unclosedProgram` with other handles where validation does not look. -/
def filledProgram : ProgramDocument where
  assembly := ⟨0⟩
  symbols :=
    { assemblies := #["Game"]
      namespaces := #[{ name := "", children := [⟨1⟩] }, { name := "App", parent := some ⟨6⟩ }]
      symbols := #[
        .type { name := "Menu", kind := .classType, assembly := ⟨0⟩, namespaceId := some ⟨1⟩ },
        .method { name := "Show", containingType := ⟨0⟩, assembly := ⟨0⟩,
                  parameters := [{ name := "at", type := ⟨0⟩ }] }] }
  defaultValues := [{ method := ⟨1⟩, parameter := 0, text := "Top",
                      resolved := some { text := "App.Menu.Top", type := some ⟨0⟩ } }]
  units := [{ file := "Menu.cs"
              arena := { nodes := #[{ data := .compilationUnit [] [] [] [] }] }
              root := .ofIndex 0
              bindings := [{ node := .ofIndex 0, symbol := some ⟨1⟩ }] }]

/-- Both programs are valid, and the one node that is bound in their units exists. -/
theorem validate_closes_filledProgram :
    unclosedProgram.validate = .ok () ∧ unclosedProgram.HandlesExist ∧
      unclosedProgram.SameChecked filledProgram ∧ filledProgram.validate = .ok () ∧
      ∃ unit ∈ filledProgram.units, ∃ node id,
        (filledProgram.modelOf unit).symbolOf node = some id ∧ unit.arena.contains node ∧
          (filledProgram.symbols.get? id).isSome := by
  have hvalid : unclosedProgram.validate = .ok () := by decide +kernel
  have hsame : unclosedProgram.SameChecked filledProgram := ⟨⟨rfl, rfl, rfl⟩, rfl, rfl⟩
  obtain ⟨hiff, halike, -⟩ := unclosedProgram.validate_closes
  have hfilled : filledProgram.validate = .ok () := (halike filledProgram hsame).trans hvalid
  obtain ⟨-, -, hbound⟩ := filledProgram.validate_closes
  have hmem : filledProgram.units.head! ∈ filledProgram.units := List.mem_cons_self
  exact ⟨hvalid, (hiff.mp hvalid).1, hsame, hfilled, _, hmem, .ofIndex 0, ⟨1⟩, rfl,
    hbound hfilled _ hmem (.ofIndex 0) ⟨1⟩ (.inl rfl)⟩

/-- The program is valid. Flattening its unit adds a node, which the unit's missing member names
from then on: the flattened unit is a member of itself. -/
theorem validate_unclosedProgram :
    let symbols := unclosedProgram.symbols
    unclosedProgram.validate = .ok () ∧
      (∃ id ns parent, symbols.namespace? id = some ns ∧ ns.parent = some parent ∧
        symbols.namespace? parent = none) ∧
      (∃ id, ∃ child ∈ symbols.children id, symbols.namespace? child = none) ∧
      (∃ id symbol ns, symbols.get? id = some symbol ∧ symbol.declaredNamespace = some ns ∧
        symbols.namespace? ns = none) ∧
      (∃ value ∈ unclosedProgram.defaultValues, ∃ resolved type, value.resolved = some resolved ∧
        resolved.type = some type ∧ symbols.get? type = none) ∧
      ∃ unit ∈ unclosedProgram.units, ∃ child ∈ unit.arena.children unit.root,
        unit.arena.contains child = false ∧
        let known := KnownNamespaces.collect symbols "App"
        let checked := (unclosedProgram.checkUnit {} known {} unit).1
        checked.root = child ∧
          checked.arena.data? child = some (.compilationUnit [] [] [] [child]) :=
  ⟨by decide +kernel,
    ⟨⟨1⟩, _, ⟨6⟩, rfl, rfl, rfl⟩, ⟨⟨0⟩, ⟨5⟩, List.mem_cons_self, rfl⟩,
    ⟨⟨0⟩, _, ⟨7⟩, rfl, rfl, rfl⟩, ⟨_, List.mem_cons_self, _, ⟨8⟩, rfl, rfl, rfl⟩,
    ⟨_, List.mem_cons_self, .ofIndex 1, List.mem_cons_self, rfl, by decide +kernel,
      by decide +kernel⟩⟩

end ProgramDocument

end Portability
