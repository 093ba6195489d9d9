import Portability.Program.Model
import Portability.Proofs.Symbol.Naming

/-!
# Valid programs can be named and judged

A valid program has well-formed symbols (`isWellformed_of_validate`), so that no loop of naming and
judging runs for ever. `walks_end_of_validate` goes through these loops one by one.
-/

namespace Portability

namespace ProgramDocument

variable {program : ProgramDocument}

/-- Symbols are not refused if no check of them meets an offender. -/
theorem validateSymbols_eq_ok_iff {symbols : SymbolArena} :
    validateSymbols symbols = .ok () ↔
      symbols.firstDanglingReference? = none ∧ symbols.firstCyclicReference? = none ∧
        symbols.firstCyclicNamespace? = none := by
  unfold validateSymbols
  cases symbols.firstDanglingReference? with
  | some id => exact iff_of_false nofun nofun
  | none =>
      cases symbols.firstCyclicReference? with
      | some id => exact iff_of_false nofun nofun
      | none =>
          cases symbols.firstCyclicNamespace? with
          | some id => exact iff_of_false nofun nofun
          | none => exact iff_of_true rfl ⟨rfl, rfl, rfl⟩

/-- Symbols that are not refused are well formed. -/
theorem isWellformed_of_validateSymbols {symbols : SymbolArena}
    (h : validateSymbols symbols = .ok ()) : symbols.IsWellformed := by
  obtain ⟨hdangling, hsymbols, hnamespaces⟩ := validateSymbols_eq_ok_iff.mp h
  exact SymbolArena.isWellformed_of_checks hdangling hsymbols hnamespaces

/-- The symbols of a valid program are well formed. -/
theorem isWellformed_of_validate (h : program.validate = .ok ()) :
    program.symbols.IsWellformed := by
  rw [validate] at h
  cases hsymbols : validateSymbols program.symbols with
  | error error =>
      rw [hsymbols] at h
      cases h
  | ok _ => exact isWellformed_of_validateSymbols hsymbols

/-- **Naming and judging end**: in a valid program each loop of them has a walk that passes no
symbol and no namespace twice, and so at most as many as there are, wherever it starts; the
answer is read off the walk. The loops are those that name a namespace, that find the namespace of
a symbol, that name a symbol, and that go along element types to tell whether a symbol is external
and whether a type may occur somewhere. Naming an instantiation takes one walk for each argument,
whose own arguments are not named. -/
theorem walks_end_of_validate (h : program.validate = .ok ()) :
    let symbols := program.symbols
    (∀ ns, ∃ namespaces, symbols.NamespaceWalk (some ns) namespaces ∧
      symbols.namespacePath ns =
        Dotted.join (namespaces.filterMap symbols.properName?).reverse) ∧
    (∀ id, ∃ visited, symbols.SymbolWalk symbols.undeclaredContainer? id visited ∧
      symbols.containingNamespace? id =
        visited.findSome? fun container =>
          (symbols.get? container).bind Symbol.declaredNamespace) ∧
    (∀ id, ∃ visited namespaces, symbols.NameWalk id visited namespaces ∧
      ∀ includeSelf, symbols.canonicalPath id includeSelf =
        symbols.walkedPath visited namespaces includeSelf) ∧
    (∀ base id, ∃ spelled,
      List.Forall₂
        (fun argument text => ∃ visited namespaces, symbols.NameWalk argument visited namespaces ∧
          text = symbols.spellArgument argument (symbols.walkedPath visited namespaces true))
        (symbols.typeArguments id) spelled ∧
      symbols.extendedName base id =
        SymbolArena.appendInstantiation base (symbols.typeParameters id) spelled) ∧
    (∀ id, ∃ visited last, symbols.SymbolWalk symbols.elementType? id visited ∧
      visited.getLast? = some last ∧
      ∀ judge : Judge, judge.symbols = symbols →
        (judge.isExternal id = (symbols.get? last).any fun symbol =>
          symbol.assembly != judge.model.programAssembly) ∧
        ∀ position, judge.allowsType id position = judge.allowsTypeTo position 1 last) := by
  intro symbols
  have hwellformed : symbols.IsWellformed := isWellformed_of_validate h
  refine ⟨fun ns => ?_, fun id => ?_, fun id => ?_, fun base id => ?_, fun id => ?_⟩
  · -- the parents of a namespace
    obtain ⟨namespaces, hwalk⟩ := hwellformed.exists_isWalk_namespaceAbove? (some ns)
    refine ⟨namespaces, .ofIsWalk hwalk, ?_⟩
    rw [SymbolArena.namespacePath, SymbolArena.namespaceNames_eq hwalk]
  · -- the containing namespace: the walk stops within the chain of all containers
    obtain ⟨chain, hchain⟩ := hwellformed.exists_isWalk
      (fun _ _ => SymbolArena.mem_structuralReferences_of_containingType?) id
    obtain ⟨visited, hwalk, -⟩ := hchain.restrict SymbolArena.undeclaredContainer?_eq_or
    exact ⟨visited, .ofIsWalk hwalk, hwellformed.containingNamespace?_eq hwalk⟩
  · obtain ⟨visited, namespaces, hwalk⟩ := hwellformed.exists_nameWalk id
    exact ⟨visited, namespaces, hwalk, hwellformed.canonicalPath_eq hwalk⟩
  · -- the instantiation: one name for each argument
    refine ⟨(symbols.typeArguments id).map symbols.argumentName, ?_,
      symbols.extendedName_eq base id⟩
    rw [List.forall₂_map_right_iff, List.forall₂_same]
    intro argument _
    obtain ⟨visited, namespaces, hwalk⟩ := hwellformed.exists_nameWalk argument
    refine ⟨visited, namespaces, hwalk, ?_⟩
    rw [SymbolArena.argumentName_eq, SymbolArena.canonicalName, hwellformed.canonicalPath_eq hwalk]
  · obtain ⟨visited, hwalk⟩ := hwellformed.exists_isWalk
      (fun _ _ => SymbolArena.mem_structuralReferences_of_elementType?) id
    obtain ⟨last, hlast⟩ : ∃ last, visited.getLast? = some last := by
      cases hwalk
      exact ⟨_, List.getLast?_eq_some_getLast (List.cons_ne_nil _ _)⟩
    refine ⟨visited, last, .ofIsWalk hwalk, hlast, ?_⟩
    intro judge hjudge
    -- the policy of the judge plays no part in the walk
    rw [← hjudge] at hwalk ⊢
    exact ⟨Judge.isExternal_eq hwalk hlast, Judge.allowsType_eq hwalk hlast⟩

/-- A nested type, arrays of it, and a list of such arrays. -/
def nestedTypes : ProgramDocument where
  assembly := ⟨0⟩
  symbols :=
    { assemblies := #["Game", "Library"]
      namespaces := #[{ name := "", children := [⟨1⟩] }, { name := "App", parent := some ⟨0⟩ }]
      symbols := #[
        .type { name := "Outer", kind := .classType, assembly := ⟨0⟩, namespaceId := some ⟨1⟩,
                typeParameters := ["T"] },
        .type { name := "Inner", kind := .struct, assembly := ⟨0⟩, containingType := some ⟨0⟩ },
        .type { name := "", kind := .array, assembly := ⟨0⟩, elementType := some ⟨1⟩ },
        .type { name := "List", kind := .classType, assembly := ⟨1⟩, typeParameters := ["T"],
                typeArguments := [⟨2⟩] }] }

/-- In the program of `nestedTypes` a nested type is named, an array of it is judged, and a missing
symbol has no namespace. -/
theorem walks_end_nestedTypes :
    let symbols := nestedTypes.symbols
    nestedTypes.validate = .ok () ∧
    (∃ visited namespaces, symbols.NameWalk ⟨1⟩ visited namespaces ∧
      symbols.canonicalPath ⟨1⟩ true = symbols.walkedPath visited namespaces true) ∧
    (∃ visited last, symbols.SymbolWalk symbols.elementType? ⟨2⟩ visited ∧
      visited.getLast? = some last ∧
      ∀ judge : Judge, judge.symbols = symbols →
        judge.allowsType ⟨2⟩ .parameter = judge.allowsTypeTo .parameter 1 last) ∧
    ∃ visited, symbols.SymbolWalk symbols.undeclaredContainer? ⟨7⟩ visited ∧
      symbols.containingNamespace? ⟨7⟩ =
        visited.findSome? fun container =>
          (symbols.get? container).bind Symbol.declaredNamespace := by
  have hvalid : nestedTypes.validate = .ok () := by rfl
  obtain ⟨-, hnamespace, hname, -, helement⟩ := walks_end_of_validate hvalid
  obtain ⟨visited, namespaces, hwalk, hpath⟩ := hname ⟨1⟩
  obtain ⟨elements, last, helements, hlast, hjudge⟩ := helement ⟨2⟩
  refine ⟨hvalid, ⟨visited, namespaces, hwalk, hpath true⟩, ?_, hnamespace ⟨7⟩⟩
  refine ⟨elements, last, helements, hlast, fun judge hsymbols => ?_⟩
  exact (hjudge judge hsymbols).2 .parameter

/-- The array of `nestedTypes` is walked through to the nested type. -/
example : nestedTypes.symbols.elementType? ⟨2⟩ = some ⟨1⟩ ∧
    nestedTypes.symbols.displayName ⟨1⟩ = "App.Outer_T.Inner" := by decide +kernel

end ProgramDocument

end Portability
