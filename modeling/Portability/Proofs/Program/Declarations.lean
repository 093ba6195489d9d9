import Portability.Proofs.Program.NamingPaths
import Portability.Proofs.Program.Validation
import Portability.Proofs.Symbol.Path

/-!
# Canonical names identify declarations

A symbol is *declared at* a path: the names of the namespaces around it, of the types around it, and
its own, each type with its type parameters. `IsDeclaredAt` tells the path by one step outwards at a
time, without a bound on the steps and without the text of any name.

* `IsWellformed.isDeclaredAt_iff`: in valid symbols every symbol is declared at one path, which is
  what its canonical name spells.
* `canonicalName_identifies_declaration`: where names hold neither dots nor underscores, the path
  can be told from the canonical name. A namespace and a type without type parameters make the same
  segment.
* `DeclaresAlike.canonicalName_eq`: type arguments, element types and assemblies are not part of the
  name.
-/

namespace Portability

/-- The segment that a symbol adds to declaration paths. -/
def Symbol.segment : Symbol → PathSegment
  | .type t => { name := t.name, typeParameters := t.typeParameters }
  | symbol => { name := symbol.name }

/-- What a symbol is declared as: its segment, and the type and the namespace that declare it. -/
def Symbol.declaration (symbol : Symbol) : PathSegment × Option SymbolId × Option NamespaceId :=
  (symbol.segment, symbol.containingType, symbol.declaredNamespace)

namespace SymbolArena

variable {arena : SymbolArena} {id : SymbolId} {path other : DeclarationPath}

/-! ### Where a symbol is declared -/

/-- Whether a path consists of the names of a namespace and of those around it, from the outside in.
It begins below the global namespace, the one without a name, or below a missing one. -/
inductive IsNamespacePath (arena : SymbolArena) : Option NamespaceId → DeclarationPath → Prop
  | outside : IsNamespacePath arena none []
  | unnamed {id : NamespaceId} (hname : arena.properName? id = none) :
      IsNamespacePath arena (some id) []
  | named {id : NamespaceId} {ns : Namespace} {path : DeclarationPath}
      (hns : arena.namespace? id = some ns) (hname : ns.name ≠ "")
      (hpath : IsNamespacePath arena ns.parent path) :
      IsNamespacePath arena (some id) (path ++ [{ name := ns.name }])

/-- Whether a symbol is declared at a path: below that of its containing type, or else below that of
the namespace that it declares. -/
inductive IsDeclaredAt (arena : SymbolArena) : SymbolId → DeclarationPath → Prop
  | inNamespace {id : SymbolId} {symbol : Symbol} {path : DeclarationPath}
      (hsymbol : arena.get? id = some symbol) (hcontainer : symbol.containingType = none)
      (hpath : arena.IsNamespacePath symbol.declaredNamespace path) :
      IsDeclaredAt arena id (path ++ [symbol.segment])
  | inType {id container : SymbolId} {symbol : Symbol} {path : DeclarationPath}
      (hsymbol : arena.get? id = some symbol) (hcontainer : symbol.containingType = some container)
      (hpath : IsDeclaredAt arena container path) :
      IsDeclaredAt arena id (path ++ [symbol.segment])

/-- A namespace has one path at most. -/
theorem IsNamespacePath.unique {start : Option NamespaceId} (h : arena.IsNamespacePath start path)
    (hother : arena.IsNamespacePath start other) : other = path := by
  have hproper {id : NamespaceId} {ns : Namespace} (hns : arena.namespace? id = some ns)
      (hname : ns.name ≠ "") : arena.properName? id = some ns.name := by
    simp [properName?, hns, hname]
  induction h generalizing other with
  | outside =>
      cases hother
      rfl
  | unnamed hnone =>
      cases hother with
      | unnamed => rfl
      | named hns hname => exact absurd (hproper hns hname) (by simp [hnone])
  | named hns hname _ ih =>
      cases hother with
      | unnamed hnone => exact absurd (hproper hns hname) (by simp [hnone])
      | named hns' _ hpath =>
          obtain rfl := Option.some.inj (hns.symm.trans hns')
          rw [ih hpath]

/-- A symbol is declared at one path at most. -/
theorem IsDeclaredAt.unique (h : arena.IsDeclaredAt id path)
    (hother : arena.IsDeclaredAt id other) : other = path := by
  induction h generalizing other with
  | inNamespace hsymbol hcontainer hpath =>
      cases hother with
      | inNamespace hsymbol' _ hpath' =>
          obtain rfl := Option.some.inj (hsymbol.symm.trans hsymbol')
          rw [hpath.unique hpath']
      | inType hsymbol' hcontainer' _ =>
          obtain rfl := Option.some.inj (hsymbol.symm.trans hsymbol')
          exact absurd (hcontainer.symm.trans hcontainer') (by simp)
  | inType hsymbol hcontainer _ ih =>
      cases hother with
      | inNamespace hsymbol' hcontainer' _ =>
          obtain rfl := Option.some.inj (hsymbol.symm.trans hsymbol')
          exact absurd (hcontainer.symm.trans hcontainer') (by simp)
      | inType hsymbol' hcontainer' hpath' =>
          obtain rfl := Option.some.inj (hsymbol.symm.trans hsymbol')
          obtain rfl := Option.some.inj (hcontainer.symm.trans hcontainer')
          rw [ih hpath']

/-- The segment of a symbol that exists is made of its own names. -/
theorem segment_of_get? {symbol : Symbol} (hsymbol : arena.get? id = some symbol) :
    arena.segment id = symbol.segment := by
  rw [segment, hsymbol]
  cases symbol <;> rfl

/-! ### The path that a name spells -/

/-- The names on the walk out of a namespace are a path of it. -/
theorem isNamespacePath_of_isWalk {start : Option NamespaceId} {visited : List NamespaceId}
    (h : IsWalk arena.namespaceAbove? start visited) :
    arena.IsNamespacePath start
      ((visited.filterMap arena.properName?).map (PathSegment.mk · [])).reverse := by
  induction h with
  | stop => exact .outside
  | @step id rest hrest ih =>
      cases hproper : arena.properName? id with
      | none =>
          have habove : arena.namespaceAbove? id = none := by
            rw [properName?, Option.filter_eq_none_iff] at hproper
            cases hns : arena.namespace? id with
            | none => rw [namespaceAbove?, hns, Option.bind_none]
            | some ns =>
                have hname : ns.name = "" := by simpa [hns] using hproper
                rw [namespaceAbove?, hns, Option.bind_some, if_pos hname]
          rw [habove] at hrest
          cases hrest
          rw [List.filterMap_cons_none hproper]
          exact .unnamed hproper
      | some name =>
          obtain ⟨hmapped, hname⟩ := Option.filter_eq_some_iff.mp hproper
          obtain ⟨ns, hns, rfl⟩ := Option.map_eq_some_iff.mp hmapped
          have hname : ns.name ≠ "" := of_decide_eq_true hname
          rw [namespaceAbove?, hns, Option.bind_some, if_neg hname] at ih
          rw [List.filterMap_cons_some hproper, List.map_cons, List.reverse_cons]
          exact .named hns hname ih

namespace IsWellformed

variable (h : arena.IsWellformed)

include h

/-- The names on the way up, from the other end, are the path of a namespace. -/
theorem isNamespacePath_namespaceNames (start : Option NamespaceId) :
    arena.IsNamespacePath start
      ((arena.namespaceNames start).map (PathSegment.mk · [])).reverse := by
  obtain ⟨visited, hwalk⟩ := h.exists_isWalk_namespaceAbove? start
  rw [namespaceNames_eq hwalk]
  exact isNamespacePath_of_isWalk hwalk

/-- The path of a symbol goes on from that of its containing type. -/
theorem declarationPath_of_containingType? {container : SymbolId}
    (hcontainer : arena.containingType? id = some container) :
    arena.declarationPath id = arena.declarationPath container ++ [arena.segment id] := by
  simp [declarationPath, h.containers_of_containingType? hcontainer,
    h.outermostNamespace?_of_containingType? hcontainer]

/-- A symbol is declared at the path that its canonical name spells. -/
theorem isDeclaredAt_declarationPath {visited : List SymbolId} (hid : (arena.get? id).isSome)
    (hwalk : IsWalk arena.containingType? (some id) visited) :
    arena.IsDeclaredAt id (arena.declarationPath id) := by
  induction visited generalizing id with
  | nil => cases hwalk
  | cons first rest ih =>
      obtain ⟨symbol, hsymbol⟩ := Option.isSome_iff_exists.mp hid
      have hcontainingType : arena.containingType? id = symbol.containingType := by
        rw [containingType?, hsymbol, Option.bind_some]
      have hsegment := segment_of_get? hsymbol
      cases hcontainer : symbol.containingType with
      | none =>
          rw [hcontainer] at hcontainingType
          have hnamespace : arena.outermostNamespace? id = symbol.declaredNamespace := by
            simp [outermostNamespace?, containers_of_outermost hcontainingType, hsymbol]
          have hpath : arena.declarationPath id =
              ((arena.namespaceNames symbol.declaredNamespace).map (PathSegment.mk · [])).reverse ++
                [symbol.segment] := by
            simp [declarationPath, containers_of_outermost hcontainingType, hnamespace, hsegment]
          rw [hpath]
          exact .inNamespace hsymbol hcontainer (h.isNamespacePath_namespaceNames _)
      | some container =>
          rw [hcontainer] at hcontainingType
          cases hwalk with
          | step hrest =>
              rw [hcontainingType] at hrest
              rw [h.declarationPath_of_containingType? hcontainingType, hsegment]
              exact .inType hsymbol hcontainer
                (ih (h.isSome_of_containingType? hcontainingType) hrest)

/-- Every symbol is declared at one path, that which its canonical name spells. -/
theorem isDeclaredAt_iff (hid : (arena.get? id).isSome) :
    arena.IsDeclaredAt id path ↔ path = arena.declarationPath id := by
  obtain ⟨visited, hwalk⟩ :=
    h.exists_isWalk (fun _ _ => mem_structuralReferences_of_containingType?) id
  have hdeclared := h.isDeclaredAt_declarationPath hid hwalk
  exact ⟨hdeclared.unique, fun hpath => hpath ▸ hdeclared⟩

end IsWellformed

/-- What is declared exists. -/
theorem IsDeclaredAt.isSome (h : arena.IsDeclaredAt id path) : (arena.get? id).isSome := by
  cases h with
  | inNamespace hsymbol => exact hsymbol ▸ rfl
  | inType hsymbol => exact hsymbol ▸ rfl

/-! ### Names that can be told apart -/

/-- Whether a name has neither of the characters that canonical names put between names. -/
def IsSeparable (name : String) : Prop :=
  '.' ∉ name.toList ∧ '_' ∉ name.toList
  deriving Decidable

/-- Whether the names of namespaces, of symbols and of the type parameters of types have neither of
the characters that canonical names put between them. Empty names do no harm. -/
structure HasSeparableNames (arena : SymbolArena) : Prop where
  namespaces : ∀ id ns, arena.namespace? id = some ns → IsSeparable ns.name
  symbols : ∀ id symbol, arena.get? id = some symbol → IsSeparable symbol.name
  typeParameters : ∀ id type, arena.type? id = some type →
    ∀ parameter ∈ type.typeParameters, IsSeparable parameter

namespace HasSeparableNames

variable (h : arena.HasSeparableNames)

include h

/-- The names in the segment of a symbol are separable. -/
theorem isSeparable_of_mem_segment (id : SymbolId) :
    ∀ name ∈ (arena.segment id).name :: (arena.segment id).typeParameters, IsSeparable name := by
  cases hsymbol : arena.get? id with
  | none =>
      rw [segment, hsymbol]
      exact List.forall_mem_singleton.mpr (by decide)
  | some symbol =>
      have hname := h.symbols id symbol hsymbol
      rw [segment_of_get? hsymbol]
      cases symbol
      case type type =>
        have hparameters := h.typeParameters id type (type?_eq_some.mpr hsymbol)
        exact List.forall_mem_cons.mpr ⟨hname, hparameters⟩
      all_goals exact List.forall_mem_singleton.mpr hname

/-- There are no dots within the names of a path. -/
theorem avoids_dot (id : SymbolId) : DeclarationPath.Avoids (arena.declarationPath id) '.' := by
  have hsegment (id : SymbolId) : (arena.segment id).Avoids '.' :=
    fun name hname => (h.isSeparable_of_mem_segment id name hname).1
  exact avoids_declarationPath (fun id ns hns => (h.namespaces id ns hns).1)
    (fun _ container _ => hsegment container) (hsegment id)

/-- There are no underscores within the names of a path. -/
theorem avoids_underscore (id : SymbolId) :
    DeclarationPath.Avoids (arena.declarationPath id) '_' := by
  have hsegment (id : SymbolId) : (arena.segment id).Avoids '_' :=
    fun name hname => (h.isSeparable_of_mem_segment id name hname).2
  exact avoids_declarationPath (fun id ns hns => (h.namespaces id ns hns).2)
    (fun _ container _ => hsegment container) (hsegment id)

end HasSeparableNames

/-! ### What plays no part -/

/-- Whether two arenas have the same namespaces, and symbols that are declared as the same. They may
differ in type arguments, element types, assemblies and whatever else symbols have. -/
structure DeclaresAlike (twin arena : SymbolArena) : Prop where
  namespaces_eq : twin.namespaces = arena.namespaces
  declarations_eq : twin.symbols.map Symbol.declaration = arena.symbols.map Symbol.declaration

namespace DeclaresAlike

variable {twin : SymbolArena} (h : twin.DeclaresAlike arena)

include h

/-- Arenas that declare alike have the same number of symbols. -/
theorem size_eq : twin.symbols.size = arena.symbols.size := by
  simpa using congrArg Array.size h.declarations_eq

/-- Arenas that declare alike have the same declaration at every handle. -/
theorem map_declaration_eq (id : SymbolId) :
    (twin.get? id).map Symbol.declaration = (arena.get? id).map Symbol.declaration := by
  have hitem := congrArg (·[id.index]?) h.declarations_eq
  simp only [Array.getElem?_map] at hitem
  exact hitem

/-- Arenas that declare alike have symbols at the same handles. -/
theorem isSome_eq (id : SymbolId) : (twin.get? id).isSome = (arena.get? id).isSome := by
  simpa using congrArg Option.isSome (h.map_declaration_eq id)

/-- Arenas that declare alike have the same segments. -/
theorem segment_eq : twin.segment = arena.segment := by
  have hsegment (arena : SymbolArena) (id : SymbolId) : arena.segment id =
      (((arena.get? id).map Symbol.declaration).map Prod.fst).getD { name := "" } := by
    cases hsymbol : arena.get? id with
    | none => rw [segment, hsymbol]; rfl
    | some symbol => rw [segment_of_get? hsymbol]; rfl
  funext id
  rw [hsegment, hsegment, h.map_declaration_eq id]

/-- Arenas that declare alike have the same containing types. -/
theorem containingType?_eq (id : SymbolId) :
    twin.containingType? id = arena.containingType? id := by
  have hcontainer (arena : SymbolArena) : arena.containingType? id =
      ((arena.get? id).map Symbol.declaration).bind fun declaration => declaration.2.1 := by
    rw [containingType?, Option.bind_map]
    rfl
  rw [hcontainer, hcontainer, h.map_declaration_eq id]

/-- Arenas that declare alike have the same containers, up to the outermost one. -/
theorem containers_eq (id : SymbolId) : twin.containers id = arena.containers id := by
  have hfrom (fuel : Nat) (start : Option SymbolId) :
      twin.containersFrom fuel start = arena.containersFrom fuel start := by
    induction fuel generalizing start with
    | zero => rfl
    | succ fuel ih =>
        cases start with
        | none => rfl
        | some id => rw [containersFrom, containersFrom, h.containingType?_eq id, ih]
  rw [containers, containers, h.size_eq, h.containingType?_eq id, hfrom]

/-- Arenas that declare alike find their symbols in the same namespaces. -/
theorem outermostNamespace?_eq (id : SymbolId) :
    twin.outermostNamespace? id = arena.outermostNamespace? id := by
  have houtermost (arena : SymbolArena) : arena.outermostNamespace? id =
      ((id :: arena.containers id).filterMap fun container =>
        (arena.get? container).map Symbol.declaration).getLast?.bind
          fun declaration => declaration.2.2 := by
    rw [outermostNamespace?, ← List.map_filterMap, List.getLast?_map, Option.bind_map]
    rfl
  rw [houtermost, houtermost, h.containers_eq id, funext h.map_declaration_eq]

/-- Arenas that declare alike have the same names on the way up from a namespace. -/
theorem namespaceNames_eq (start : Option NamespaceId) :
    twin.namespaceNames start = arena.namespaceNames start := by
  have hnamespace (id : NamespaceId) : twin.namespace? id = arena.namespace? id := by
    rw [namespace?, namespace?, h.namespaces_eq]
  have hfrom (fuel : Nat) (start : Option NamespaceId) :
      twin.namespaceNamesFrom fuel start = arena.namespaceNamesFrom fuel start := by
    induction fuel generalizing start with
    | zero => rfl
    | succ fuel ih =>
        cases start with
        | none => rfl
        | some id => simp only [namespaceNamesFrom, hnamespace id, ih]
  rw [namespaceNames, namespaceNames, h.namespaces_eq, hfrom]

/-- Arenas that declare alike have the same declaration paths. -/
theorem declarationPath_eq (id : SymbolId) :
    twin.declarationPath id = arena.declarationPath id := by
  rw [declarationPath, declarationPath, h.segment_eq, h.containers_eq id,
    h.outermostNamespace?_eq id, h.namespaceNames_eq]

/-- Symbols that are declared as the same have the same canonical name. -/
theorem canonicalName_eq (id : SymbolId) : twin.canonicalName id = arena.canonicalName id := by
  have hsome := h.isSome_eq id
  cases hid : (arena.get? id).isSome with
  | true =>
      rw [SymbolArena.canonicalName_eq (hsome.trans hid), SymbolArena.canonicalName_eq hid,
        h.declarationPath_eq id]
  | false =>
      have hmissing {arena : SymbolArena} (hid : (arena.get? id).isSome = false) :
          arena.canonicalName id = "" := by
        have hnone : arena.get? id = none := by simpa using hid
        rw [canonicalName, canonicalPath, hnone]
      rw [hmissing (hsome.trans hid), hmissing hid]

end DeclaresAlike

/-! ### Names and declarations -/

/-- **Canonical names identify declarations.** In valid symbols whose names have neither dots nor
underscores, every symbol is declared at one path, and two symbols have the same canonical name if
and only if they are declared at the same path. Nothing else that symbols have plays a part. -/
theorem canonicalName_identifies_declaration
    (hvalid : ProgramDocument.validateSymbols arena = .ok ()) (h : arena.HasSeparableNames) :
    (∀ id, (arena.get? id).isSome → ∃! path, arena.IsDeclaredAt id path) ∧
    (∀ id other path otherPath, arena.IsDeclaredAt id path → arena.IsDeclaredAt other otherPath →
      (arena.canonicalName id = arena.canonicalName other ↔ path = otherPath)) ∧
    ∀ twin : SymbolArena, twin.DeclaresAlike arena →
      ∀ id, twin.canonicalName id = arena.canonicalName id := by
  have hwellformed := ProgramDocument.isWellformed_of_validateSymbols hvalid
  refine ⟨fun id hid => ?_, ?_, fun twin htwin => htwin.canonicalName_eq⟩
  · exact ⟨_, (hwellformed.isDeclaredAt_iff hid).mpr rfl,
      fun path => (hwellformed.isDeclaredAt_iff hid).mp⟩
  · intro id other path otherPath hpath hotherPath
    rw [(hwellformed.isDeclaredAt_iff hpath.isSome).mp hpath,
      (hwellformed.isDeclaredAt_iff hotherPath.isSome).mp hotherPath]
    exact canonicalName_inj hpath.isSome hotherPath.isSome (h.avoids_dot id) (h.avoids_dot other)
      (h.avoids_underscore id) (h.avoids_underscore other)

/-- Names can be told apart if those of all entries can. -/
theorem HasSeparableNames.of_forall
    (hnamespaces : ∀ ns ∈ arena.namespaces.toList, IsSeparable ns.name)
    (hsymbols : ∀ symbol ∈ arena.symbols.toList, IsSeparable symbol.name)
    (hparameters : ∀ symbol ∈ arena.symbols.toList,
      ∀ parameter ∈ symbol.typeParameters, IsSeparable parameter) : arena.HasSeparableNames := by
  have hmem {id : SymbolId} {symbol : Symbol} (hsymbol : arena.get? id = some symbol) :
      symbol ∈ arena.symbols.toList := Array.mem_def.mp (Array.mem_of_getElem? hsymbol)
  refine ⟨fun id ns hns => ?_, fun id symbol hsymbol => hsymbols symbol (hmem hsymbol), ?_⟩
  · exact hnamespaces ns (Array.mem_def.mp (Array.mem_of_getElem? hns))
  · exact fun id type htype => hparameters (.type type) (hmem (type?_eq_some.mp htype))

/-- A lid in the type `App.Box`, one in the namespace `App.Box` and one in an instance of the
generic type `App.Box`, which has a symbol of its own. -/
def lidsOfBoxes : SymbolArena where
  assemblies := #["Game", "Library"]
  namespaces := #[
    { name := "", children := [⟨1⟩] },
    { name := "App", parent := some ⟨0⟩, children := [⟨2⟩] },
    { name := "Box", parent := some ⟨1⟩ }]
  symbols := #[
    .type { name := "Box", kind := .classType, assembly := ⟨0⟩, namespaceId := some ⟨1⟩ },
    .type { name := "Lid", kind := .struct, assembly := ⟨0⟩, containingType := some ⟨0⟩ },
    .type { name := "Lid", kind := .struct, assembly := ⟨1⟩, namespaceId := some ⟨2⟩ },
    .type { name := "Box", kind := .classType, assembly := ⟨0⟩, namespaceId := some ⟨1⟩,
            typeParameters := ["T"] },
    .type { name := "Box", kind := .classType, assembly := ⟨1⟩, namespaceId := some ⟨1⟩,
            typeParameters := ["T"], typeArguments := [⟨0⟩] },
    .type { name := "Lid", kind := .struct, assembly := ⟨0⟩, containingType := some ⟨4⟩ }]

/-- Of the lids in `lidsOfBoxes` the one in a type and the one in a namespace have the same name,
and the one in the generic type has another. The generic type and its instance have the same
name. -/
theorem canonicalName_identifies_declaration_lidsOfBoxes :
    ProgramDocument.validateSymbols lidsOfBoxes = .ok () ∧ lidsOfBoxes.HasSeparableNames ∧
      lidsOfBoxes.canonicalName ⟨1⟩ = lidsOfBoxes.canonicalName ⟨2⟩ ∧
      lidsOfBoxes.canonicalName ⟨1⟩ ≠ lidsOfBoxes.canonicalName ⟨5⟩ ∧
      lidsOfBoxes.canonicalName ⟨3⟩ = lidsOfBoxes.canonicalName ⟨4⟩ := by
  have hvalid : ProgramDocument.validateSymbols lidsOfBoxes = .ok () := by rfl
  have hnames : lidsOfBoxes.HasSeparableNames := .of_forall (by decide) (by decide) (by decide)
  obtain ⟨-, hidentifies, -⟩ := canonicalName_identifies_declaration hvalid hnames
  have hwellformed := ProgramDocument.isWellformed_of_validateSymbols hvalid
  have hdeclared (id : SymbolId) (hid : (lidsOfBoxes.get? id).isSome) :=
    (hwellformed.isDeclaredAt_iff hid).mpr rfl
  refine ⟨hvalid, hnames, ?_, ?_, ?_⟩
  · exact (hidentifies _ _ _ _ (hdeclared ⟨1⟩ rfl) (hdeclared ⟨2⟩ rfl)).mpr (by decide +kernel)
  · refine (hidentifies _ _ _ _ (hdeclared ⟨1⟩ rfl) (hdeclared ⟨5⟩ rfl)).not.mpr ?_
    decide +kernel
  · exact (hidentifies _ _ _ _ (hdeclared ⟨3⟩ rfl) (hdeclared ⟨4⟩ rfl)).mpr (by decide +kernel)

/-- The lid of the instance in `lidsOfBoxes` is named after the generic type. -/
example : lidsOfBoxes.canonicalName ⟨5⟩ = "App.Box_T.Lid" := by decide +kernel

end SymbolArena

end Portability
