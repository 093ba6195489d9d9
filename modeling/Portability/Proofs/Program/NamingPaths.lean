import Portability.Proofs.Program.ParentChains
import Portability.Proofs.Symbol.CycleSearch
import Portability.Proofs.Symbol.Naming
import Portability.Proofs.Text.Segments

/-!
# The paths that name a symbol

Canonical names, keys of members and namespaces of symbols are found by loops of their own, with
stops of their own. In an arena without dangling references and without cycles they find parts of
one path.

* `isWellformed_of_isAcyclic`: such an arena is well-formed, so all of the loops end.
* `canonicalName_of_containingType?`: a symbol is named after its containing type, which is the step
  of the loops; `canonicalName_of_isWalk` and `containingNamespace?_of_isWalk` tell where the steps
  lead.
* `canonicalName_of_outermost`: the outermost symbol is named after its namespace.
* `namingPaths_agree`: the names of members and namespaces are parts of the canonical name.
-/

namespace Portability

/-- Whether a symbol is a member of a type: a method, a field, a property or an event. -/
def Symbol.isMember : Symbol → Bool
  | method _ | field _ | property _ | event _ => true
  | type _ | other _ => false

namespace SymbolArena

variable {arena : SymbolArena} {id container : SymbolId}

/-! ### Arenas without cycles -/

/-- Whether every symbol that a symbol refers to exists. -/
def ReferencesExist (arena : SymbolArena) : Prop :=
  ∀ id symbol, arena.get? id = some symbol →
    ∀ other ∈ symbol.references, (arena.get? other).isSome

/-- Whether neither references lead from a symbol back to it nor parents from a namespace. -/
structure IsAcyclic (arena : SymbolArena) : Prop where
  symbols : ∀ id, ¬ arena.OnCycle id
  namespaces : ∀ id, ¬ arena.OnParentCycle id

/-- Arenas that pass the checks for cycles have none. -/
theorem isAcyclic_of_checks (hsymbols : arena.firstCyclicReference? = none)
    (hnamespaces : arena.firstCyclicNamespace? = none) : arena.IsAcyclic where
  symbols id := (isGrounded_of_firstCyclicReference? hsymbols id).not_onCycle
  namespaces id hcycle := by
    obtain ⟨visited, hwalk⟩ := exists_isWalk_parent? hnamespaces id
    exact hcycle.neverEnds visited hwalk

/-- Where references exist and form no cycle, they come to an end, and so do parents. -/
theorem isWellformed_of_isAcyclic (hexist : arena.ReferencesExist) (hacyclic : arena.IsAcyclic) :
    arena.IsWellformed where
  isSome_of_mem_references := hexist
  isGrounded id := by
    obtain ⟨steps, hends⟩ := CycleSearch.endsAfter_initial arena
    refine isGrounded_of_firstCyclicReference? (Option.eq_none_iff_forall_ne_some.mpr ?_) id
    intro other hother
    exact hacyclic.symbols other (hends.onCycle (CycleSearch.isTrail_initial arena) other hother)
  parents_end id := by
    by_contra hends
    obtain ⟨other, hcycle⟩ := exists_onParentCycle (not_exists.mp hends)
    exact hacyclic.namespaces other hcycle

/-! ### One containing type outwards -/

/-- The namespace that a symbol declares itself. -/
def declaredNamespace? (arena : SymbolArena) (id : SymbolId) : Option NamespaceId :=
  (arena.get? id).bind Symbol.declaredNamespace

/-- What has a containing type exists. -/
theorem isSome_get?_of_containingType? (hcontainer : arena.containingType? id = some container) :
    (arena.get? id).isSome := by
  obtain ⟨symbol, hsymbol, -⟩ := Option.bind_eq_some_iff.mp hcontainer
  rw [hsymbol]
  rfl

/-- A symbol without a containing type has no containers. -/
theorem containers_of_outermost (houtermost : arena.containingType? id = none) :
    arena.containers id = [] := by
  rw [containers, houtermost]
  cases arena.symbols.size <;> rfl

/-- The canonical name of a symbol that exists spells its segments, from the outside in. -/
theorem canonicalName_of_isSome (hid : (arena.get? id).isSome) :
    arena.canonicalName id = Dotted.join (arena.pathSegments id true).reverse := by
  obtain ⟨symbol, hsymbol⟩ := Option.isSome_iff_exists.mp hid
  rw [canonicalName, canonicalPath, hsymbol]

/-- A symbol outside of all types is in the namespace that it declares. -/
theorem containingNamespace?_of_outermost (houtermost : arena.containingType? id = none) :
    arena.containingNamespace? id = arena.declaredNamespace? id := by
  rw [containingNamespace?, containers_of_outermost houtermost, List.findSome?_singleton,
    declaredNamespace?]

/-- A symbol outside of all types is named after the namespace that it declares. -/
theorem canonicalName_of_outermost (hid : (arena.get? id).isSome)
    (houtermost : arena.containingType? id = none) :
    arena.canonicalName id = Dotted.join
      ((arena.namespaceNames (arena.declaredNamespace? id)).reverse ++ [arena.ownName id]) := by
  obtain ⟨symbol, hsymbol⟩ := Option.isSome_iff_exists.mp hid
  have hnamespace : arena.outermostNamespace? id = arena.declaredNamespace? id := by
    simp [outermostNamespace?, containers_of_outermost houtermost, declaredNamespace?, hsymbol]
  rw [canonicalName_of_isSome hid, pathSegments, containers_of_outermost houtermost, hnamespace]
  simp

namespace IsWellformed

variable (h : arena.IsWellformed)

include h

/-- The containers of a symbol are its containing type and the containers of that. -/
theorem containers_of_containingType? (hcontainer : arena.containingType? id = some container) :
    arena.containers id = container :: arena.containers container := by
  obtain ⟨visited, hvisited⟩ :=
    h.exists_isWalk (fun _ _ => mem_structuralReferences_of_containingType?) container
  have hall := h.cons_containers_eq (.step (hcontainer ▸ hvisited) : IsWalk _ (some id) _)
  rw [h.cons_containers_eq hvisited]
  exact (List.cons.inj hall).2

/-- A symbol that declares no namespace is in that of its containing type. -/
theorem containingNamespace?_of_containingType?
    (hcontainer : arena.containingType? id = some container)
    (hundeclared : arena.declaredNamespace? id = none) :
    arena.containingNamespace? id = arena.containingNamespace? container := by
  rw [declaredNamespace?] at hundeclared
  rw [containingNamespace?, h.containers_of_containingType? hcontainer, List.findSome?_cons,
    hundeclared, containingNamespace?]

/-- A symbol has its outermost type from its containing type. -/
theorem outermostNamespace?_of_containingType?
    (hcontainer : arena.containingType? id = some container) :
    arena.outermostNamespace? id = arena.outermostNamespace? container := by
  obtain ⟨symbol, hsymbol⟩ :=
    Option.isSome_iff_exists.mp (isSome_get?_of_containingType? hcontainer)
  obtain ⟨type, htype⟩ := Option.isSome_iff_exists.mp (h.isSome_of_containingType? hcontainer)
  rw [outermostNamespace?, outermostNamespace?, h.containers_of_containingType? hcontainer,
    List.filterMap_cons_some hsymbol, List.filterMap_cons_some htype, List.getLast?_cons_cons]

/-- A symbol is named after its containing type. -/
theorem canonicalName_of_containingType?
    (hcontainer : arena.containingType? id = some container) :
    arena.canonicalName id = arena.canonicalName container ++ "." ++ arena.ownName id := by
  have hsegments : arena.pathSegments id true =
      arena.ownName id :: arena.pathSegments container true := by
    simp [pathSegments, h.containers_of_containingType? hcontainer,
      h.outermostNamespace?_of_containingType? hcontainer]
  have hne : (arena.pathSegments container true).reverse ≠ [] := by
    simp [pathSegments]
  rw [canonicalName_of_isSome (isSome_get?_of_containingType? hcontainer),
    canonicalName_of_isSome (h.isSome_of_containingType? hcontainer), hsegments,
    List.reverse_cons, Dotted.join_append hne (List.cons_ne_nil _ _), Dotted.join_singleton]

/-- The key of a member is its canonical name. -/
theorem memberName_of_isMember {symbol : Symbol} (hsymbol : arena.get? id = some symbol)
    (hmember : symbol.isMember) : arena.memberName id = arena.canonicalName id := by
  obtain ⟨host, hhost⟩ : ∃ host, symbol.containingType = some host := by
    cases symbol
    case type | other => cases hmember
    all_goals exact ⟨_, rfl⟩
  have hcontainer : arena.containingType? id = some host := by
    rw [containingType?, hsymbol, Option.bind_some, hhost]
  have hname : arena.ownName id = symbol.name := by
    rw [ownName, hsymbol]
    cases symbol
    case type => cases hmember
    all_goals rfl
  calc arena.memberName id
      = arena.canonicalName host ++ "." ++ symbol.name := by
        simp only [memberName, hsymbol, hhost, memberKey]
    _ = arena.canonicalName host ++ "." ++ arena.ownName id := by rw [hname]
    _ = arena.canonicalName id := (h.canonicalName_of_containingType? hcontainer).symm

/-! ### All containing types outwards -/

variable {inner : List SymbolId} {outermost : SymbolId}

/-- A symbol is named after the outermost of its containing types and those in between. -/
theorem canonicalName_of_isWalk
    (hwalk : IsWalk arena.containingType? (some id) (inner ++ [outermost])) :
    arena.canonicalName id =
      Dotted.join (arena.canonicalName outermost :: inner.reverse.map arena.ownName) := by
  induction inner generalizing id with
  | nil =>
      cases hwalk
      rw [List.reverse_nil, List.map_nil, Dotted.join_singleton]
  | cons first rest ih =>
      obtain ⟨hfirst, container, hcontainer, hrest⟩ := IsWalk.exists_next hwalk
      obtain rfl : id = first := Option.some.inj hfirst
      calc arena.canonicalName id
          = arena.canonicalName container ++ "." ++ arena.ownName id :=
            h.canonicalName_of_containingType? hcontainer
        _ = Dotted.join ((arena.canonicalName outermost :: rest.reverse.map arena.ownName) ++
              [arena.ownName id]) := by
            rw [ih hrest, Dotted.join_append (List.cons_ne_nil _ _) (List.cons_ne_nil _ _),
              Dotted.join_singleton]
        _ = Dotted.join
              (arena.canonicalName outermost :: (id :: rest).reverse.map arena.ownName) := by
            rw [List.reverse_cons, List.map_append, List.map_singleton, List.cons_append]

/-- A symbol is in the namespace of the outermost of its containing types, where those in between
declare none. -/
theorem containingNamespace?_of_isWalk
    (hwalk : IsWalk arena.containingType? (some id) (inner ++ [outermost]))
    (hundeclared : ∀ other ∈ inner, arena.declaredNamespace? other = none) :
    arena.containingNamespace? id = arena.declaredNamespace? outermost := by
  induction inner generalizing id with
  | nil =>
      have houtermost := hwalk.next_getLast rfl
      cases hwalk
      exact containingNamespace?_of_outermost houtermost
  | cons first rest ih =>
      obtain ⟨hfirst, container, hcontainer, hrest⟩ := IsWalk.exists_next hwalk
      obtain rfl : id = first := Option.some.inj hfirst
      obtain ⟨hid, hundeclared⟩ := List.forall_mem_cons.mp hundeclared
      rw [h.containingNamespace?_of_containingType? hcontainer hid, ih hrest hundeclared]

/-! ### The namespace in front -/

/-- The names on the way up from a namespace are not empty. -/
theorem ne_empty_of_mem_namespaceNames {ns? : Option NamespaceId} {name : String}
    (hname : name ∈ arena.namespaceNames ns?) : name ≠ "" := by
  obtain ⟨visited, hwalk⟩ := h.exists_isWalk_namespaceAbove? ns?
  rw [namespaceNames_eq hwalk] at hname
  obtain ⟨ns, -, hproper⟩ := List.mem_filterMap.mp hname
  exact of_decide_eq_true (Option.filter_eq_some_iff.mp hproper).2

end IsWellformed

/-- The path of a namespace as the beginning of a longer one, to which an empty path adds
nothing. -/
def leadingPath? (arena : SymbolArena) (ns? : Option NamespaceId) : Option String :=
  (ns?.map arena.namespacePath).filter (· ≠ "")

/-- A path that begins with the path of a namespace begins with the namespace's names. -/
theorem IsWellformed.join_leadingPath? (h : arena.IsWellformed) (ns? : Option NamespaceId)
    (rest : List String) :
    Dotted.join ((arena.leadingPath? ns?).toList ++ rest) =
      Dotted.join ((arena.namespaceNames ns?).reverse ++ rest) := by
  cases ns? with
  | none =>
      have hnames : arena.namespaceNames none = [] := by
        rw [namespaceNames]
        cases arena.namespaces.size <;> rfl
      rw [hnames]
      rfl
  | some ns =>
      rw [leadingPath?, Option.map_some, namespacePath]
      by_cases hnames : (arena.namespaceNames (some ns)).reverse = []
      · rw [hnames]
        rfl
      · have hpath : Dotted.join (arena.namespaceNames (some ns)).reverse ≠ "" :=
          Dotted.join_ne_empty hnames fun name hname =>
            h.ne_empty_of_mem_namespaceNames (List.mem_reverse.mp hname)
        rw [Option.filter_some_pos (by simpa using hpath), Option.toList_some,
          List.singleton_append, Dotted.join_join_cons hnames]

/-- **The paths that name a symbol agree**, in every arena whose references exist and form no cycle.
A symbol in a type is named after the type, and the key of a member is its canonical name. From each
symbol containing types lead to an outermost one; where no other symbol on the way declares a
namespace, the symbol is in the namespace of the outermost one and its canonical name is the path of
that namespace, unless it is empty, and the names from the outermost symbol to it. -/
theorem namingPaths_agree (hexist : arena.ReferencesExist) (hacyclic : arena.IsAcyclic) :
    (∀ id container, arena.containingType? id = some container →
      arena.canonicalName id = arena.canonicalName container ++ "." ++ arena.ownName id) ∧
    (∀ id symbol, arena.get? id = some symbol → symbol.isMember →
      arena.memberName id = arena.canonicalName id) ∧
    ∀ id, (arena.get? id).isSome → ∃ inner outermost,
      IsWalk arena.containingType? (some id) (inner ++ [outermost]) ∧
      ((∀ other ∈ inner, arena.declaredNamespace? other = none) →
        arena.containingNamespace? id = arena.declaredNamespace? outermost ∧
        arena.canonicalName id = Dotted.join
          ((arena.leadingPath? (arena.containingNamespace? id)).toList ++
            (inner ++ [outermost]).reverse.map arena.ownName)) := by
  have h : arena.IsWellformed := isWellformed_of_isAcyclic hexist hacyclic
  refine ⟨fun _ _ => h.canonicalName_of_containingType?, fun _ _ => h.memberName_of_isMember,
    fun id hid => ?_⟩
  obtain ⟨visited, hvisited⟩ :=
    h.exists_isWalk (fun _ _ => mem_structuralReferences_of_containingType?) id
  obtain rfl | ⟨inner, outermost, rfl⟩ := visited.eq_nil_or_concat'
  · cases hvisited
  refine ⟨inner, outermost, hvisited, fun hundeclared => ?_⟩
  have hnamespace := h.containingNamespace?_of_isWalk hvisited hundeclared
  have hexists : (arena.get? outermost).isSome :=
    hvisited.forall_mem (P := fun other => (arena.get? other).isSome)
      (fun _ hother => Option.some.inj hother ▸ hid) (fun _ _ _ => h.isSome_of_containingType?)
      outermost (List.mem_append_right _ List.mem_cons_self)
  -- the name starts with the path of the namespace of the outermost container
  have houtermost := canonicalName_of_outermost hexists
    (hvisited.next_getLast List.getLast?_concat)
  have hreverse : (inner ++ [outermost]).reverse.map arena.ownName =
      arena.ownName outermost :: inner.reverse.map arena.ownName := by
    rw [List.reverse_append, List.reverse_singleton, List.singleton_append, List.map_cons]
  refine ⟨hnamespace, ?_⟩
  rw [hnamespace, hreverse]
  calc arena.canonicalName id
      = Dotted.join (arena.canonicalName outermost :: inner.reverse.map arena.ownName) :=
        h.canonicalName_of_isWalk hvisited
    _ = Dotted.join ((arena.namespaceNames (arena.declaredNamespace? outermost)).reverse ++
          arena.ownName outermost :: inner.reverse.map arena.ownName) := by
        rw [houtermost, Dotted.join_join_cons (List.concat_ne_nil _ _), List.append_assoc,
          List.singleton_append]
    _ = Dotted.join ((arena.leadingPath? (arena.declaredNamespace? outermost)).toList ++
          arena.ownName outermost :: inner.reverse.map arena.ownName) :=
        (h.join_leadingPath? _ _).symm

/-- A method of a type that is nested in a generic one. -/
def methodOfNested : SymbolArena where
  assemblies := #["Game"]
  namespaces := #[
    { name := "", children := [⟨1⟩] },
    { name := "App", parent := some ⟨0⟩, children := [⟨2⟩] },
    { name := "Models", parent := some ⟨1⟩ }]
  symbols := #[
    .type { name := "Box", kind := .classType, assembly := ⟨0⟩, namespaceId := some ⟨2⟩,
            typeParameters := ["T"] },
    .type { name := "Lid", kind := .struct, assembly := ⟨0⟩, containingType := some ⟨0⟩ },
    .method { name := "Open", containingType := ⟨1⟩, assembly := ⟨0⟩ }]

/-- The method of `methodOfNested` is in the namespace of the outer type and named after both. -/
theorem namingPaths_agree_methodOfNested :
    methodOfNested.ReferencesExist ∧ methodOfNested.IsAcyclic ∧
    methodOfNested.memberName ⟨2⟩ = methodOfNested.canonicalName ⟨2⟩ ∧
    methodOfNested.containingNamespace? ⟨2⟩ = some ⟨2⟩ ∧
    methodOfNested.canonicalName ⟨2⟩ = Dotted.join ["App.Models", "Box_T", "Lid", "Open"] := by
  have hexist : methodOfNested.ReferencesExist := fun _ _ hsymbol _ =>
    isSome_get?_of_mem_references (by decide +kernel) hsymbol
  have hacyclic : methodOfNested.IsAcyclic :=
    isAcyclic_of_checks (by decide +kernel) (by decide +kernel)
  obtain ⟨-, hkey, hpath⟩ := namingPaths_agree hexist hacyclic
  obtain ⟨inner, outermost, hwalk, hpath⟩ := hpath ⟨2⟩ rfl
  have houtwards : IsWalk methodOfNested.containingType? (some ⟨2⟩) [⟨2⟩, ⟨1⟩, ⟨0⟩] :=
    .step (.step (.step .stop))
  have hchain : inner ++ [outermost] = [⟨2⟩, ⟨1⟩] ++ [⟨0⟩] := houtwards.unique hwalk
  obtain ⟨rfl, houtermost⟩ := List.append_inj' hchain rfl
  obtain rfl : outermost = ⟨0⟩ := List.singleton_inj.mp houtermost
  obtain ⟨hnamespace, hname⟩ := hpath (by decide +kernel)
  refine ⟨hexist, hacyclic, hkey ⟨2⟩ _ rfl rfl, hnamespace, hname.trans ?_⟩
  rw [hnamespace]
  decide +kernel

end SymbolArena

end Portability
