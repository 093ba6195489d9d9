import Portability.Judge
import Portability.Proofs.Symbol.Wellformed

/-!
# Naming and classifying go on walks

The functions that name and classify a symbol recurse on fuel: as much as there are symbols or
namespaces. In a well-formed arena the fuel never runs out, so their answers are those of the loops
without it. Each loop has a walk, `SymbolWalk` or `NamespaceWalk`, which passes nothing twice, and
the answer is read off the walk:

* `namespaceNames_eq`, `containers_eq`, `containingNamespace?_eq`, `canonicalPath_eq` for names,
* `core_eq`, `allowsType_eq` for types.
-/

namespace Portability

namespace SymbolArena

variable {arena : SymbolArena}

/-! ### Loops -/

/-- The namespace that a path goes on with: the parent of one that has a name. -/
def namespaceAbove? (arena : SymbolArena) (id : NamespaceId) : Option NamespaceId :=
  (arena.namespace? id).bind fun ns => if ns.name = "" then none else ns.parent

/-- The containing type of a symbol that declares no namespace itself. -/
def undeclaredContainer? (arena : SymbolArena) (id : SymbolId) : Option SymbolId :=
  (arena.get? id).bind fun symbol =>
    if symbol.declaredNamespace.isSome then none else symbol.containingType

/-- The element type of an array or a nullable type. -/
def elementType? (arena : SymbolArena) (id : SymbolId) : Option SymbolId :=
  (arena.type? id).bind fun type => if type.kind.isContainer then type.elementType else none

/-- The name of a namespace, if it has one. -/
def properName? (arena : SymbolArena) (id : NamespaceId) : Option String :=
  ((arena.namespace? id).map Namespace.name).filter (· ≠ "")

/-- The walk of a loop through symbols: it ends and passes no symbol twice, so it passes at most as
many as there are. A handle that points nowhere can be looked up, which is no symbol passed. -/
structure SymbolWalk (arena : SymbolArena) (next : SymbolId → Option SymbolId) (start : SymbolId)
    (visited : List SymbolId) : Prop where
  isWalk : IsWalk next (some start) visited
  nodup : visited.Nodup
  length_le : (visited.filter fun id => (arena.get? id).isSome).length ≤ arena.symbols.size

/-- The walk of the loop through a namespace and its parents: it ends and passes no namespace twice,
so it passes at most as many as there are. -/
structure NamespaceWalk (arena : SymbolArena) (start : Option NamespaceId)
    (visited : List NamespaceId) : Prop where
  isWalk : IsWalk arena.namespaceAbove? start visited
  nodup : visited.Nodup
  length_le :
    (visited.filter fun id => (arena.namespace? id).isSome).length ≤ arena.namespaces.size

/-- A walk through symbols that ends passes none twice. -/
theorem SymbolWalk.ofIsWalk {next : SymbolId → Option SymbolId} {start : SymbolId}
    {visited : List SymbolId} (h : IsWalk next (some start) visited) :
    arena.SymbolWalk next start visited :=
  ⟨h, h.nodup, length_le_symbols (h.nodup.filter _) fun _ hid => (List.mem_filter.mp hid).2⟩

/-- A walk through namespaces that ends passes none twice. -/
theorem NamespaceWalk.ofIsWalk {start : Option NamespaceId} {visited : List NamespaceId}
    (h : IsWalk arena.namespaceAbove? start visited) : arena.NamespaceWalk start visited :=
  ⟨h, h.nodup, length_le_namespaces (h.nodup.filter _) fun _ hid => (List.mem_filter.mp hid).2⟩

/-- The walks of naming a symbol: through its containing types, and from the namespace of the
outermost of them through its parents. -/
structure NameWalk (arena : SymbolArena) (id : SymbolId) (visited : List SymbolId)
    (namespaces : List NamespaceId) : Prop where
  containers : arena.SymbolWalk arena.containingType? id visited
  parents : arena.NamespaceWalk
    ((visited.getLast?.bind arena.get?).bind Symbol.declaredNamespace) namespaces

/-- The dotted path that the walks of naming a symbol spell, with or without the symbol's own
name. -/
def walkedPath (arena : SymbolArena) (visited : List SymbolId) (namespaces : List NamespaceId)
    (includeSelf : Bool) : String :=
  let symbols := if includeSelf then visited else visited.tail
  Dotted.join (symbols.map arena.ownName ++ namespaces.filterMap arena.properName?).reverse

/-! ### Loops that end -/

/-- A containing type is a structural reference. -/
theorem mem_structuralReferences_of_containingType? {id other : SymbolId}
    (h : other ∈ arena.containingType? id) : other ∈ arena.structuralReferences id := by
  obtain ⟨symbol, hsymbol, hother⟩ := Option.bind_eq_some_iff.mp h
  rw [structuralReferences, hsymbol]
  cases symbol
  case type =>
    exact List.mem_append_left _ (List.mem_append_left _ (Option.mem_toList.mpr hother))
  all_goals exact Option.mem_toList.mpr hother

/-- An element type is a structural reference. -/
theorem mem_structuralReferences_of_elementType? {id other : SymbolId}
    (h : other ∈ arena.elementType? id) : other ∈ arena.structuralReferences id := by
  obtain ⟨type, htype, hother⟩ := Option.bind_eq_some_iff.mp h
  rw [structuralReferences, type?_eq_some.mp htype]
  split at hother
  · exact List.mem_append_left _ (List.mem_append_right _ (Option.mem_toList.mpr hother))
  · cases hother

/-- The container of a symbol is left out where the symbol declares its own namespace. -/
theorem undeclaredContainer?_eq_or (id : SymbolId) :
    arena.undeclaredContainer? id = arena.containingType? id ∨
      arena.undeclaredContainer? id = none := by
  rw [undeclaredContainer?, containingType?]
  cases arena.get? id with
  | none => exact .inl rfl
  | some symbol =>
      cases hdeclared : symbol.declaredNamespace.isSome with
      | true => exact .inr (if_pos hdeclared)
      | false => exact .inl (if_neg (by rw [hdeclared]; exact Bool.false_ne_true))

/-- The way up from a namespace goes to its parent, or it ends. -/
theorem namespaceAbove?_eq_or (id : NamespaceId) :
    arena.namespaceAbove? id = arena.parent? id ∨ arena.namespaceAbove? id = none := by
  rw [namespaceAbove?, parent?]
  cases arena.namespace? id with
  | none => exact .inl rfl
  | some ns =>
      by_cases hname : ns.name = ""
      · exact .inr (if_pos hname)
      · exact .inl (if_neg hname)

namespace IsWellformed

variable (h : arena.IsWellformed)

include h

/-- A loop along structural references has a walk. -/
theorem exists_isWalk {next : SymbolId → Option SymbolId}
    (hnext : ∀ id, ∀ other ∈ next id, other ∈ arena.structuralReferences id) (id : SymbolId) :
    ∃ visited, IsWalk next (some id) visited :=
  exists_isWalk_of_acc hnext (h.isGrounded id)

/-- In a well-formed arena every way up from a namespace ends. -/
theorem exists_isWalk_namespaceAbove? (start : Option NamespaceId) :
    ∃ visited, IsWalk arena.namespaceAbove? start visited := by
  cases start with
  | none => exact ⟨[], .stop⟩
  | some id =>
      obtain ⟨visited, hvisited⟩ := h.parents_end id
      obtain ⟨passed, hpassed, -⟩ := hvisited.restrict namespaceAbove?_eq_or
      exact ⟨passed, hpassed⟩

/-- Containing types exist. -/
theorem isSome_of_containingType? {id other : SymbolId}
    (hother : other ∈ arena.containingType? id) : (arena.get? other).isSome :=
  h.isSome_of_mem_structuralReferences (mem_structuralReferences_of_containingType? hother)

end IsWellformed

/-! ### Names -/

/-- The names on the way up from a namespace are those on the walk, where the fuel is enough for
all that exist. -/
theorem namespaceNamesFrom_eq {start : Option NamespaceId} {visited : List NamespaceId}
    (h : IsWalk arena.namespaceAbove? start visited) {fuel : Nat}
    (hfuel : (visited.filter fun id => (arena.namespace? id).isSome).length ≤ fuel) :
    arena.namespaceNamesFrom fuel start = visited.filterMap arena.properName? := by
  induction h generalizing fuel with
  | stop => cases fuel <;> rfl
  | @step id rest hrest ih =>
      cases hns : arena.namespace? id with
      | none =>
          rw [namespaceAbove?, hns] at hrest
          cases hrest
          cases fuel <;> simp [namespaceNamesFrom, properName?, hns]
      | some ns =>
          rw [List.filter_cons_of_pos (by rw [hns]; rfl), List.length_cons] at hfuel
          obtain ⟨fuel, rfl⟩ : ∃ rest, fuel = rest + 1 := ⟨fuel - 1, by omega⟩
          rw [namespaceAbove?, hns, Option.bind_some] at ih hrest
          by_cases hname : ns.name = ""
          · rw [if_pos hname] at hrest
            cases hrest
            simp [namespaceNamesFrom, properName?, hns, hname]
          · rw [if_neg hname] at ih
            have hproper : arena.properName? id = some ns.name := by
              simp [properName?, hns, hname]
            rw [List.filterMap_cons_some hproper, ← ih (Nat.le_of_succ_le_succ hfuel)]
            simp [namespaceNamesFrom, hns, hname]

/-- The names of a namespace and its parents are those on the walk. -/
theorem namespaceNames_eq {start : Option NamespaceId} {visited : List NamespaceId}
    (h : IsWalk arena.namespaceAbove? start visited) :
    arena.namespaceNames start = visited.filterMap arena.properName? :=
  namespaceNamesFrom_eq h (NamespaceWalk.ofIsWalk h).length_le

/-- The containers are what a walk along containing types visits, given fuel for it. -/
theorem containersFrom_eq {start : Option SymbolId} {visited : List SymbolId}
    (h : IsWalk arena.containingType? start visited) {fuel : Nat} (hfuel : visited.length ≤ fuel) :
    arena.containersFrom fuel start = visited := by
  induction h generalizing fuel with
  | stop => cases fuel <;> rfl
  | @step id rest _ ih =>
      rw [List.length_cons] at hfuel
      obtain ⟨fuel, rfl⟩ : ∃ rest, fuel = rest + 1 := ⟨fuel - 1, by omega⟩
      rw [containersFrom, ih (Nat.le_of_succ_le_succ hfuel)]

namespace IsWellformed

variable (h : arena.IsWellformed)

include h

/-- The containing types of a symbol are those on the walk that starts with it. -/
theorem cons_containers_eq {id : SymbolId} {visited : List SymbolId}
    (hwalk : IsWalk arena.containingType? (some id) visited) :
    id :: arena.containers id = visited := by
  cases hwalk with
  | @step _ rest hrest =>
      have hexist : ∀ other ∈ rest, (arena.get? other).isSome :=
        hrest.forall_mem (fun _ => h.isSome_of_containingType?)
          fun _ _ _ => h.isSome_of_containingType?
      rw [containers, containersFrom_eq hrest (length_le_symbols hrest.nodup hexist)]

/-- A symbol belongs to the first namespace that is declared on the walk to its outermost
containing type, which ends there. -/
theorem containingNamespace?_eq {id : SymbolId} {visited : List SymbolId}
    (hwalk : IsWalk arena.undeclaredContainer? (some id) visited) :
    arena.containingNamespace? id =
      visited.findSome? fun container => (arena.get? container).bind Symbol.declaredNamespace := by
  obtain ⟨chain, hchain⟩ :=
    h.exists_isWalk (fun _ _ => mem_structuralReferences_of_containingType?) id
  rw [containingNamespace?, h.cons_containers_eq hchain]
  clear h
  generalize some id = start at hwalk hchain
  induction hwalk generalizing chain with
  | stop =>
      cases hchain
      rfl
  | @step item rest hrest ih =>
      cases hchain with
      | @step _ others hothers =>
          rw [List.findSome?_cons, List.findSome?_cons]
          cases hsymbol : arena.get? item with
          | none =>
              rw [undeclaredContainer?, hsymbol] at ih
              rw [containingType?, hsymbol] at hothers
              rw [Option.bind_none, ih others hothers]
          | some symbol =>
              cases hdeclared : symbol.declaredNamespace with
              | some ns => rw [Option.bind_some, hdeclared]
              | none =>
                  rw [undeclaredContainer?, hsymbol, Option.bind_some, hdeclared] at ih
                  rw [containingType?, hsymbol, Option.bind_some] at hothers
                  rw [Option.bind_some, hdeclared]
                  exact ih others hothers

/-- The outermost containing type of a symbol that exists is the last one on the walk. -/
theorem outermostNamespace?_eq {id : SymbolId} {visited : List SymbolId}
    (hid : (arena.get? id).isSome) (hwalk : IsWalk arena.containingType? (some id) visited) :
    arena.outermostNamespace? id =
      (visited.getLast?.bind arena.get?).bind Symbol.declaredNamespace := by
  have hexist : ∀ other ∈ visited, (arena.get? other).isSome :=
    hwalk.forall_mem (fun _ hother => Option.some.inj hother ▸ hid)
      fun _ _ _ => h.isSome_of_containingType?
  rw [outermostNamespace?, h.cons_containers_eq hwalk]
  rcases visited.eq_nil_or_concat' with rfl | ⟨inner, last, rfl⟩
  · rfl
  · obtain ⟨symbol, hsymbol⟩ :=
      Option.isSome_iff_exists.mp (hexist last (List.mem_append_right _ List.mem_cons_self))
    simp [hsymbol]

/-- Every symbol can be named by walks that end. -/
theorem exists_nameWalk (id : SymbolId) :
    ∃ visited namespaces, arena.NameWalk id visited namespaces := by
  obtain ⟨visited, hvisited⟩ :=
    h.exists_isWalk (fun _ _ => mem_structuralReferences_of_containingType?) id
  obtain ⟨namespaces, hnamespaces⟩ := h.exists_isWalk_namespaceAbove?
    ((visited.getLast?.bind arena.get?).bind Symbol.declaredNamespace)
  exact ⟨visited, namespaces, .ofIsWalk hvisited, .ofIsWalk hnamespaces⟩

/-- The path of a symbol is what its walks spell. -/
theorem canonicalPath_eq {id : SymbolId} {visited : List SymbolId} {namespaces : List NamespaceId}
    (hwalk : arena.NameWalk id visited namespaces) (includeSelf : Bool) :
    arena.canonicalPath id includeSelf = arena.walkedPath visited namespaces includeSelf := by
  obtain ⟨⟨hvisited, -, -⟩, ⟨hnamespaces, -, -⟩⟩ := hwalk
  have hcontainers := h.cons_containers_eq hvisited
  cases hid : arena.get? id with
  | none =>
      -- the walk of a missing symbol is the symbol alone, which has the empty name
      have hcontainer : arena.containingType? id = none := by
        rw [containingType?, hid, Option.bind_none]
      have halone : visited = [id] := IsWalk.unique (.step (hcontainer ▸ .stop)) hvisited
      subst halone
      rw [List.getLast?_singleton, Option.bind_some, hid] at hnamespaces
      cases hnamespaces
      cases includeSelf <;> simp [canonicalPath, walkedPath, ownName, hid, Dotted.join]
  | some symbol =>
      have houtermost := h.outermostNamespace?_eq (by rw [hid]; rfl) hvisited
      have hparents := namespaceNames_eq hnamespaces
      rw [← houtermost] at hparents
      simp only [canonicalPath, hid, pathSegments, hparents, walkedPath, ← hcontainers]
      cases includeSelf <;> simp

end IsWellformed

/-! ### Instantiations -/

/-- The type arguments of a symbol. -/
def typeArguments (arena : SymbolArena) (id : SymbolId) : List SymbolId :=
  match arena.get? id with
  | some (.type type) => type.typeArguments
  | some (.method method) => method.typeArguments
  | _ => []

/-- The type parameters of a symbol. -/
def typeParameters (arena : SymbolArena) (id : SymbolId) : List String :=
  ((arena.get? id).map Symbol.typeParameters).getD []

/-- A type argument as an extended name spells it, where `name` is its canonical name. -/
def spellArgument (arena : SymbolArena) (argument : SymbolId) (name : String) : String :=
  match (arena.type? argument).map TypeSymbol.kind with
  | some .delegate => "\"" ++ name ++ "\""
  | some .typeParameter => ((arena.get? argument).map Symbol.name).getD ""
  | _ => name

/-- `base` with an instantiation that is spelled already. -/
def appendInstantiation (base : String) (parameters spelled : List String) : String :=
  if parameters.isEmpty then base
  else base ++ "|" ++ String.intercalate ", " (if spelled.isEmpty then parameters else spelled)

/-- An argument is spelled by its canonical name. -/
theorem argumentName_eq (argument : SymbolId) :
    arena.argumentName argument = arena.spellArgument argument (arena.canonicalName argument) :=
  rfl

/-- The instantiation behind a name is spelled from the names of the arguments. -/
theorem withInstantiation_eq (base : String) (parameters : List String)
    (arguments : List SymbolId) :
    arena.withInstantiation base parameters arguments =
      appendInstantiation base parameters (arguments.map arena.argumentName) := by
  rw [withInstantiation, appendInstantiation, List.isEmpty_map]

/-- An extended name is a name with the parameters and the names of the arguments of its symbol. -/
theorem extendedName_eq (base : String) (id : SymbolId) :
    arena.extendedName base id =
      appendInstantiation base (arena.typeParameters id)
        ((arena.typeArguments id).map arena.argumentName) := by
  rw [extendedName, typeParameters, typeArguments]
  cases arena.get? id with
  | none => rfl
  | some symbol =>
      cases symbol
      case type | method => exact withInstantiation_eq base _ _
      all_goals rfl

/-! ### Element types -/

/-- Arrays and nullable types stand for their element type, and no other type does. -/
theorem elementType?_of_type? {id : SymbolId} {type : TypeSymbol}
    (htype : arena.type? id = some type) :
    arena.elementType? id = if type.kind.isContainer then type.elementType else none := by
  rw [elementType?, htype, Option.bind_some]

/-- What has an element type exists. -/
theorem isSome_get?_of_elementType? {id element : SymbolId}
    (helement : arena.elementType? id = some element) : (arena.get? id).isSome := by
  obtain ⟨type, htype, -⟩ := Option.bind_eq_some_iff.mp helement
  rw [type?_eq_some.mp htype]
  rfl

/-- What does not exist has no element type. -/
theorem elementType?_of_get?_eq_none {id : SymbolId} (hid : arena.get? id = none) :
    arena.elementType? id = none := by
  rw [elementType?, type?, hid]
  rfl

/-- What is asked along element types is answered for the last one on the walk, where the fuel is
enough for all that exist. -/
theorem eq_of_isWalk_elementType? {β : Type} {answer : Nat → SymbolId → β}
    (hmissing : ∀ id, arena.get? id = none → answer 0 id = answer 1 id)
    (hsucc : ∀ fuel id, answer (fuel + 1) id =
      match arena.elementType? id with
      | some element => answer fuel element
      | none => answer 1 id)
    {id last : SymbolId} {visited : List SymbolId}
    (h : IsWalk arena.elementType? (some id) visited) (hlast : visited.getLast? = some last)
    {fuel : Nat} (hfuel : (visited.filter fun id => (arena.get? id).isSome).length ≤ fuel) :
    answer fuel id = answer 1 last := by
  induction fuel generalizing id visited with
  | zero =>
      cases h with
      | @step _ rest hrest =>
          -- no fuel is left, so the walk is a missing symbol alone
          have hnone :=
            List.filter_eq_nil_iff.mp (List.length_eq_zero_iff.mp (Nat.le_zero.mp hfuel))
          have hid : arena.get? id = none := by simpa using hnone id List.mem_cons_self
          rw [elementType?_of_get?_eq_none hid] at hrest
          cases hrest
          obtain rfl : id = last := Option.some.inj hlast
          exact hmissing id hid
  | succ fuel ih =>
      cases h with
      | @step _ rest hrest =>
          rw [hsucc]
          cases hnext : arena.elementType? id with
          | none =>
              rw [hnext] at hrest
              cases hrest
              obtain rfl : id = last := Option.some.inj hlast
              rfl
          | some element =>
              rw [hnext] at hrest
              have hlength : ((id :: rest).filter fun id => (arena.get? id).isSome).length =
                  (rest.filter fun id => (arena.get? id).isSome).length + 1 := by
                rw [List.filter_cons, if_pos (isSome_get?_of_elementType? hnext), List.length_cons]
              refine ih hrest ?_ (by omega)
              cases hrest
              rwa [List.getLast?_cons_cons] at hlast

/-- The core of a type is that of its element type, as long as there is one. -/
theorem coreFrom_succ (fuel : Nat) (id : SymbolId) :
    arena.coreFrom (fuel + 1) id =
      match arena.elementType? id with
      | some element => arena.coreFrom fuel element
      | none => id := by
  rw [coreFrom]
  cases htype : arena.type? id with
  | none => rw [elementType?, htype, Option.bind_none]
  | some type =>
      rw [elementType?_of_type? htype]
      dsimp only
      cases type.kind.isContainer with
      | false => rfl
      | true => cases type.elementType <;> rfl

/-- The innermost element type of a symbol is the last one on the walk. -/
theorem core_eq {id last : SymbolId} {visited : List SymbolId}
    (h : IsWalk arena.elementType? (some id) visited) (hlast : visited.getLast? = some last) :
    arena.core id = last := by
  have hone : ∀ id, arena.elementType? id = none → arena.coreFrom 1 id = id := by
    intro id hnext
    rw [coreFrom_succ, hnext]
  have hsucc : ∀ fuel id, arena.coreFrom (fuel + 1) id =
      match arena.elementType? id with
      | some element => arena.coreFrom fuel element
      | none => arena.coreFrom 1 id := by
    intro fuel id
    rw [coreFrom_succ]
    cases hnext : arena.elementType? id with
    | none => exact (hone id hnext).symm
    | some element => rfl
  calc arena.core id
      = arena.coreFrom 1 last :=
        eq_of_isWalk_elementType?
          (fun id hid => (hone id (elementType?_of_get?_eq_none hid)).symm) hsucc h hlast
          (SymbolWalk.ofIsWalk h).length_le
    _ = last := hone last (h.next_getLast hlast)

end SymbolArena

namespace Judge

/-- The verdict on a type is that on its element type, as long as there is one. -/
theorem allowsTypeTo_succ (judge : Judge) (position : TypePosition) (fuel : Nat) (id : SymbolId) :
    judge.allowsTypeTo position (fuel + 1) id =
      match judge.symbols.elementType? id with
      | some element => judge.allowsTypeTo position fuel element
      | none => judge.allowsTypeTo position 1 id := by
  rw [allowsTypeTo, allowsTypeTo]
  cases htype : judge.symbols.type? id with
  | none => rw [SymbolArena.elementType?, htype, Option.bind_none]
  | some type =>
      rw [SymbolArena.elementType?_of_type? htype]
      dsimp only
      cases hcontainer : type.kind.isContainer with
      | false => rfl
      | true => cases type.elementType <;> rfl

variable {judge : Judge} {id last : SymbolId} {visited : List SymbolId}

/-- A symbol is external if the last one on the walk along element types is of another assembly. -/
theorem isExternal_eq (h : IsWalk judge.symbols.elementType? (some id) visited)
    (hlast : visited.getLast? = some last) :
    judge.isExternal id = (judge.symbols.get? last).any fun symbol =>
      symbol.assembly != judge.model.programAssembly := by
  rw [isExternal, SymbolArena.core_eq h hlast]
  cases judge.symbols.get? last <;> rfl

/-- A type may occur where the last one on the walk along element types may. -/
theorem allowsType_eq (h : IsWalk judge.symbols.elementType? (some id) visited)
    (hlast : visited.getLast? = some last) (position : TypePosition) :
    judge.allowsType id position = judge.allowsTypeTo position 1 last := by
  rw [allowsType]
  refine judge.symbols.eq_of_isWalk_elementType? ?_ (judge.allowsTypeTo_succ position) h hlast
    (SymbolArena.SymbolWalk.ofIsWalk h).length_le
  intro id hid
  rw [allowsTypeTo, allowsTypeTo, SymbolArena.type?, hid]
  rfl

end Judge

end Portability
