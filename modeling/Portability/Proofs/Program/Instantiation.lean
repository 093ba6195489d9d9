import Portability.Proofs.Program.Validation
import Portability.Proofs.Symbol.Path

/-!
# What extended names tell apart

The extended name of an instantiation spells the declaration path of its type and, for each
argument, a path: that of its declaration, in quotes for a delegate, or the bare name for a type
parameter. With names that have none of the characters which the spelling uses, all of this can be
read off, and no more (`displayName_eq_iff`): what an argument itself is instantiated with is not
spelled, so lists of different lists go by the same name (`displayName_listsOfLists`).
-/

namespace Portability

namespace SymbolArena

variable {arena : SymbolArena}

/-! ### Arguments -/

/-- The path that an extended name spells for a type argument. -/
def argumentPath (arena : SymbolArena) (argument : SymbolId) : DeclarationPath :=
  if (arena.type? argument).any (·.kind == .typeParameter) then
    [{ name := (arena.segment argument).name }]
  else arena.declarationPath argument

/-- Whether a symbol is a delegate. -/
def isDelegate (arena : SymbolArena) (id : SymbolId) : Bool :=
  (arena.type? id).any TypeSymbol.isDelegate

/-- Two type arguments that an extended name does not tell apart: their paths agree, and both are
delegates or none of them is. -/
structure SpelledAlike (arena : SymbolArena) (argument other : SymbolId) : Prop where
  isDelegate_eq : arena.isDelegate argument = arena.isDelegate other
  argumentPath_eq : arena.argumentPath argument = arena.argumentPath other

/-- The path of an argument has a segment at least. -/
theorem argumentPath_ne_nil (argument : SymbolId) : arena.argumentPath argument ≠ [] := by
  rw [argumentPath]
  split
  · exact List.cons_ne_nil _ _
  · exact declarationPath_ne_nil argument

/-- A delegate is spelled by its path in quotes, and any other argument by its path. -/
theorem argumentName_eq_text {argument : SymbolId} (h : (arena.get? argument).isSome) :
    arena.argumentName argument =
      if arena.isDelegate argument then
        "\"" ++ DeclarationPath.text (arena.argumentPath argument) ++ "\""
      else DeclarationPath.text (arena.argumentPath argument) := by
  have hcanonical := canonicalName_eq h
  rw [argumentName, isDelegate, argumentPath]
  cases htype : arena.type? argument with
  | none => exact hcanonical
  | some type =>
      cases hkind : type.kind
      case typeParameter =>
        have hget := type?_eq_some.mp htype
        simp [hkind, TypeSymbol.isDelegate, hget, segment, DeclarationPath.text, Dotted.join,
          Symbol.name]
      all_goals simp [hkind, TypeSymbol.isDelegate, hcanonical]

/-! ### Names that can be read off -/

/-- The characters that extended names put between and around names. -/
def spellingCharacters : List Char :=
  ['.', '_', '|', ',', '"']

/-- Whether the names of namespaces, of types and of what stands for a type, and of their type
parameters have none of the characters that extended names put between them. -/
structure HasPlainNames (arena : SymbolArena) : Prop where
  namespaces : ∀ c ∈ spellingCharacters, ∀ id ns, arena.namespace? id = some ns →
    c ∉ ns.name.toList
  types : ∀ c ∈ spellingCharacters, ∀ id,
    (arena.type? id).isSome ∨ (∃ other, id ∈ arena.structuralReferences other) →
      (arena.segment id).Avoids c

namespace HasPlainNames

variable (h : arena.HasPlainNames) {c : Char} (hc : c ∈ spellingCharacters)

include h hc

/-- A character of the spelling is not within the names of a declaration path. -/
theorem avoids_declarationPath {id : SymbolId}
    (hid : (arena.type? id).isSome ∨ ∃ other, id ∈ arena.structuralReferences other) :
    DeclarationPath.Avoids (arena.declarationPath id) c := by
  refine SymbolArena.avoids_declarationPath (h.namespaces c hc) ?_ (h.types c hc id hid)
  intro other container hcontainer
  have hreference := mem_structuralReferences_of_containingType? hcontainer
  exact h.types c hc container (.inr ⟨other, hreference⟩)

/-- A character of the spelling is not within the names of an argument's path. -/
theorem avoids_argumentPath {argument other : SymbolId}
    (hargument : argument ∈ arena.structuralReferences other) :
    DeclarationPath.Avoids (arena.argumentPath argument) c := by
  rw [argumentPath]
  split
  · have hsegment := h.types c hc argument (.inr ⟨other, hargument⟩)
    exact List.forall_mem_singleton.mpr
      (List.forall_mem_singleton.mpr (hsegment _ List.mem_cons_self))
  · exact h.avoids_declarationPath hc (.inr ⟨other, hargument⟩)

end HasPlainNames

/-! ### Arguments that are told apart -/

section

variable (h : arena.HasPlainNames) {argument other host host' : SymbolId}
  (hargument : argument ∈ arena.structuralReferences host)
  (hother : other ∈ arena.structuralReferences host')

include h hargument hother

/-- Arguments have the same text just where they have the same path. -/
theorem text_argumentPath_inj :
    DeclarationPath.text (arena.argumentPath argument) =
        DeclarationPath.text (arena.argumentPath other) ↔
      arena.argumentPath argument = arena.argumentPath other :=
  DeclarationPath.text_inj (arena.argumentPath_ne_nil argument) (arena.argumentPath_ne_nil other)
    (h.avoids_argumentPath (by decide) hargument) (h.avoids_argumentPath (by decide) hother)
    (h.avoids_argumentPath (by decide) hargument) (h.avoids_argumentPath (by decide) hother)

/-- Arguments have the same name if they are spelled alike. -/
theorem argumentName_inj (hsome : (arena.get? argument).isSome)
    (hsome' : (arena.get? other).isSome) :
    arena.argumentName argument = arena.argumentName other ↔
      arena.SpelledAlike argument other := by
  have hquote {argument host : SymbolId} (hargument : argument ∈ arena.structuralReferences host) :
      '"' ∉ (DeclarationPath.text (arena.argumentPath argument)).toList :=
    (h.avoids_argumentPath (by decide) hargument).notMem_text (by decide) (by decide)
  have hmixed (text path : String) (htext : '"' ∉ text.toList) : text ≠ "\"" ++ path ++ "\"" := by
    rintro rfl
    exact htext (by simp)
  have hpaths := text_argumentPath_inj h hargument hother
  rw [argumentName_eq_text hsome, argumentName_eq_text hsome']
  cases hdelegate : arena.isDelegate argument <;> cases hdelegate' : arena.isDelegate other
  case false.false =>
    refine hpaths.trans ⟨fun hpath => ⟨hdelegate.trans hdelegate'.symm, hpath⟩, fun halike => ?_⟩
    exact halike.argumentPath_eq
  case true.true =>
    simp only [if_true, String.append_left_inj, String.append_right_inj]
    refine hpaths.trans ⟨fun hpath => ⟨hdelegate.trans hdelegate'.symm, hpath⟩, fun halike => ?_⟩
    exact halike.argumentPath_eq
  case false.true =>
    refine ⟨fun hname => absurd hname (hmixed _ _ (hquote hargument)), fun halike => ?_⟩
    exact absurd (hdelegate.symm.trans halike.isDelegate_eq) (by rw [hdelegate']; decide)
  case true.false =>
    refine ⟨fun hname => absurd hname.symm (hmixed _ _ (hquote hother)), fun halike => ?_⟩
    exact absurd (hdelegate.symm.trans halike.isDelegate_eq) (by rw [hdelegate']; decide)

end

/-- No comma occurs in the name of an argument. -/
theorem comma_notMem_argumentName (h : arena.HasPlainNames) {argument host : SymbolId}
    (hargument : argument ∈ arena.structuralReferences host)
    (hsome : (arena.get? argument).isSome) : ',' ∉ (arena.argumentName argument).toList := by
  have hpath : ',' ∉ (DeclarationPath.text (arena.argumentPath argument)).toList :=
    (h.avoids_argumentPath (by decide) hargument).notMem_text (by decide) (by decide)
  rw [argumentName_eq_text hsome]
  split
  · simpa using hpath
  · exact hpath

/-! ### Instantiations that are told apart -/

/-- Lists are related item by item under one relation if they are under another one that agrees on
their items. -/
theorem forall₂_congr_of_mem {α β : Type} {R S : α → β → Prop} {xs : List α} {ys : List β}
    (h : ∀ x ∈ xs, ∀ y ∈ ys, (R x y ↔ S x y)) : List.Forall₂ R xs ys ↔ List.Forall₂ S xs ys := by
  induction xs generalizing ys with
  | nil => rw [List.forall₂_nil_left_iff, List.forall₂_nil_left_iff]
  | cons x rest ih =>
      cases ys with
      | nil => rw [List.forall₂_nil_right_iff, List.forall₂_nil_right_iff]
      | cons y rest' =>
          rw [List.forall₂_cons, List.forall₂_cons, h x List.mem_cons_self y List.mem_cons_self,
            ih fun x hx y hy => h x (.tail _ hx) y (.tail _ hy)]

variable {id : SymbolId} {type : TypeSymbol}

/-- Type arguments are structural references of their type. -/
theorem typeArguments_subset (htype : arena.type? id = some type) :
    type.typeArguments ⊆ arena.structuralReferences id := by
  rw [structuralReferences, type?_eq_some.mp htype]
  exact List.subset_append_right _ _

/-- How an instantiated type is named. -/
theorem displayName_eq (htype : arena.type? id = some type) (hgeneric : type.isGeneric)
    (harguments : type.typeArguments ≠ []) :
    arena.displayName id = arena.canonicalName id ++ "|" ++
      String.intercalate ", " (type.typeArguments.map arena.argumentName) := by
  have hparameters : type.typeParameters.isEmpty = false := by
    rwa [TypeSymbol.isGeneric, Bool.not_eq_true'] at hgeneric
  simp only [displayName, extendedName, type?_eq_some.mp htype, withInstantiation, hparameters,
    List.isEmpty_eq_false_iff.mpr harguments, Bool.false_eq_true, if_false]

/-- What the type arguments of a type are, exists. -/
theorem isSome_of_mem_typeArguments (h : arena.IsWellformed) (htype : arena.type? id = some type)
    {argument : SymbolId} (hargument : argument ∈ type.typeArguments) :
    (arena.get? argument).isSome :=
  h.isSome_of_mem_structuralReferences (typeArguments_subset htype hargument)

/-- The arguments of two types have the same names if they are spelled alike. -/
theorem map_argumentName_inj (hwellformed : arena.IsWellformed) (h : arena.HasPlainNames)
    {other : SymbolId} {otherType : TypeSymbol} (htype : arena.type? id = some type)
    (hother : arena.type? other = some otherType) :
    type.typeArguments.map arena.argumentName = otherType.typeArguments.map arena.argumentName ↔
      List.Forall₂ arena.SpelledAlike type.typeArguments otherType.typeArguments := by
  rw [← List.forall₂_eq_eq_eq, List.forall₂_map_left_iff, List.forall₂_map_right_iff]
  refine forall₂_congr_of_mem fun argument hargument argument' hargument' => ?_
  exact argumentName_inj h (typeArguments_subset htype hargument)
    (typeArguments_subset hother hargument')
    (isSome_of_mem_typeArguments hwellformed htype hargument)
    (isSome_of_mem_typeArguments hwellformed hother hargument')

/-- **Extended names identify instantiations as far as they are spelled.** In valid symbols with
plain names, two instantiated types have the same extended name if and only if they have the same
declaration path and equally many arguments that are spelled alike. -/
theorem displayName_eq_iff (hvalid : ProgramDocument.validateSymbols arena = .ok ())
    (h : arena.HasPlainNames) {other : SymbolId} {otherType : TypeSymbol}
    (htype : arena.type? id = some type) (hother : arena.type? other = some otherType)
    (hgeneric : type.isGeneric) (hgeneric' : otherType.isGeneric)
    (harguments : type.typeArguments ≠ []) (harguments' : otherType.typeArguments ≠ []) :
    arena.displayName id = arena.displayName other ↔
      arena.declarationPath id = arena.declarationPath other ∧
        List.Forall₂ arena.SpelledAlike type.typeArguments otherType.typeArguments := by
  have hwellformed : arena.IsWellformed := ProgramDocument.isWellformed_of_validateSymbols hvalid
  have hget {id : SymbolId} {type : TypeSymbol} (htype : arena.type? id = some type) :
      (arena.get? id).isSome := by rw [type?_eq_some.mp htype]; rfl
  have hpath {id : SymbolId} {type : TypeSymbol} (htype : arena.type? id = some type) (c : Char)
      (hc : c ∈ spellingCharacters) : DeclarationPath.Avoids (arena.declarationPath id) c :=
    h.avoids_declarationPath hc (.inl (by rw [htype]; rfl))
  have hcanonical := canonicalName_inj (hget htype) (hget hother) (hpath htype '.' (by decide))
    (hpath hother '.' (by decide)) (hpath htype '_' (by decide)) (hpath hother '_' (by decide))
  have hspelled := map_argumentName_inj hwellformed h htype hother
  rw [displayName_eq htype hgeneric harguments, displayName_eq hother hgeneric' harguments',
    ← hcanonical, ← hspelled]
  constructor
  · intro hname
    -- the first bar ends the canonical name, and commas stand between the arguments alone
    have hbar {id : SymbolId} {type : TypeSymbol} (htype : arena.type? id = some type) :
        '|' ∉ (arena.canonicalName id).toList := by
      rw [canonicalName_eq (hget htype)]
      exact (hpath htype '|' (by decide)).notMem_text (by decide) (by decide)
    have hcomma {id : SymbolId} {type : TypeSymbol} (htype : arena.type? id = some type) :
        ∀ text ∈ type.typeArguments.map arena.argumentName, ',' ∉ text.toList := by
      intro text htext
      obtain ⟨argument, hargument, rfl⟩ := List.mem_map.mp htext
      exact comma_notMem_argumentName h (typeArguments_subset htype hargument)
        (isSome_of_mem_typeArguments hwellformed htype hargument)
    obtain ⟨hfirst, hjoined⟩ := Joined.append_inj_of_notMem "|" rfl (hbar htype) (hbar hother) hname
    refine ⟨hfirst, Joined.intercalate_inj ", " rfl ?_ ?_ (hcomma htype) (hcomma hother) hjoined⟩
    · exact fun hnil => harguments (List.map_eq_nil_iff.mp hnil)
    · exact fun hnil => harguments' (List.map_eq_nil_iff.mp hnil)
  · rintro ⟨hfirst, hnames⟩
    rw [hfirst, hnames]

/-- Two symbols that are the same declaration, with type arguments that are the same instantiations
in turn. -/
inductive SameInstantiation (arena : SymbolArena) : SymbolId → SymbolId → Prop
  | intro {id other : SymbolId}
      (declarationPath_eq : arena.declarationPath id = arena.declarationPath other)
      (length_eq : (arena.typeArguments id).length = (arena.typeArguments other).length)
      (arguments : ∀ pair ∈ (arena.typeArguments id).zip (arena.typeArguments other),
        SameInstantiation arena pair.1 pair.2) :
      SameInstantiation arena id other

/-- Names are plain if all namespaces and symbols have plain ones. -/
theorem HasPlainNames.of_forall
    (hnamespaces : ∀ ns ∈ arena.namespaces.toList, ∀ c ∈ spellingCharacters, c ∉ ns.name.toList)
    (hsymbols : ∀ id ∈ arena.symbolIds, ∀ c ∈ spellingCharacters, (arena.segment id).Avoids c) :
    arena.HasPlainNames := by
  refine ⟨fun c hc id ns hns => ?_, fun c hc id _ => ?_⟩
  · exact hnamespaces ns (Array.mem_def.mp (Array.mem_of_getElem? hns)) c hc
  · cases hget : arena.get? id with
    | none =>
        rw [segment, hget]
        exact List.forall_mem_singleton.mpr List.not_mem_nil
    | some symbol =>
        exact hsymbols id (mem_symbolIds.mpr (by rw [hget]; rfl)) c hc

/-- Lists of integers and of texts, with the indices 2 and 3, and lists of these lists. -/
def listsOfLists : SymbolArena :=
  let list (argument : SymbolId) : Symbol :=
    .type { name := "List", kind := .classType, assembly := ⟨1⟩, namespaceId := some ⟨1⟩,
            typeParameters := ["T"], typeArguments := [argument] }
  { assemblies := #["Game", "Library"]
    namespaces :=
      #[{ name := "", children := [⟨1⟩] }, { name := "System", parent := some ⟨0⟩ }]
    symbols := #[
      .type { name := "Int32", kind := .struct, assembly := ⟨1⟩, namespaceId := some ⟨1⟩ },
      .type { name := "String", kind := .classType, assembly := ⟨1⟩, namespaceId := some ⟨1⟩ },
      list ⟨0⟩, list ⟨1⟩, list ⟨2⟩, list ⟨3⟩] }

/-- The names in `listsOfLists` have none of the characters of the spelling. -/
theorem listsOfLists_hasPlainNames : listsOfLists.HasPlainNames := by
  apply HasPlainNames.of_forall
  · simp [listsOfLists, spellingCharacters]
  · simp [listsOfLists, symbolIds, List.range_succ, spellingCharacters, segment, get?,
      PathSegment.Avoids]

/-- The lists of lists are spelled alike: their arguments are lists of the same declaration. -/
theorem spelledAlike_listsOfLists :
    listsOfLists.displayName ⟨4⟩ = "System.List_T|System.List_T" ∧
      listsOfLists.declarationPath ⟨4⟩ = listsOfLists.declarationPath ⟨5⟩ ∧
      List.Forall₂ listsOfLists.SpelledAlike [⟨2⟩] [⟨3⟩] := by
  have hname : listsOfLists.displayName ⟨4⟩ = listsOfLists.displayName ⟨5⟩ := by decide +kernel
  obtain ⟨hpath, harguments⟩ :=
    (displayName_eq_iff rfl listsOfLists_hasPlainNames rfl rfl rfl rfl (List.cons_ne_nil _ _)
      (List.cons_ne_nil _ _)).mp hname
  exact ⟨by decide +kernel, hpath, harguments⟩

/-- Lists of different lists have the same extended name, though they are not the same
instantiation. -/
theorem displayName_listsOfLists :
    ProgramDocument.validateSymbols listsOfLists = .ok () ∧ listsOfLists.HasPlainNames ∧
      (∀ symbol ∈ listsOfLists.symbols.toList, symbol.name ≠ "") ∧
      (listsOfLists.type? ⟨4⟩).any (fun type => type.isGeneric && type.typeArguments == [⟨2⟩]) ∧
      (listsOfLists.type? ⟨5⟩).any (fun type => type.isGeneric && type.typeArguments == [⟨3⟩]) ∧
      listsOfLists.displayName ⟨4⟩ = listsOfLists.displayName ⟨5⟩ ∧
      ¬ listsOfLists.SameInstantiation ⟨4⟩ ⟨5⟩ := by
  refine ⟨rfl, listsOfLists_hasPlainNames, by decide +kernel, by decide +kernel,
    by decide +kernel, by decide +kernel, fun hsame => ?_⟩
  obtain ⟨-, -, hlists⟩ := hsame
  obtain ⟨-, -, helements⟩ := hlists (⟨2⟩, ⟨3⟩) (by decide +kernel)
  obtain ⟨hpath, -, -⟩ := helements (⟨0⟩, ⟨1⟩) (by decide +kernel)
  exact absurd hpath (by decide +kernel)

end SymbolArena

end Portability
