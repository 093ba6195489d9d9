import Portability.Proofs.Judge
import Portability.Proofs.Program.Validation
import Portability.Proofs.Symbol.Path

/-!
# Verdicts in closed form

In valid symbols the judge's answers can be told without its loops and the order of its branches,
together with what they leave in the log (`Checked.logged`):

* `Judge.allowsType_verdict`: whether a type may occur at a position is decided by the type at the
  end of its element types, `SymbolArena.IsInnermost`; the only thing that is ever missed is the
  extended name of an external generic type that is not listed.
* `Judge.allowsConversion_verdict`: a conversion is refused if it is one that has to be listed,
  `Judge.MustBeListed`, and none of its pairs of names is.
-/

namespace Portability

/-- The answer of a check, and a log with what it missed. -/
def Checked.logged {α : Type} (check : Checked α) (log : MissLog) : α × MissLog :=
  (check.answer, log.insertAll check.misses)

/-- A search for rules leaves a miss in the log if it finds none in force. -/
theorem RulePolicy.logged_anyOf (policy : RulePolicy) (rules : List Rule) (miss : Miss)
    (log : MissLog) :
    (policy.anyOf rules miss).logged log =
      if rules.any policy.has then (true, log) else (false, log.insert miss) := by
  unfold anyOf
  split <;> rfl

namespace SymbolArena

variable {arena : SymbolArena} {id core : SymbolId}

/-- Whether the element types of arrays and nullable types lead from a symbol to another one, where
they end. -/
inductive IsInnermost (arena : SymbolArena) : SymbolId → SymbolId → Prop
  | last {id : SymbolId} (hlast : arena.elementType? id = none) : IsInnermost arena id id
  | element {id element core : SymbolId} (helement : arena.elementType? id = some element)
      (hcore : IsInnermost arena element core) : IsInnermost arena id core

namespace IsInnermost

/-- The innermost symbol has no element type. -/
theorem elementType?_eq_none (h : arena.IsInnermost id core) : arena.elementType? core = none := by
  induction h with
  | last hlast => exact hlast
  | element _ _ ih => exact ih

/-- There is a walk along element types that ends at the innermost symbol. -/
theorem exists_isWalk (h : arena.IsInnermost id core) :
    ∃ visited, IsWalk arena.elementType? (some id) visited ∧ visited.getLast? = some core := by
  induction h with
  | @last id hlast => exact ⟨[id], .step (hlast ▸ .stop), rfl⟩
  | @element id element core helement _ ih =>
      obtain ⟨visited, hwalk, hcore⟩ := ih
      refine ⟨id :: visited, .step (helement ▸ hwalk), ?_⟩
      cases hwalk
      rwa [List.getLast?_cons_cons]

/-- The symbol at the end of the element types is the one that the arena answers. -/
theorem core_eq (h : arena.IsInnermost id core) : arena.core id = core := by
  obtain ⟨visited, hwalk, hlast⟩ := h.exists_isWalk
  exact SymbolArena.core_eq hwalk hlast

/-- A walk along element types ends at the innermost symbol. -/
theorem ofIsWalk {visited : List SymbolId} (h : IsWalk arena.elementType? (some id) visited)
    (hlast : visited.getLast? = some core) : arena.IsInnermost id core := by
  induction visited generalizing id with
  | nil => cases hlast
  | cons first rest ih =>
      cases h with
      | step hrest =>
          cases hnext : arena.elementType? first with
          | none =>
              rw [hnext] at hrest
              cases hrest
              obtain rfl : first = core := Option.some.inj hlast
              exact .last hnext
          | some element =>
              rw [hnext] at hrest
              refine .element hnext (ih hrest ?_)
              cases hrest
              rwa [List.getLast?_cons_cons] at hlast

end IsInnermost

/-- In a well-formed arena the element types of every symbol end with the one that the arena
answers. -/
theorem IsWellformed.isInnermost_core (h : arena.IsWellformed) (id : SymbolId) :
    arena.IsInnermost id (arena.core id) := by
  obtain ⟨visited, hwalk⟩ :=
    h.exists_isWalk (fun _ _ => mem_structuralReferences_of_elementType?) id
  have hne : visited ≠ [] := by
    rintro rfl
    cases hwalk
  have hlast := List.getLast?_eq_some_getLast hne
  rw [SymbolArena.core_eq hwalk hlast]
  exact .ofIsWalk hwalk hlast

end SymbolArena

namespace Judge

variable {judge : Judge} {id core : SymbolId} {type : TypeSymbol} {position : TypePosition}

/-! ### Types -/

/-- Whether nothing is checked about the symbol at the end of element types: it is missing or no
type, or it is a container without element type, a delegate, a type parameter, or the program's
own. -/
def IsUnchecked (judge : Judge) (core : SymbolId) : Prop :=
  ∀ type, judge.symbols.type? core = some type →
    type.kind.isContainer ∧ type.elementType = none ∨ type.isDelegate ∨
      type.kind = .typeParameter ∨ type.assembly = judge.model.programAssembly

/-- Whether the symbol at the end of element types is an external type that is checked: no
container, no delegate and no type parameter. -/
structure IsChecked (judge : Judge) (core : SymbolId) (type : TypeSymbol) : Prop where
  type?_eq : judge.symbols.type? core = some type
  isContainer : type.kind.isContainer = false
  isDelegate : type.isDelegate = false
  kind_ne : type.kind ≠ .typeParameter
  assembly_ne : type.assembly ≠ judge.model.programAssembly

/-- The type at the end of element types decides about a type. -/
theorem allowsType_eq_of_isInnermost (h : judge.symbols.IsInnermost id core)
    (position : TypePosition) :
    judge.allowsType id position = judge.allowsTypeTo position 1 core := by
  obtain ⟨visited, hwalk, hlast⟩ := h.exists_isWalk
  exact allowsType_eq hwalk hlast position

/-- The type at the end of element types is external if its assembly is not the program's. -/
theorem isExternal_of_type? (hlast : judge.symbols.elementType? core = none)
    (htype : judge.symbols.type? core = some type) :
    judge.isExternal core = (type.assembly != judge.model.programAssembly) := by
  obtain ⟨visited, hwalk, hcore⟩ := (SymbolArena.IsInnermost.last hlast).exists_isWalk
  rw [isExternal_eq hwalk hcore, SymbolArena.type?_eq_some.mp htype]
  rfl

/-- A type that is checked is external. -/
theorem IsChecked.isExternal (h : judge.IsChecked core type)
    (hlast : judge.symbols.elementType? core = none) : judge.isExternal core = true := by
  rw [isExternal_of_type? hlast h.type?_eq]
  exact bne_iff_ne.mpr h.assembly_ne

/-- Of the innermost symbols every one is checked or not. -/
theorem isUnchecked_or_isChecked (hlast : judge.symbols.elementType? core = none) :
    judge.IsUnchecked core ∨ ∃ type, judge.IsChecked core type := by
  by_cases hunchecked : judge.IsUnchecked core
  · exact .inl hunchecked
  · right
    simp only [IsUnchecked, not_forall, not_or] at hunchecked
    obtain ⟨type, htype, hcontainer, hdelegate, hkind, hassembly⟩ := hunchecked
    refine ⟨type, htype, ?_, Bool.eq_false_iff.mpr hdelegate, hkind, hassembly⟩
    refine Bool.eq_false_iff.mpr fun hcontains => hcontainer ⟨hcontains, ?_⟩
    rwa [SymbolArena.elementType?_of_type? htype, if_pos hcontains] at hlast

/-- A type is allowed unasked if nothing is checked about its innermost symbol. -/
theorem allowsType_of_isUnchecked (h : judge.symbols.IsInnermost id core)
    (hunchecked : judge.IsUnchecked core) : judge.allowsType id position = pure true := by
  have hlast := h.elementType?_eq_none
  rw [allowsType_eq_of_isInnermost h, allowsTypeTo]
  cases htype : judge.symbols.type? core with
  | none => rfl
  | some type =>
      have hexternal := isExternal_of_type? hlast htype
      rw [SymbolArena.elementType?_of_type? htype] at hlast
      cases hcontainer : type.kind.isContainer with
      | true =>
          rw [hcontainer, if_pos rfl] at hlast
          simp only [hcontainer, hlast, if_true]
      | false =>
          have hfree : (type.isDelegate || type.kind == .typeParameter ||
              !judge.isExternal core) = true := by
            rw [hexternal]
            rcases hunchecked type htype with ⟨hcontains, -⟩ | hdelegate | hkind | hassembly
            · rw [hcontainer] at hcontains
              cases hcontains
            · simp [hdelegate]
            · simp [hkind]
            · simp [hassembly]
          simp only [hcontainer, hfree, Bool.false_eq_true, if_false, if_true]

/-- A checked type is looked up if it is generic, and must not be denied if it is not. -/
theorem allowsType_of_isChecked (h : judge.symbols.IsInnermost id core)
    (hchecked : judge.IsChecked core type) (position : TypePosition) :
    judge.allowsType id position =
      if type.isGeneric then judge.lookupGeneric core position
      else pure (!judge.deniesType core) := by
  have hexternal := hchecked.isExternal h.elementType?_eq_none
  have hchecks : (type.isDelegate || type.kind == .typeParameter ||
      !judge.isExternal core) = false := by
    simp [hchecked.isDelegate, hchecked.kind_ne, hexternal]
  rw [allowsType_eq_of_isInnermost h, allowsTypeTo, hchecked.type?_eq]
  simp only [hchecked.isContainer, hchecks, Bool.false_eq_true, if_false]

/-- A generic type is missed by its extended name where neither of its names is listed. -/
theorem logged_lookupGeneric (log : MissLog) :
    (judge.lookupGeneric core position).logged log =
      if judge.policy.allows position.list (judge.symbols.canonicalName core) ||
          judge.policy.allows position.list (judge.symbols.displayName core) then (true, log)
      else (false, log.insert (.name position.bucket (judge.symbols.displayName core))) := by
  rw [lookupGeneric, RulePolicy.lookupInto_eq_anyOf, RulePolicy.logged_anyOf, List.any_cons,
    List.any_cons, List.any_nil, Bool.or_false]
  rfl

/-- A type that is not generic is denied by its canonical name. -/
theorem deniesType_of_not_isGeneric (htype : judge.symbols.type? core = some type)
    (hgeneric : type.isGeneric = false) :
    judge.deniesType core = judge.policy.denies .type (judge.symbols.canonicalName core) := by
  have hplain : judge.symbols.IsPlainType core := ⟨type, htype, hgeneric⟩
  rw [deniesType, hplain.displayName_eq, Bool.or_self]

/-- Types of the same declaration have the same type parameters and the same canonical name. -/
theorem sameDeclaration {other : SymbolId} {otherType : TypeSymbol}
    (htype : judge.symbols.type? core = some type)
    (hother : judge.symbols.type? other = some otherType)
    (hpath : judge.symbols.declarationPath other = judge.symbols.declarationPath core) :
    otherType.typeParameters = type.typeParameters ∧
      judge.symbols.canonicalName other = judge.symbols.canonicalName core := by
  have hget {id : SymbolId} {type : TypeSymbol} (htype : judge.symbols.type? id = some type) :
      judge.symbols.get? id = some (.type type) := SymbolArena.type?_eq_some.mp htype
  constructor
  · have hsegment := (List.cons.inj (List.reverse_inj.mp hpath)).1
    rw [SymbolArena.segment, SymbolArena.segment, hget hother, hget htype] at hsegment
    exact congrArg PathSegment.typeParameters hsegment
  · rw [SymbolArena.canonicalName_eq (by rw [hget hother]; rfl),
      SymbolArena.canonicalName_eq (by rw [hget htype]; rfl), hpath]

/-- **The verdict on a type.** In valid symbols the element types of every symbol come to an end,
and the symbol there decides whether it may occur at a position, whatever the log holds:

* what is not checked may occur, and the log stays as it is;
* an external generic type may occur, and the log stays as it is, if the position's list has its
  canonical or its extended name; otherwise it may not, and its extended name is missed in the
  position's group, and nothing else;
* an external type that is not generic may occur unless its canonical name is denied, and the log
  stays as it is;
* there are no other cases;
* where the list has the canonical name of a generic type, every instantiation of its declaration
  may occur. -/
theorem allowsType_verdict
    (hvalid : ProgramDocument.validateSymbols judge.symbols = .ok ()) (log : MissLog)
    (id : SymbolId) (position : TypePosition) :
    let core := judge.symbols.core id
    let bare := judge.symbols.canonicalName core
    let extended := judge.symbols.displayName core
    let verdict := (judge.allowsType id position).logged log
    judge.symbols.IsInnermost id core ∧
    (judge.IsUnchecked core → verdict = (true, log)) ∧
    (∀ type, judge.IsChecked core type → type.isGeneric = true →
      verdict =
        if judge.policy.allows position.list bare || judge.policy.allows position.list extended
        then (true, log) else (false, log.insert (.name position.bucket extended))) ∧
    (∀ type, judge.IsChecked core type → type.isGeneric = false →
      verdict = (!judge.policy.denies .type bare, log)) ∧
    (judge.IsUnchecked core ∨ ∃ type, judge.IsChecked core type) ∧
    (∀ type other otherType, judge.symbols.type? core = some type → type.isGeneric = true →
      judge.policy.allows position.list bare = true →
      judge.symbols.type? (judge.symbols.core other) = some otherType →
      judge.symbols.declarationPath (judge.symbols.core other) =
        judge.symbols.declarationPath core →
      (judge.allowsType other position).logged log = (true, log)) := by
  intro core bare extended verdict
  have hwellformed := ProgramDocument.isWellformed_of_validateSymbols hvalid
  have hgenericVerdict {id : SymbolId} {type : TypeSymbol}
      (hchecked : judge.IsChecked (judge.symbols.core id) type) (hgeneric : type.isGeneric = true) :
      (judge.allowsType id position).logged log =
        (judge.lookupGeneric (judge.symbols.core id) position).logged log := by
    rw [allowsType_of_isChecked (hwellformed.isInnermost_core id) hchecked, if_pos hgeneric]
  have hinnermost := hwellformed.isInnermost_core id
  refine ⟨hinnermost, fun hunchecked => ?_, fun type hchecked hgeneric => ?_,
    fun type hchecked hgeneric => ?_, isUnchecked_or_isChecked hinnermost.elementType?_eq_none,
    fun type other otherType htype hgeneric hallowed hother hpath => ?_⟩
  · exact congrArg (Checked.logged · log) (allowsType_of_isUnchecked hinnermost hunchecked)
  · exact (hgenericVerdict hchecked hgeneric).trans (logged_lookupGeneric log)
  · have hdenied := deniesType_of_not_isGeneric hchecked.type?_eq hgeneric
    have hallows := allowsType_of_isChecked hinnermost hchecked position
    rw [hgeneric, if_neg Bool.false_ne_true, hdenied] at hallows
    exact congrArg (Checked.logged · log) hallows
  · -- another instantiation of the declaration has its parameters and its canonical name
    have hotherInnermost := hwellformed.isInnermost_core other
    obtain ⟨hparameters, hname⟩ := sameDeclaration htype hother hpath
    rcases isUnchecked_or_isChecked hotherInnermost.elementType?_eq_none with
      hunchecked | ⟨checkedType, hchecked⟩
    · exact congrArg (Checked.logged · log) (allowsType_of_isUnchecked hotherInnermost hunchecked)
    · obtain rfl : otherType = checkedType :=
        Option.some.inj (hother.symm.trans hchecked.type?_eq)
      have hotherGeneric : otherType.isGeneric = true := by
        rw [TypeSymbol.isGeneric, hparameters]
        exact hgeneric
      rw [hgenericVerdict hchecked hotherGeneric, logged_lookupGeneric, hname, hallowed,
        Bool.true_or, if_pos rfl]

/-- The boxed object, an integer and a text of a library, lists of the latter two, an array of the
lists of texts, and a nullable integer. -/
def boxesAndLists : SymbolArena :=
  let list (argument : SymbolId) : Symbol :=
    .type { name := "List", kind := .classType, assembly := ⟨1⟩, namespaceId := some ⟨1⟩,
            typeParameters := ["T"], typeArguments := [argument] }
  { assemblies := #["Game", "Library"]
    namespaces :=
      #[{ name := "", children := [⟨1⟩] }, { name := "System", parent := some ⟨0⟩ }]
    symbols := #[
      .type { name := "Object", kind := .classType, assembly := ⟨1⟩, namespaceId := some ⟨1⟩,
              special := .object },
      .type { name := "Int32", kind := .struct, assembly := ⟨1⟩, namespaceId := some ⟨1⟩ },
      .type { name := "String", kind := .classType, assembly := ⟨1⟩, namespaceId := some ⟨1⟩ },
      list ⟨1⟩, list ⟨2⟩,
      .type { name := "", kind := .array, assembly := ⟨0⟩, elementType := some ⟨4⟩ },
      .type { name := "", kind := .nullable, assembly := ⟨0⟩, elementType := some ⟨1⟩ }] }

/-- A judge of `boxesAndLists` by whom lists may be used, but not be parameters, integers are
denied, and the boxed object may be converted to lists of integers. -/
def boxesAndListsJudge : Judge where
  model :=
    { symbols := boxesAndLists, programAssembly := ⟨0⟩, symbolOf := fun _ => none
      typeOf := fun _ => none, defaultValueText := fun _ _ => none
      resolveInScope := fun _ _ => none }
  policy := { rules :=
    [.allow .genericType "System.List_T", .deny .type "System.Int32",
     .allowConversion "System.Object" "System.List_T|System.Int32"] }

/-- An array of lists is missed as a parameter by the name of the lists and may occur elsewhere, as
every list may, and a nullable integer is refused without a miss. -/
theorem allowsType_verdict_boxesAndLists :
    let judge := boxesAndListsJudge
    ProgramDocument.validateSymbols judge.symbols = .ok () ∧
    judge.symbols.IsInnermost ⟨5⟩ ⟨4⟩ ∧
    (∃ type, judge.IsChecked ⟨4⟩ type ∧ type.isGeneric = true) ∧
    (judge.allowsType ⟨5⟩ .parameter).logged {} =
      (false, { misses := [.name .parameterGenericType "System.List_T|System.String"] }) ∧
    (judge.allowsType ⟨3⟩ .general).logged {} = (true, {}) ∧
    (judge.allowsType ⟨6⟩ .general).logged {} = (false, {}) := by
  have hvalid : ProgramDocument.validateSymbols boxesAndListsJudge.symbols = .ok () := by rfl
  obtain ⟨hinnermost, -, hmissed, -⟩ := allowsType_verdict hvalid {} ⟨5⟩ .parameter
  obtain ⟨-, -, -, -, -, hcovered⟩ := allowsType_verdict hvalid {} ⟨5⟩ .general
  obtain ⟨-, -, -, hdenied, -⟩ := allowsType_verdict hvalid {} ⟨6⟩ .general
  have hlist : boxesAndListsJudge.IsChecked ⟨4⟩ _ :=
    ⟨rfl, rfl, rfl, by decide, by decide⟩
  have hinteger : boxesAndListsJudge.IsChecked ⟨1⟩ _ :=
    ⟨rfl, rfl, rfl, by decide, by decide⟩
  refine ⟨hvalid, hinnermost, ⟨_, hlist, rfl⟩, (hmissed _ hlist rfl).trans (by decide +kernel),
    hcovered _ ⟨3⟩ _ hlist.type?_eq rfl (by decide +kernel) rfl (by decide +kernel),
    (hdenied _ hinteger rfl).trans (by decide +kernel)⟩

/-! ### Conversions -/

/-- Whether a symbol is of another assembly than the program, where arrays and nullable types answer
for the symbol at the end of their element types. -/
def IsForeign (judge : Judge) (id : SymbolId) : Prop :=
  ∃ core symbol, judge.symbols.IsInnermost id core ∧ judge.symbols.get? core = some symbol ∧
    symbol.assembly ≠ judge.model.programAssembly

/-- A symbol is external if its innermost symbol is of another assembly. -/
theorem isExternal_iff (h : judge.symbols.IsInnermost id core) :
    judge.isExternal id ↔ judge.IsForeign id := by
  obtain ⟨visited, hwalk, hlast⟩ := h.exists_isWalk
  rw [isExternal_eq hwalk hlast, Option.any_eq_true]
  simp only [bne_iff_ne]
  constructor
  · rintro ⟨symbol, hsymbol, hassembly⟩
    exact ⟨core, symbol, h, hsymbol, hassembly⟩
  · rintro ⟨other, symbol, hother, hsymbol, hassembly⟩
    obtain rfl : core = other := h.core_eq.symm.trans hother.core_eq
    exact ⟨symbol, hsymbol, hassembly⟩

/-- Whether a type is an external one that every value can be boxed into. -/
def IsForeignObject (judge : Judge) (id : SymbolId) (type : TypeSymbol) : Prop :=
  type.special = .object ∧ judge.IsForeign id

/-- Whether a type is generic or the program's own. -/
def IsGenericOrOwn (judge : Judge) (id : SymbolId) (type : TypeSymbol) : Prop :=
  type.isGeneric ∨ ¬ judge.IsForeign id

/-- Whether the conversion between two types has to be listed: neither is a delegate, and one is an
external boxed object and the other one generic or the program's own, or the source is a plain
external type and the target a generic one. -/
structure MustBeListed (judge : Judge) (source target : SymbolId) (src dst : TypeSymbol) :
    Prop where
  source_isDelegate : src.isDelegate = false
  target_isDelegate : dst.isDelegate = false
  isGuarded : judge.IsForeignObject source src ∧ judge.IsGenericOrOwn target dst ∨
    judge.IsForeignObject target dst ∧ judge.IsGenericOrOwn source src ∨
    (judge.IsForeign source ∧ src.isGeneric = false) ∧ dst.isGeneric

/-- The names that a conversion can be listed by. -/
def conversionNames (judge : Judge) (id : SymbolId) : List String :=
  [judge.symbols.canonicalName id, judge.symbols.displayName id]

/-- The alternatives to look a symbol up by are its names for conversions. -/
theorem any_alternatives (judge : Judge) (id : SymbolId) (p : String → Bool) :
    (RulePolicy.alternatives (judge.symbols.canonicalName id) (judge.extension? id)).any p =
      (judge.conversionNames id).any p := by
  unfold extension? conversionNames RulePolicy.alternatives
  by_cases hsame : judge.symbols.displayName id = judge.symbols.canonicalName id
  · simp [hsame]
  · simp [hsame, Option.filter]

/-- The most specific name of a symbol is its display name. -/
theorem getD_extension? (judge : Judge) (id : SymbolId) :
    (judge.extension? id).getD (judge.symbols.canonicalName id) = judge.symbols.displayName id := by
  unfold extension?
  dsimp only
  split
  next hsame => exact hsame.symm
  next => rfl

variable {source target : SymbolId} {src dst : TypeSymbol}

/-- Whether a pair of names of two types is a listed conversion. -/
def listsConversion (judge : Judge) (source target : SymbolId) : Bool :=
  (judge.conversionNames source).any fun s => (judge.conversionNames target).any fun t =>
    judge.policy.allowsConversion s t

/-- A conversion is not listed if no pair of names is. -/
theorem listsConversion_eq_false_iff :
    judge.listsConversion source target = false ↔
      ∀ s ∈ judge.conversionNames source, ∀ t ∈ judge.conversionNames target,
        judge.policy.allowsConversion s t = false := by
  simp only [listsConversion, List.any_eq_false, Bool.not_eq_true]

/-- Looking a conversion up finds a pair of names that is listed, or misses the most specific
one. -/
theorem logged_lookupConversion (log : MissLog) :
    (judge.lookupConversion source target).logged log =
      if judge.listsConversion source target then (true, log)
      else (false, log.insert (.conversion (judge.symbols.displayName source)
        (judge.symbols.displayName target))) := by
  have hlookup : judge.lookupConversion source target =
      if judge.listsConversion source target then pure true
      else .missed (.conversion (judge.symbols.displayName source)
        (judge.symbols.displayName target)) := by
    rw [lookupConversion, RulePolicy.lookupConversion]
    simp only [any_alternatives, getD_extension?]
    rfl
  rw [hlookup]
  split <;> rfl

section

variable (hwellformed : judge.symbols.IsWellformed)

include hwellformed

/-- In a well-formed arena the external symbols are those of another assembly. -/
theorem isExternal_iff_isForeign (id : SymbolId) : judge.isExternal id ↔ judge.IsForeign id :=
  isExternal_iff (hwellformed.isInnermost_core id)

/-- In a well-formed arena a boxed object is an external type that every value can be boxed into. -/
theorem isBoxedObject_iff (id : SymbolId) (type : TypeSymbol) :
    judge.isBoxedObject id type ↔ judge.IsForeignObject id type := by
  rw [isBoxedObject, IsForeignObject, Bool.and_eq_true, beq_iff_eq,
    isExternal_iff_isForeign hwellformed]

/-- In a well-formed arena a type is generic or local if it is generic or the program's own. -/
theorem isGenericOrLocal_iff (id : SymbolId) (type : TypeSymbol) :
    judge.isGenericOrLocal id type ↔ judge.IsGenericOrOwn id type := by
  rw [isGenericOrLocal, IsGenericOrOwn, Bool.or_eq_true, Bool.not_eq_true', ← Bool.not_eq_true,
    isExternal_iff_isForeign hwellformed]

variable (hsource : judge.symbols.type? source = some src)
  (htarget : judge.symbols.type? target = some dst) (hne : source ≠ target)

include hsource htarget hne

/-- A conversion that must be listed is looked up. -/
theorem allowsConversion_of_mustBeListed (h : judge.MustBeListed source target src dst) :
    judge.allowsConversion source target = judge.lookupConversion source target := by
  obtain ⟨hsrc, hdst, hguarded⟩ := h
  rw [allowsConversion, if_neg hne, hsource, htarget]
  dsimp only
  split_ifs with hboxed hbox hdelegate hplain
  · rfl
  · rfl
  · rw [hsrc, hdst] at hdelegate
    cases hdelegate
  · rfl
  · simp only [Bool.and_eq_true, Bool.not_eq_true', hsrc, hdst, and_true,
      isBoxedObject_iff hwellformed, isGenericOrLocal_iff hwellformed,
      isExternal_iff_isForeign hwellformed] at hboxed hbox hplain
    rcases hguarded with hobject | hobject | ⟨⟨hforeign, hsrcGeneric⟩, hdstGeneric⟩
    · exact absurd hobject hboxed
    · exact absurd hobject hbox
    · exact absurd ⟨⟨hsrcGeneric, hforeign⟩, hdstGeneric⟩ hplain

/-- Where no delegate is a boxed object, any other conversion is allowed without a lookup. -/
theorem allowsConversion_of_not_mustBeListed
    (hsrc : src.isDelegate = true → src.special ≠ .object)
    (hdst : dst.isDelegate = true → dst.special ≠ .object)
    (h : ¬ judge.MustBeListed source target src dst) :
    judge.allowsConversion source target = pure true := by
  have hobject {id : SymbolId} {type : TypeSymbol}
      (htype : type.isDelegate = true → type.special ≠ .object)
      (hforeign : judge.IsForeignObject id type) : type.isDelegate = false :=
    Bool.eq_false_iff.mpr fun hdelegate => htype hdelegate hforeign.1
  rw [allowsConversion, if_neg hne, hsource, htarget]
  dsimp only
  split_ifs with hboxed hbox hdelegate hplain
  · simp only [Bool.and_eq_true, Bool.not_eq_true', isBoxedObject_iff hwellformed,
      isGenericOrLocal_iff hwellformed] at hboxed
    obtain ⟨⟨hforeign, hdelegate⟩, hgeneric⟩ := hboxed
    exact absurd ⟨hobject hsrc hforeign, hdelegate, .inl ⟨hforeign, hgeneric⟩⟩ h
  · simp only [Bool.and_eq_true, Bool.not_eq_true', isBoxedObject_iff hwellformed,
      isGenericOrLocal_iff hwellformed] at hbox
    obtain ⟨⟨hforeign, hdelegate⟩, hgeneric⟩ := hbox
    exact absurd ⟨hdelegate, hobject hdst hforeign, .inr (.inl ⟨hforeign, hgeneric⟩)⟩ h
  · rfl
  · simp only [Bool.and_eq_true, Bool.not_eq_true', isExternal_iff_isForeign hwellformed] at hplain
    obtain ⟨⟨hsrcGeneric, hforeign⟩, hdstGeneric⟩ := hplain
    obtain ⟨hsrcDelegate, hdstDelegate⟩ := Bool.or_eq_false_iff.mp (Bool.eq_false_iff.mpr hdelegate)
    exact absurd
      ⟨hsrcDelegate, hdstDelegate, .inr (.inr ⟨⟨hforeign, hsrcGeneric⟩, hdstGeneric⟩)⟩ h
  · rfl

end

/-- **The verdict on a conversion.** In valid symbols in which no delegate is marked as the boxed
object, the conversion between two different types is refused if and only if it must be listed and
none of the pairs of their names is; then the pair of their extended names is missed, and nothing
else. Where it is not refused, the log stays as it is. -/
theorem allowsConversion_verdict
    (hvalid : ProgramDocument.validateSymbols judge.symbols = .ok ())
    (hobject : ∀ id type, judge.symbols.type? id = some type → type.isDelegate = true →
      type.special ≠ .object)
    (hsource : judge.symbols.type? source = some src)
    (htarget : judge.symbols.type? target = some dst) (hne : source ≠ target) (log : MissLog) :
    let verdict := (judge.allowsConversion source target).logged log
    (verdict.1 = false ↔ judge.MustBeListed source target src dst ∧
      ∀ s ∈ judge.conversionNames source, ∀ t ∈ judge.conversionNames target,
        judge.policy.allowsConversion s t = false) ∧
    (verdict.1 = false → verdict.2 = log.insert
      (.conversion (judge.symbols.displayName source) (judge.symbols.displayName target))) ∧
    (verdict.1 = true → verdict.2 = log) := by
  intro verdict
  have hwellformed := ProgramDocument.isWellformed_of_validateSymbols hvalid
  rw [← listsConversion_eq_false_iff]
  by_cases hmust : judge.MustBeListed source target src dst
  · have hverdict : verdict = if judge.listsConversion source target then (true, log)
        else (false, log.insert (.conversion (judge.symbols.displayName source)
          (judge.symbols.displayName target))) := by
      rw [← logged_lookupConversion, ← allowsConversion_of_mustBeListed hwellformed hsource htarget
        hne hmust]
    cases hlisted : judge.listsConversion source target with
    | true => simp [hverdict, hlisted]
    | false => simp [hverdict, hlisted, hmust]
  · have hverdict : verdict = (true, log) :=
      congrArg (Checked.logged · log) (allowsConversion_of_not_mustBeListed hwellformed hsource
        htarget hne (hobject source src hsource) (hobject target dst htarget) hmust)
    simp [hverdict, hmust]

/-- The boxed object of `boxesAndLists` may be converted to a list of integers, and not to a list of
texts. -/
theorem allowsConversion_verdict_boxesAndLists :
    let judge := boxesAndListsJudge
    ProgramDocument.validateSymbols judge.symbols = .ok () ∧
    (∀ id type, judge.symbols.type? id = some type → type.isDelegate = true →
      type.special ≠ .object) ∧
    ((judge.allowsConversion ⟨0⟩ ⟨3⟩).logged {}).2 = {} ∧
    (∃ src dst, judge.MustBeListed ⟨0⟩ ⟨4⟩ src dst) ∧
    ((judge.allowsConversion ⟨0⟩ ⟨4⟩).logged {}).2.misses =
      [.conversion "System.Object" "System.List_T|System.String"] := by
  have hvalid : ProgramDocument.validateSymbols boxesAndListsJudge.symbols = .ok () := by rfl
  have hall : ∀ symbol ∈ boxesAndLists.symbols.toList, ∀ type ∈ symbol.asType?,
      type.isDelegate = true → type.special ≠ .object := by decide +kernel
  have hobject : ∀ id type, boxesAndListsJudge.symbols.type? id = some type →
      type.isDelegate = true → type.special ≠ .object := by
    intro id type htype
    obtain ⟨symbol, hsymbol, hsame⟩ := Option.bind_eq_some_iff.mp htype
    exact hall symbol (Array.mem_def.mp (Array.mem_of_getElem? hsymbol)) type hsame
  have hboxed : boxesAndListsJudge.symbols.type? ⟨0⟩ = some _ := rfl
  have hintegers : boxesAndListsJudge.symbols.type? ⟨3⟩ = some _ := rfl
  have htexts : boxesAndListsJudge.symbols.type? ⟨4⟩ = some _ := rfl
  obtain ⟨-, -, hallowed⟩ :=
    allowsConversion_verdict hvalid hobject hboxed hintegers (by decide) {}
  obtain ⟨hrefused, hmissed, -⟩ :=
    allowsConversion_verdict hvalid hobject hboxed htexts (by decide) {}
  have hanswer : ((boxesAndListsJudge.allowsConversion ⟨0⟩ ⟨4⟩).logged {}).1 = false := by
    decide +kernel
  refine ⟨hvalid, hobject, hallowed (by decide +kernel),
    ⟨_, _, (hrefused.mp hanswer).1⟩, ?_⟩
  rw [hmissed hanswer]
  decide +kernel

end Judge

end Portability
