import Portability.Proofs.Symbol.Walk
import Portability.Symbol.Wellformed

/-!
# What the checks of symbol arenas establish

The checks of `Portability.Symbol.Wellformed` answer the first offender they meet. Where they meet
none:

* `isSome_get?_of_mem_references`: every symbol that is referred to exists,
* `isGrounded_of_firstCyclicReference?`: what a symbol refers to structurally, what that refers to
  and so on comes to an end,
* `exists_isWalk_parent?`: so do the parents of a namespace.

The search for cycles recurses on fuel, and an arena would pass if it ran out. It does not: the
symbols on its path exist and are different, and the one it is at is none of them.
-/

namespace Portability

/-- What a symbol refers to structurally is among all it refers to. -/
theorem Symbol.structuralReferences_subset (symbol : Symbol) :
    symbol.structuralReferences ⊆ symbol.references := by
  cases symbol
  case type => exact List.subset_append_left _ _
  case other => exact List.nil_subset _
  all_goals exact List.cons_subset_cons _ (List.nil_subset _)

namespace SymbolArena

variable {arena : SymbolArena}

/-! ### References -/

/-- Where the check meets no dangling reference, every symbol that is referred to exists. -/
theorem isSome_get?_of_mem_references (h : arena.firstDanglingReference? = none) {id : SymbolId}
    {symbol : Symbol} (hsymbol : arena.get? id = some symbol) {other : SymbolId}
    (hother : other ∈ symbol.references) : (arena.get? other).isSome := by
  have hmem : symbol ∈ arena.symbols.toList :=
    Array.mem_def.mp (Array.mem_of_getElem? hsymbol)
  have hfind := List.findSome?_eq_none_iff.mp h symbol hmem
  have hmissing := List.find?_eq_none.mp hfind other hother
  rwa [Bool.not_eq_true, Option.isNone_eq_false_iff] at hmissing

/-! ### Cycles of symbols -/

/-- Whether structural references lead from a symbol to an end, whichever of them are followed. -/
def IsGrounded (arena : SymbolArena) : SymbolId → Prop :=
  Acc fun other id => other ∈ arena.structuralReferences id

/-- References come to an end at a symbol if they do at all that it refers to. -/
theorem IsGrounded.of_references {id : SymbolId}
    (h : ∀ other ∈ arena.structuralReferences id, arena.IsGrounded other) :
    arena.IsGrounded id :=
  Acc.intro id h

/-- References come to an end where there is no symbol. -/
theorem isGrounded_of_get?_eq_none {id : SymbolId} (h : arena.get? id = none) :
    arena.IsGrounded id := by
  refine .of_references fun other hother => ?_
  rw [structuralReferences, h] at hother
  exact absurd hother List.not_mem_nil

/-- A search through several symbols that grounds each of them on the way. -/
theorem isGrounded_of_foldlM {step : List SymbolId → SymbolId → Except SymbolId (List SymbolId)}
    {ids : List SymbolId}
    (hstep : ∀ finished, (∀ id ∈ finished, arena.IsGrounded id) → ∀ id ∈ ids, ∀ later,
      step finished id = .ok later → arena.IsGrounded id ∧ ∀ id ∈ later, arena.IsGrounded id)
    {finished later : List SymbolId} (hfinished : ∀ id ∈ finished, arena.IsGrounded id)
    (h : ids.foldlM step finished = .ok later) :
    (∀ id ∈ ids, arena.IsGrounded id) ∧ ∀ id ∈ later, arena.IsGrounded id := by
  induction ids generalizing finished with
  | nil =>
      obtain rfl : finished = later := Except.ok.inj h
      exact ⟨fun id hid => absurd hid List.not_mem_nil, hfinished⟩
  | cons first rest ih =>
      rw [List.foldlM_cons] at h
      cases hfirst : step finished first with
      | error id =>
          rw [hfirst] at h
          cases h
      | ok middle =>
          rw [hfirst] at h
          obtain ⟨hgrounded, hmiddle⟩ := hstep finished hfinished first List.mem_cons_self _ hfirst
          obtain ⟨hrest, hlater⟩ := ih
            (fun finished hfinished id hid => hstep finished hfinished id (.tail first hid))
            hmiddle h
          exact ⟨List.forall_mem_cons.mpr ⟨hgrounded, hrest⟩, hlater⟩

/-- The symbols on the path of a search: they exist, are different, and the search is at none of
them. -/
structure IsPath (arena : SymbolArena) (path : List SymbolId) (id : SymbolId) : Prop where
  isSome : ∀ other ∈ id :: path, (arena.get? other).isSome
  nodup : (id :: path).Nodup

/-- A path goes on to a symbol that exists and is not on it. -/
theorem IsPath.step {path : List SymbolId} {id next : SymbolId} (h : arena.IsPath path id)
    (hnext : (arena.get? next).isSome) (hnew : next ∉ id :: path) :
    arena.IsPath (id :: path) next :=
  ⟨List.forall_mem_cons.mpr ⟨hnext, h.isSome⟩, List.nodup_cons.mpr ⟨hnew, h.nodup⟩⟩

/-- A search that meets no cycle grounds the symbol it is at and all that it finishes. -/
theorem isGrounded_of_searchCycle {fuel : Nat} {path finished later : List SymbolId}
    {id : SymbolId} (hpath : arena.IsPath path id)
    (hfuel : arena.symbols.size ≤ fuel + path.length)
    (hfinished : ∀ id ∈ finished, arena.IsGrounded id)
    (h : arena.searchCycle fuel path finished id = .ok later) :
    arena.IsGrounded id ∧ ∀ id ∈ later, arena.IsGrounded id := by
  induction fuel generalizing path finished later id with
  | zero =>
      have hlength := length_le_symbols hpath.nodup hpath.isSome
      rw [List.length_cons] at hlength
      omega
  | succ fuel ih =>
      rw [searchCycle] at h
      generalize hfold :
        (List.foldlM _ finished (arena.structuralReferences id) : Except SymbolId _) = outcome at h
      cases outcome with
      | error other => cases h
      | ok searched =>
          obtain rfl : id :: searched = later := Except.ok.inj h
          have hsearched := isGrounded_of_foldlM ?_ hfinished hfold
          · obtain ⟨hreferences, hsearched⟩ := hsearched
            have hid : arena.IsGrounded id := .of_references hreferences
            exact ⟨hid, List.forall_mem_cons.mpr ⟨hid, hsearched⟩⟩
          · -- a reference is finished, missing, or searched with the symbol on the path
            intro finished hfinished next _ later hlater
            split at hlater
            · cases hlater
            next hnew =>
            split at hlater
            next hmem =>
              obtain rfl : finished = later := Except.ok.inj hlater
              exact ⟨hfinished next (List.contains_iff_mem.mp hmem), hfinished⟩
            split at hlater
            next hmissing =>
              obtain rfl : finished = later := Except.ok.inj hlater
              exact ⟨isGrounded_of_get?_eq_none (Option.isNone_iff_eq_none.mp hmissing), hfinished⟩
            next hexists =>
              have hnext : (arena.get? next).isSome := by
                rwa [Bool.not_eq_true, Option.isNone_eq_false_iff] at hexists
              have hnot : next ∉ id :: path := fun hmem => hnew (List.contains_iff_mem.mpr hmem)
              refine ih (hpath.step hnext hnot) ?_ hfinished hlater
              rw [List.length_cons]
              omega

/-- Where the check meets no cycle, every symbol is grounded, also one that does not exist. -/
theorem isGrounded_of_firstCyclicReference? (h : arena.firstCyclicReference? = none)
    (id : SymbolId) : arena.IsGrounded id := by
  rw [firstCyclicReference?] at h
  generalize hsearch : (List.foldlM _ [] arena.symbolIds : Except SymbolId _) = search at h
  cases search with
  | error other => cases h
  | ok finished =>
      have hall : (∀ id ∈ arena.symbolIds, arena.IsGrounded id) ∧
          ∀ id ∈ finished, arena.IsGrounded id :=
        isGrounded_of_foldlM ?_ (List.forall_mem_nil _) hsearch
      · cases hid : arena.get? id with
        | none => exact isGrounded_of_get?_eq_none hid
        | some symbol =>
            exact hall.1 id (mem_symbolIds.mpr (by rw [hid]; rfl))
      · intro finished hfinished id hid later hlater
        split at hlater
        next hmem =>
          obtain rfl : finished = later := Except.ok.inj hlater
          exact ⟨hfinished id (List.contains_iff_mem.mp hmem), hfinished⟩
        next =>
          have hpath : arena.IsPath [] id :=
            ⟨List.forall_mem_singleton.mpr (mem_symbolIds.mp hid), List.nodup_singleton _⟩
          exact isGrounded_of_searchCycle hpath (Nat.le_add_right _ _) hfinished hlater

/-! ### Cycles of namespaces -/

/-- Parents that are seen to end have a walk. -/
theorem exists_isWalk_of_parentsEndWithin {steps : Nat} {start : Option NamespaceId}
    (h : arena.parentsEndWithin steps start) : ∃ visited, IsWalk arena.parent? start visited := by
  induction steps generalizing start with
  | zero => exact absurd h Bool.false_ne_true
  | succ steps ih =>
      cases start with
      | none => exact ⟨[], .stop⟩
      | some id =>
          obtain ⟨rest, hrest⟩ := ih h
          exact ⟨id :: rest, .step hrest⟩

/-- Where the check meets no cycle, the parents of every namespace come to an end. -/
theorem exists_isWalk_parent? (h : arena.firstCyclicNamespace? = none) (id : NamespaceId) :
    ∃ visited, IsWalk arena.parent? (some id) visited := by
  cases hid : arena.namespace? id with
  | none =>
      have hparent : arena.parent? id = none := by rw [parent?, hid]; rfl
      exact ⟨[id], .step (hparent ▸ .stop)⟩
  | some ns =>
      have hmem : id ∈ arena.namespaceIds := mem_namespaceIds.mpr (by rw [hid]; rfl)
      have hends := List.find?_eq_none.mp h id hmem
      rw [Bool.not_eq_true, Bool.not_eq_false'] at hends
      obtain ⟨rest, hrest⟩ := exists_isWalk_of_parentsEndWithin hends
      exact ⟨id :: rest, .step hrest⟩

/-! ### All checks -/

/-- What the three checks establish together. -/
structure IsWellformed (arena : SymbolArena) : Prop where
  isSome_of_mem_references : ∀ id symbol, arena.get? id = some symbol →
    ∀ other ∈ symbol.references, (arena.get? other).isSome
  isGrounded : ∀ id, arena.IsGrounded id
  parents_end : ∀ id, ∃ visited, IsWalk arena.parent? (some id) visited

/-- An arena that passes the three checks is well formed. -/
theorem isWellformed_of_checks (hdangling : arena.firstDanglingReference? = none)
    (hsymbols : arena.firstCyclicReference? = none)
    (hnamespaces : arena.firstCyclicNamespace? = none) : arena.IsWellformed where
  isSome_of_mem_references _ _ hsymbol _ := isSome_get?_of_mem_references hdangling hsymbol
  isGrounded := isGrounded_of_firstCyclicReference? hsymbols
  parents_end := exists_isWalk_parent? hnamespaces

/-- What a symbol refers to structurally exists. -/
theorem IsWellformed.isSome_of_mem_structuralReferences (h : arena.IsWellformed)
    {id other : SymbolId} (hother : other ∈ arena.structuralReferences id) :
    (arena.get? other).isSome := by
  cases hsymbol : arena.get? id with
  | none =>
      rw [structuralReferences, hsymbol] at hother
      exact absurd hother List.not_mem_nil
  | some symbol =>
      rw [structuralReferences, hsymbol] at hother
      exact h.isSome_of_mem_references id symbol hsymbol other
        (symbol.structuralReferences_subset hother)

end SymbolArena

end Portability
