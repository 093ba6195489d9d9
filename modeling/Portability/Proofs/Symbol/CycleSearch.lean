import Mathlib.Algebra.BigOperators.Group.Finset.Basic
import Mathlib.Algebra.GroupWithZero.Nat
import Mathlib.Logic.Relation
import Portability.Proofs.Symbol.Wellformed

/-!
# The search for cycles of symbols

Validation searches an arena depth first for a cycle of structural references. Here the search is
told step by step, as a walk that keeps the path it is on (`CycleSearch.step`); the recursive
`SymbolArena.searchCycle` answers what this walk answers (`endsAfter_initial`).

* `ahead_step`: each step leaves one step less that can follow, so the search ends.
* `IsTrail.step`, `onCycle_of_step`: the symbols on the path refer to one another, so that a
  reference back to the path closes a cycle.
* `firstCyclicReference?_exact`: the search answers nothing if and only if there is no cycle, and
  otherwise a symbol on one.
-/

namespace Portability

namespace SymbolArena

variable {arena : SymbolArena} {id other : SymbolId}

/-! ### Cycles -/

/-- Whether a symbol refers to another one that exists: as its containing type or, if it is a type,
as its element type or one of its type arguments. -/
inductive RefersTo (arena : SymbolArena) : SymbolId → SymbolId → Prop
  | containingType {id other : SymbolId} {symbol : Symbol} (hsymbol : arena.get? id = some symbol)
      (hother : symbol.containingType = some other) (hexists : (arena.get? other).isSome) :
      RefersTo arena id other
  | elementType {id other : SymbolId} {type : TypeSymbol}
      (htype : arena.get? id = some (.type type)) (hother : type.elementType = some other)
      (hexists : (arena.get? other).isSome) : RefersTo arena id other
  | typeArgument {id other : SymbolId} {type : TypeSymbol}
      (htype : arena.get? id = some (.type type)) (hother : other ∈ type.typeArguments)
      (hexists : (arena.get? other).isSome) : RefersTo arena id other

/-- Whether references lead from a symbol back to it. -/
def OnCycle (arena : SymbolArena) (id : SymbolId) : Prop :=
  Relation.TransGen arena.RefersTo id id

/-- A symbol refers to its structural references, if they exist. -/
theorem refersTo_iff :
    arena.RefersTo id other ↔
      other ∈ arena.structuralReferences id ∧ (arena.get? other).isSome := by
  constructor
  · intro h
    cases h with
    | @containingType symbol hsymbol hother hexists =>
        refine ⟨?_, hexists⟩
        rw [structuralReferences, hsymbol]
        cases symbol <;> simp_all [Symbol.structuralReferences, Symbol.containingType]
    | elementType htype hother hexists =>
        refine ⟨?_, hexists⟩
        simp [structuralReferences, htype, Symbol.structuralReferences, hother]
    | typeArgument htype hother hexists =>
        refine ⟨?_, hexists⟩
        simp [structuralReferences, htype, Symbol.structuralReferences, hother]
  · rintro ⟨hmem, hexists⟩
    cases hsymbol : arena.get? id with
    | none =>
        rw [structuralReferences, hsymbol] at hmem
        exact absurd hmem List.not_mem_nil
    | some symbol =>
        rw [structuralReferences, hsymbol] at hmem
        cases symbol
        case type type =>
          simp only [Symbol.structuralReferences, List.mem_append, Option.mem_toList] at hmem
          rcases hmem with (hother | hother) | hother
          · exact .containingType hsymbol hother hexists
          · exact .elementType hsymbol hother hexists
          · exact .typeArgument hsymbol hother hexists
        all_goals exact .containingType hsymbol (Option.mem_toList.mp hmem) hexists

/-- A symbol from which references come to an end is on no cycle. -/
theorem IsGrounded.not_onCycle (h : arena.IsGrounded id) : ¬ arena.OnCycle id := by
  induction h with
  | intro id _ ih =>
      intro hcycle
      obtain ⟨next, hnext, hback⟩ := Relation.TransGen.head'_iff.mp hcycle
      exact ih next (refersTo_iff.mp hnext).1 (.tail' hback hnext)

end SymbolArena

/-! ### The search step by step -/

/-- What a search for cycles holds between two steps: the symbols it will start from, the path it is
on, innermost symbol first, each with the references that are still to be followed, and the symbols
it is finished with. -/
structure CycleSearch where
  starts : List SymbolId
  path : List (SymbolId × List SymbolId) := []
  finished : List SymbolId := []

namespace CycleSearch

variable {arena : SymbolArena} {search later last : CycleSearch} {id : SymbolId}

/-- The search of a whole arena. -/
def initial (arena : SymbolArena) : CycleSearch where
  starts := arena.symbolIds

/-- A step of a search, or the answer it ends with. A reference to a symbol on the path closes a
cycle; one to a symbol that is finished or does not exist is passed over; any other symbol is put
on the path. A symbol without further references is finished. -/
def step (arena : SymbolArena) : CycleSearch → Except (Option SymbolId) CycleSearch
  | ⟨[], [], _⟩ => .error none
  | ⟨start :: starts, [], finished⟩ =>
    if finished.contains start then .ok ⟨starts, [], finished⟩
    else .ok ⟨starts, [(start, arena.structuralReferences start)], finished⟩
  | ⟨starts, (id, []) :: path, finished⟩ => .ok ⟨starts, path, id :: finished⟩
  | ⟨starts, (id, next :: rest) :: path, finished⟩ =>
    if (id :: path.map Prod.fst).contains next then .error (some next)
    else if finished.contains next then .ok ⟨starts, (id, rest) :: path, finished⟩
    else if (arena.get? next).isNone then .ok ⟨starts, (id, rest) :: path, finished⟩
    else .ok ⟨starts, (next, arena.structuralReferences next) :: (id, rest) :: path, finished⟩

/-- Whether a search ends with an answer after the given number of steps. -/
inductive EndsAfter (arena : SymbolArena) : Nat → CycleSearch → Option SymbolId → Prop
  | answer {search : CycleSearch} {answer : Option SymbolId}
      (h : search.step arena = .error answer) : EndsAfter arena 0 search answer
  | step {steps : Nat} {search later : CycleSearch} {answer : Option SymbolId}
      (h : search.step arena = .ok later) (hlater : EndsAfter arena steps later answer) :
      EndsAfter arena (steps + 1) search answer

/-- What the steps of a search are, by the rules. -/
inductive Steps (arena : SymbolArena) : CycleSearch → CycleSearch → Prop
  | skip {start : SymbolId} {starts finished : List SymbolId} (hfinished : start ∈ finished) :
      Steps arena ⟨start :: starts, [], finished⟩ ⟨starts, [], finished⟩
  | start {start : SymbolId} {starts finished : List SymbolId} (hnew : start ∉ finished) :
      Steps arena ⟨start :: starts, [], finished⟩
        ⟨starts, [(start, arena.structuralReferences start)], finished⟩
  | finish {starts finished : List SymbolId} {id : SymbolId}
      {path : List (SymbolId × List SymbolId)} :
      Steps arena ⟨starts, (id, []) :: path, finished⟩ ⟨starts, path, id :: finished⟩
  | pass {starts finished rest : List SymbolId} {id next : SymbolId}
      {path : List (SymbolId × List SymbolId)} :
      Steps arena ⟨starts, (id, next :: rest) :: path, finished⟩
        ⟨starts, (id, rest) :: path, finished⟩
  | enter {starts finished rest : List SymbolId} {id next : SymbolId}
      {path : List (SymbolId × List SymbolId)} (hpath : next ∉ id :: path.map Prod.fst)
      (hnew : next ∉ finished) (hexists : (arena.get? next).isSome) :
      Steps arena ⟨starts, (id, next :: rest) :: path, finished⟩
        ⟨starts, (next, arena.structuralReferences next) :: (id, rest) :: path, finished⟩

/-- Every step is one of the rules. -/
theorem steps_of_step (h : search.step arena = .ok later) : Steps arena search later := by
  match search with
  | ⟨[], [], _⟩ => cases h
  | ⟨start :: starts, [], finished⟩ =>
      rw [step] at h
      split at h
      next hfinished =>
        cases h
        exact .skip (List.contains_iff_mem.mp hfinished)
      next hnew =>
        cases h
        exact .start fun hmem => hnew (List.contains_iff_mem.mpr hmem)
  | ⟨starts, (id, []) :: path, finished⟩ =>
      rw [step] at h
      cases h
      exact .finish
  | ⟨starts, (id, next :: rest) :: path, finished⟩ =>
      rw [step] at h
      split at h
      · cases h
      next hpath =>
      split at h
      · cases h
        exact .pass
      next hnew =>
      split at h
      · cases h
        exact .pass
      next hexists =>
        cases h
        refine .enter (fun hmem => hpath (List.contains_iff_mem.mpr hmem))
          (fun hmem => hnew (List.contains_iff_mem.mpr hmem)) ?_
        rwa [Bool.not_eq_true, Option.isNone_eq_false_iff] at hexists

/-! ### The path -/

/-- Whether the symbols of a search exist and those on its path refer to one another, from the
outermost to the innermost. -/
structure IsTrail (arena : SymbolArena) (search : CycleSearch) : Prop where
  starts_exist : ∀ start ∈ search.starts, (arena.get? start).isSome
  rest_subset : ∀ place ∈ search.path, place.2 ⊆ arena.structuralReferences place.1
  path_exists : ∀ id ∈ search.path.map Prod.fst, (arena.get? id).isSome
  refers : (search.path.map Prod.fst).IsChain fun inner outer => arena.RefersTo outer inner

/-- A search begins with an empty path, which is a trail. -/
theorem isTrail_initial (arena : SymbolArena) : IsTrail arena (initial arena) := by
  exact ⟨fun _ hstart => SymbolArena.mem_symbolIds.mp hstart, List.forall_mem_nil _,
    List.forall_mem_nil _, .nil⟩

/-- A step stays on a trail. -/
theorem IsTrail.step (h : IsTrail arena search) (hstep : search.step arena = .ok later) :
    IsTrail arena later := by
  have hsteps := steps_of_step hstep
  clear hstep
  obtain ⟨hstarts, hrest, hpath, hrefers⟩ := h
  cases hsteps with
  | skip =>
      exact ⟨(List.forall_mem_cons.mp hstarts).2, hrest, hpath, hrefers⟩
  | start =>
      obtain ⟨hstart, hstarts⟩ := List.forall_mem_cons.mp hstarts
      exact ⟨hstarts, List.forall_mem_singleton.mpr (List.Subset.refl _),
        List.forall_mem_singleton.mpr hstart, .singleton _⟩
  | finish =>
      exact ⟨hstarts, (List.forall_mem_cons.mp hrest).2, (List.forall_mem_cons.mp hpath).2,
        hrefers.tail⟩
  | pass =>
      obtain ⟨hplace, hrest⟩ := List.forall_mem_cons.mp hrest
      obtain ⟨hid, hpath⟩ := List.forall_mem_cons.mp hpath
      exact ⟨hstarts, List.forall_mem_cons.mpr ⟨(List.cons_subset.mp hplace).2, hrest⟩,
        List.forall_mem_cons.mpr ⟨hid, hpath⟩, hrefers⟩
  | enter _ _ hexists =>
      obtain ⟨hplace, hrest⟩ := List.forall_mem_cons.mp hrest
      obtain ⟨hid, hpath⟩ := List.forall_mem_cons.mp hpath
      -- the path grows by a reference of its head, which exists
      obtain ⟨hnext, hplace⟩ := List.cons_subset.mp hplace
      refine ⟨hstarts, ?_, ?_, ?_⟩
      · exact List.forall_mem_cons.mpr
          ⟨List.Subset.refl _, List.forall_mem_cons.mpr ⟨hplace, hrest⟩⟩
      · exact List.forall_mem_cons.mpr ⟨hexists, List.forall_mem_cons.mpr ⟨hid, hpath⟩⟩
      · exact List.isChain_cons_cons.mpr
          ⟨SymbolArena.refersTo_iff.mpr ⟨hnext, hexists⟩, hrefers⟩

/-- References lead from every symbol on a path to the innermost one. -/
theorem reaches_head_of_mem {ids : List SymbolId} {inner outer : SymbolId}
    (h : (inner :: ids).IsChain fun inner outer => arena.RefersTo outer inner)
    (houter : outer ∈ inner :: ids) : Relation.ReflTransGen arena.RefersTo outer inner := by
  induction ids generalizing inner with
  | nil =>
      rw [List.mem_singleton.mp houter]
  | cons second rest ih =>
      obtain ⟨hsecond, hrest⟩ := List.isChain_cons_cons.mp h
      rcases List.mem_cons.mp houter with rfl | hmem
      · exact .refl
      · exact (ih hrest hmem).tail hsecond

/-- Where a search on a trail finds a cycle, there is one. -/
theorem onCycle_of_step (h : IsTrail arena search)
    (hstep : search.step arena = .error (some id)) : arena.OnCycle id := by
  match search with
  | ⟨[], [], _⟩ => cases hstep
  | ⟨start :: starts, [], finished⟩ =>
      rw [step] at hstep
      split at hstep <;> cases hstep
  | ⟨starts, (inner, []) :: path, finished⟩ =>
      rw [step] at hstep
      cases hstep
  | ⟨starts, (inner, next :: rest) :: path, finished⟩ =>
      rw [step] at hstep
      split at hstep
      next hmem =>
        cases hstep
        have hmem : id ∈ inner :: path.map Prod.fst := List.contains_iff_mem.mp hmem
        have hreaches := reaches_head_of_mem h.refers hmem
        have hexists := h.path_exists id hmem
        have hnext := h.rest_subset _ (.head _) (.head _)
        exact .tail' hreaches (SymbolArena.refersTo_iff.mpr ⟨hnext, hexists⟩)
      next =>
        split at hstep
        · cases hstep
        · split at hstep <;> cases hstep

/-- A search on a trail that ends with a symbol ends with one on a cycle. -/
theorem EndsAfter.onCycle {steps : Nat} {answer : Option SymbolId}
    (h : EndsAfter arena steps search answer) (htrail : IsTrail arena search) (id : SymbolId)
    (hid : answer = some id) : arena.OnCycle id := by
  induction h with
  | answer hstep =>
      subst hid
      exact onCycle_of_step htrail hstep
  | step hstep _ ih => exact ih (htrail.step hstep) hid

/-! ### The number of steps -/

/-- The symbols that a search has come to. -/
def seen (search : CycleSearch) : List SymbolId :=
  search.path.map Prod.fst ++ search.finished

/-- How many steps follow once a search comes to the symbols that are not yet seen: one for each of
their references and one to finish each of them. -/
def unseenAhead (arena : SymbolArena) (seen : List SymbolId) : Nat :=
  ∑ id ∈ arena.symbolIds.toFinset \ seen.toFinset, ((arena.structuralReferences id).length + 1)

/-- How many steps of a search follow: one for each symbol to start from, one for each reference to
follow and one to finish each symbol. -/
def ahead (arena : SymbolArena) (search : CycleSearch) : Nat :=
  search.starts.length + (search.path.map fun place => place.2.length + 1).sum +
    unseenAhead arena search.seen

/-- A symbol that is seen takes its steps with it. -/
theorem unseenAhead_cons {seen : List SymbolId} (hexists : (arena.get? id).isSome)
    (hnew : id ∉ seen) :
    unseenAhead arena (id :: seen) + ((arena.structuralReferences id).length + 1) =
      unseenAhead arena seen := by
  have hmem : id ∈ arena.symbolIds.toFinset \ seen.toFinset :=
    Finset.mem_sdiff.mpr ⟨List.mem_toFinset.mpr (SymbolArena.mem_symbolIds.mpr hexists),
      fun hseen => hnew (List.mem_toFinset.mp hseen)⟩
  rw [unseenAhead, List.toFinset_cons, Finset.sdiff_insert]
  exact Finset.sum_erase_add _ _ hmem

/-- A finished symbol stays seen. -/
theorem unseenAhead_finish (arena : SymbolArena) (id : SymbolId) (path finished : List SymbolId) :
    unseenAhead arena (path ++ id :: finished) = unseenAhead arena (id :: path ++ finished) := by
  rw [unseenAhead, List.toFinset_eq_of_perm _ _ List.perm_middle]
  rfl

/-- Each step leaves one step less to follow. -/
theorem ahead_step (h : IsTrail arena search) (hstep : search.step arena = .ok later) :
    later.ahead arena + 1 = search.ahead arena := by
  have hsteps := steps_of_step hstep
  clear hstep
  cases hsteps with
  | skip =>
      simp only [ahead, seen, List.length_cons]
      omega
  | start hnew =>
      have hcons := unseenAhead_cons (h.starts_exist _ (.head _)) hnew
      simp only [ahead, seen, List.length_cons, List.map_cons, List.map_nil, List.sum_cons,
        List.sum_nil, List.cons_append, List.nil_append]
      omega
  | @finish starts finished id path =>
      have hfinish := unseenAhead_finish arena id (path.map Prod.fst) finished
      simp only [ahead, seen, List.length_nil, List.map_cons, List.sum_cons]
      omega
  | pass =>
      simp only [ahead, seen, List.length_cons, List.map_cons, List.sum_cons]
      omega
  | enter hpath hnew hexists =>
      have hcons := unseenAhead_cons hexists (List.not_mem_append hpath hnew)
      simp only [ahead, seen, List.length_cons, List.map_cons, List.sum_cons,
        List.cons_append] at hcons ⊢
      omega

/-- A search ends within the steps that follow. -/
theorem EndsAfter.le_ahead {steps : Nat} {answer : Option SymbolId}
    (h : EndsAfter arena steps search answer) (htrail : IsTrail arena search) :
    steps ≤ search.ahead arena := by
  induction h with
  | answer => exact Nat.zero_le _
  | step hstep _ ih =>
      rw [← ahead_step htrail hstep]
      exact Nat.succ_le_succ (ih (htrail.step hstep))

/-- Each symbol is started from and finished at most once, and each reference followed. -/
theorem ahead_initial (arena : SymbolArena) :
    (initial arena).ahead arena = 2 * arena.symbols.size +
      (arena.symbolIds.map fun id => (arena.structuralReferences id).length).sum := by
  have hnodup : arena.symbolIds.Nodup :=
    List.nodup_range.map fun _ _ heq => SymbolId.mk.inj heq
  have hlength : arena.symbolIds.length = arena.symbols.size := by
    rw [SymbolArena.symbolIds, List.length_map, List.length_range]
  have hsum : unseenAhead arena [] =
      (arena.symbolIds.map fun id => (arena.structuralReferences id).length + 1).sum := by
    rw [unseenAhead, List.toFinset_nil, Finset.sdiff_empty, List.sum_toFinset _ hnodup]
  rw [List.sum_map_add, List.map_const', List.sum_replicate_nat, hlength] at hsum
  simp only [ahead, initial, seen, List.map_nil, List.sum_nil, List.nil_append, hlength]
  omega

/-! ### The recursive search -/

/-- Whether steps lead from a search to a later one. -/
def Leads (arena : SymbolArena) : CycleSearch → CycleSearch → Prop :=
  Relation.ReflTransGen fun search later => search.step arena = .ok later

/-- Whether steps of a search lead to an outcome: to a later search, or to the symbol at which a
cycle closes. -/
def Performs (arena : SymbolArena) (search : CycleSearch) : Except SymbolId CycleSearch → Prop
  | .ok later => Leads arena search later
  | .error id => ∃ last, Leads arena search last ∧ last.step arena = .error (some id)

/-- What a later search performs is performed by one that leads to it. -/
theorem Leads.performs {outcome : Except SymbolId CycleSearch} (h : Leads arena search later)
    (hlater : Performs arena later outcome) : Performs arena search outcome := by
  cases outcome with
  | ok last => exact h.trans hlater
  | error id =>
      obtain ⟨last, hlast, hanswer⟩ := hlater
      exact ⟨last, h.trans hlast, hanswer⟩

/-- A search ends as the one does that it leads to, after some more steps. -/
theorem Leads.endsAfter {steps : Nat} {answer : Option SymbolId} (h : Leads arena search later)
    (hlater : EndsAfter arena steps later answer) :
    ∃ steps, EndsAfter arena steps search answer := by
  induction h using Relation.ReflTransGen.head_induction_on with
  | refl => exact ⟨steps, hlater⟩
  | head hstep _ ih =>
      obtain ⟨steps, hends⟩ := ih
      exact ⟨steps + 1, .step hstep hends⟩

/-- A search through several symbols is performed where the search of each of them is. -/
theorem performs_foldlM (searchOne : List SymbolId → SymbolId → Except SymbolId (List SymbolId))
    (place : List SymbolId → List SymbolId → CycleSearch) {ids : List SymbolId}
    (hone : ∀ id ∈ ids, ∀ rest finished,
      Performs arena (place (id :: rest) finished) ((searchOne finished id).map (place rest)))
    (finished : List SymbolId) :
    Performs arena (place ids finished) ((ids.foldlM searchOne finished).map (place [])) := by
  induction ids generalizing finished with
  | nil => exact .refl
  | cons first rest ih =>
      obtain ⟨hfirst, hrest⟩ := List.forall_mem_cons.mp hone
      have hperforms := hfirst rest finished
      rw [List.foldlM_cons]
      cases hlater : searchOne finished first with
      | error id =>
          rw [hlater] at hperforms
          exact hperforms
      | ok later =>
          rw [hlater] at hperforms
          exact Leads.performs hperforms (ih hrest later)

/-- The search of a reference is performed if the search below it is: the reference closes a cycle,
is passed over, or is put on the path. -/
theorem performs_reference {starts finished rest : List SymbolId} {next : SymbolId}
    {path : List (SymbolId × List SymbolId)} {below : Except SymbolId (List SymbolId)}
    (hbelow : next ∉ id :: path.map Prod.fst → (arena.get? next).isSome →
      Performs arena
        ⟨starts, (next, arena.structuralReferences next) :: (id, rest) :: path, finished⟩
        (below.map fun later => ⟨starts, (id, rest) :: path, later⟩)) :
    Performs arena ⟨starts, (id, next :: rest) :: path, finished⟩
      (Except.map (fun later => ⟨starts, (id, rest) :: path, later⟩)
        (if (id :: path.map Prod.fst).contains next then .error next
        else if finished.contains next then .ok finished
        else if (arena.get? next).isNone then .ok finished
        else below)) := by
  split
  next hmem =>
    exact ⟨_, .refl, by rw [step, if_pos hmem]⟩
  next hpass =>
  split
  next hfinished =>
    exact .single (by rw [step, if_neg hpass, if_pos hfinished])
  next hnew =>
  split
  next hmissing =>
    exact .single (by rw [step, if_neg hpass, if_neg hnew, if_pos hmissing])
  next hsome =>
    have hexists : (arena.get? next).isSome := by
      rwa [Bool.not_eq_true, Option.isNone_eq_false_iff] at hsome
    have hnot : next ∉ id :: path.map Prod.fst :=
      fun hmem => hpass (List.contains_iff_mem.mpr hmem)
    have henter : Leads arena ⟨starts, (id, next :: rest) :: path, finished⟩
        ⟨starts, (next, arena.structuralReferences next) :: (id, rest) :: path, finished⟩ :=
      .single (by rw [step, if_neg hpass, if_neg hnew, if_neg hsome])
    exact henter.performs (hbelow hnot hexists)

/-- The search below a symbol is performed by steps that take the symbol off the path. -/
theorem performs_searchCycle {fuel : Nat} {path : List (SymbolId × List SymbolId)}
    {finished starts : List SymbolId} (hpath : arena.IsPath (path.map Prod.fst) id)
    (hfuel : arena.symbols.size ≤ fuel + path.length) :
    Performs arena ⟨starts, (id, arena.structuralReferences id) :: path, finished⟩
      ((arena.searchCycle fuel (path.map Prod.fst) finished id).map fun later =>
        ⟨starts, path, later⟩) := by
  induction fuel generalizing path finished id with
  | zero =>
      have hlength := SymbolArena.length_le_symbols hpath.nodup hpath.isSome
      rw [List.length_cons, List.length_map] at hlength
      omega
  | succ fuel ih =>
      have hfold := @performs_foldlM arena
        (fun finished next =>
          if (id :: path.map Prod.fst).contains next then .error next
          else if finished.contains next then .ok finished
          else if (arena.get? next).isNone then .ok finished
          else arena.searchCycle fuel (id :: path.map Prod.fst) finished next)
        (fun rest finished => ⟨starts, (id, rest) :: path, finished⟩)
        (arena.structuralReferences id) ?_ finished
      · rw [SymbolArena.searchCycle]
        revert hfold
        generalize (List.foldlM _ finished (arena.structuralReferences id) :
          Except SymbolId _) = outcome
        intro hfold
        cases outcome with
        | error other => exact hfold
        | ok searched => exact hfold.tail (by rw [step])
      · intro next _ rest finished
        refine performs_reference fun hnot hexists => ?_
        -- a longer path makes up for the fuel that is used
        have hlonger : arena.symbols.size ≤ fuel + ((id, rest) :: path).length := by
          rw [List.length_cons]
          omega
        exact ih (hpath.step hexists hnot) hlonger

/-- The search of an arena ends, with the answer of the check. -/
theorem endsAfter_initial (arena : SymbolArena) :
    ∃ steps, EndsAfter arena steps (initial arena) arena.firstCyclicReference? := by
  have hfold := @performs_foldlM arena
    (fun finished id =>
      if finished.contains id then .ok finished
      else arena.searchCycle arena.symbols.size [] finished id)
    (fun starts finished => ⟨starts, [], finished⟩) arena.symbolIds ?_ []
  · rw [SymbolArena.firstCyclicReference?]
    revert hfold
    generalize (List.foldlM _ [] arena.symbolIds : Except SymbolId _) = outcome
    intro hfold
    cases outcome with
    | error id =>
        obtain ⟨last, hlast, hanswer⟩ := hfold
        exact hlast.endsAfter (.answer hanswer)
    | ok finished =>
        exact Leads.endsAfter hfold (.answer (by rw [step]))
  · intro id hid starts finished
    split
    next hfinished =>
      exact .single (by rw [step, if_pos hfinished])
    next hnew =>
      have hstart : Leads arena ⟨id :: starts, [], finished⟩
          ⟨starts, [(id, arena.structuralReferences id)], finished⟩ :=
        .single (by rw [step, if_neg hnew])
      have hpath : arena.IsPath [] id :=
        ⟨List.forall_mem_singleton.mpr (SymbolArena.mem_symbolIds.mp hid), List.nodup_singleton _⟩
      exact hstart.performs (performs_searchCycle hpath (Nat.le_add_right _ _))

end CycleSearch

/-! ### The check -/

namespace SymbolArena

/-- **The check for cycles is exact**, in every arena, also one with references that point nowhere.
Its search ends, with a step for each symbol to start from, one for each reference and one to finish
each symbol at most. It answers nothing if and only if no symbol is on a cycle of containing types,
element types and type arguments, and a symbol that it answers is on one. -/
theorem firstCyclicReference?_exact (arena : SymbolArena) :
    (∃ steps ≤ 2 * arena.symbols.size +
        (arena.symbolIds.map fun id => (arena.structuralReferences id).length).sum,
      CycleSearch.EndsAfter arena steps (.initial arena) arena.firstCyclicReference?) ∧
    (arena.firstCyclicReference? = none ↔ ∀ id, ¬ arena.OnCycle id) ∧
    ∀ id, arena.firstCyclicReference? = some id → arena.OnCycle id := by
  obtain ⟨steps, hends⟩ := CycleSearch.endsAfter_initial arena
  have htrail := CycleSearch.isTrail_initial arena
  have hsound := hends.onCycle htrail
  refine ⟨⟨steps, ?_, hends⟩, ⟨fun hnone id => ?_, fun hacyclic => ?_⟩, hsound⟩
  · rw [← CycleSearch.ahead_initial]
    exact hends.le_ahead htrail
  · exact (isGrounded_of_firstCyclicReference? hnone id).not_onCycle
  · cases hanswer : arena.firstCyclicReference? with
    | none => rfl
    | some id => exact absurd (hsound id hanswer) (hacyclic id)

end SymbolArena

end Portability
