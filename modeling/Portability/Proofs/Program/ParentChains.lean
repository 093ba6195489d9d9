import Mathlib.Data.List.Chain
import Mathlib.Logic.Relation
import Portability.Proofs.Program.Handles

/-!
# Chains of parents

Validation follows the parents of each namespace for as many steps as there are namespaces and takes
a chain for a cycle whose end it does not see. One chain that ends is too long for that: one that
passes every namespace and then, by a parent that points nowhere, a missing one.

* `parentsEndWithin_iff`: the end is seen if the walk is shorter than the number of steps.
* `exists_onParentCycle`: a chain that never ends comes to a cycle.
* `firstCyclicNamespace?_exact`: which namespace the check answers, and when the answer is a cycle.
* `validate_missingParent`: validation refuses a program whose parents form no cycle.
-/

namespace Portability

namespace SymbolArena

variable {arena : SymbolArena} {id : NamespaceId}

/-! ### Chains and cycles -/

/-- Whether the parents of a namespace never come to an end. -/
def NeverEnds (arena : SymbolArena) (id : NamespaceId) : Prop :=
  ∀ visited, ¬ IsWalk arena.parent? (some id) visited

/-- Whether the parents of a namespace pass every namespace before they come to a missing one. -/
def LeavesLast (arena : SymbolArena) (id : NamespaceId) : Prop :=
  ∃ passed missing, IsWalk arena.parent? (some id) (passed ++ [missing]) ∧
    passed.Perm arena.namespaceIds ∧ arena.namespace? missing = none

/-- Whether parents lead from a namespace back to it. -/
def OnParentCycle (arena : SymbolArena) (id : NamespaceId) : Prop :=
  Relation.TransGen (fun child parent => arena.parent? child = some parent) id id

/-- Whether every parent of a namespace exists. -/
def ParentsExist (arena : SymbolArena) : Prop :=
  ∀ id parent, arena.parent? id = some parent → (arena.namespace? parent).isSome

/-- There are as many handles of namespaces as there are namespaces. -/
theorem length_namespaceIds (arena : SymbolArena) :
    arena.namespaceIds.length = arena.namespaces.size := by
  rw [namespaceIds, List.length_map, List.length_range]

/-- All that a chain of parents passes before its last namespace exists. -/
theorem isSome_of_mem_passed {start : Option NamespaceId} {passed : List NamespaceId}
    {last : NamespaceId} (h : IsWalk arena.parent? start (passed ++ [last])) :
    ∀ id ∈ passed, (arena.namespace? id).isSome := by
  induction passed generalizing start with
  | nil => exact List.forall_mem_nil _
  | cons first rest ih =>
      obtain ⟨-, parent, hparent, hrest⟩ := IsWalk.exists_next h
      exact List.forall_mem_cons.mpr ⟨isSome_namespace?_of_parent? hparent, ih hrest⟩

/-- From each namespace that parents lead to, the walk is shorter. -/
theorem exists_isWalk_of_transGen {other : NamespaceId} {visited : List NamespaceId}
    (h : IsWalk arena.parent? (some id) visited)
    (hother : Relation.TransGen (fun child parent => arena.parent? child = some parent) id other) :
    ∃ rest, IsWalk arena.parent? (some other) rest ∧ rest.length < visited.length := by
  induction hother with
  | single hparent =>
      cases h with
      | step hrest => exact ⟨_, hparent ▸ hrest, Nat.lt_succ_self _⟩
  | tail _ hparent ih =>
      obtain ⟨rest, hrest, hlength⟩ := ih
      cases hrest with
      | step hnext => exact ⟨_, hparent ▸ hnext, by rw [List.length_cons] at hlength; omega⟩

/-- On a cycle of parents there is no end. -/
theorem OnParentCycle.neverEnds (h : arena.OnParentCycle id) : arena.NeverEnds id := by
  intro visited hwalk
  obtain ⟨rest, hrest, hlength⟩ := exists_isWalk_of_transGen hwalk h
  rw [hwalk.unique hrest] at hlength
  omega

/-- A namespace whose parents never end exists. -/
theorem NeverEnds.isSome (h : arena.NeverEnds id) : (arena.namespace? id).isSome := by
  cases hparent : arena.parent? id with
  | none => exact absurd (.step (hparent ▸ .stop)) (h [id])
  | some parent => exact isSome_namespace?_of_parent? hparent

/-- A chain that never ends passes any number of namespaces. -/
theorem NeverEnds.exists_isChain (h : arena.NeverEnds id) (steps : Nat) :
    ∃ passed : List NamespaceId, passed.length = steps ∧
      (id :: passed).IsChain (fun child parent => arena.parent? child = some parent) ∧
      ∀ other ∈ id :: passed, (arena.namespace? other).isSome := by
  induction steps generalizing id with
  | zero => exact ⟨[], rfl, .singleton _, List.forall_mem_singleton.mpr h.isSome⟩
  | succ steps ih =>
      cases hparent : arena.parent? id with
      | none => exact absurd (.step (hparent ▸ .stop)) (h [id])
      | some parent =>
          have hnext : arena.NeverEnds parent :=
            fun visited hwalk => h (id :: visited) (.step (hparent ▸ hwalk))
          obtain ⟨passed, hlength, hchain, hexist⟩ := ih hnext
          exact ⟨parent :: passed, by rw [List.length_cons, hlength],
            List.isChain_cons_cons.mpr ⟨hparent, hchain⟩,
            List.forall_mem_cons.mpr ⟨h.isSome, hexist⟩⟩

/-- A chain that never ends comes to a cycle: there are not enough namespaces to go on without. -/
theorem exists_onParentCycle (h : arena.NeverEnds id) : ∃ other, arena.OnParentCycle other := by
  by_contra hacyclic
  obtain ⟨passed, hlength, hchain, hexist⟩ := h.exists_isChain arena.namespaces.size
  -- without a cycle none comes again, so more namespaces exist than there are
  have hlater : (id :: passed).Pairwise
      (Relation.TransGen fun child parent => arena.parent? child = some parent) :=
    List.isChain_iff_pairwise.mp (hchain.imp fun _ _ => .single)
  have hne {child parent : NamespaceId}
      (hleads : Relation.TransGen (fun child parent => arena.parent? child = some parent)
        child parent) : child ≠ parent := by
    rintro rfl
    exact hacyclic ⟨child, hleads⟩
  have hle := length_le_namespaces (hlater.imp hne) hexist
  rw [List.length_cons] at hle
  omega

/-- Where every parent exists, a chain that ends does not leave the arena. -/
theorem ParentsExist.not_leavesLast (h : arena.ParentsExist) (hid : (arena.namespace? id).isSome) :
    ¬ arena.LeavesLast id := by
  rintro ⟨passed, missing, hwalk, -, hmissing⟩
  have hexist := hwalk.forall_mem (P := fun other => (arena.namespace? other).isSome)
    (fun other hother => by cases hother; exact hid) (fun other _ parent => h other parent)
  have hlast := hexist missing (List.mem_append_right _ List.mem_cons_self)
  rw [hmissing] at hlast
  cases hlast

/-! ### The check -/

/-- The end of a chain is seen if the walk is shorter than the number of steps. -/
theorem parentsEndWithin_iff {steps : Nat} {start : Option NamespaceId} :
    arena.parentsEndWithin steps start ↔
      ∃ visited, IsWalk arena.parent? start visited ∧ visited.length < steps := by
  induction steps generalizing start with
  | zero => simp [parentsEndWithin]
  | succ steps ih =>
      cases start with
      | none => exact iff_of_true rfl ⟨[], .stop, Nat.succ_pos steps⟩
      | some id =>
          rw [parentsEndWithin, ih]
          constructor
          · rintro ⟨visited, hwalk, hlength⟩
            exact ⟨id :: visited, .step hwalk, Nat.succ_lt_succ hlength⟩
          · rintro ⟨visited, hwalk, hlength⟩
            cases hwalk with
            | step hrest => exact ⟨_, hrest, Nat.lt_of_succ_lt_succ hlength⟩

/-- A walk of more namespaces than there are leaves the arena with the last one. -/
theorem leavesLast_of_lt_length {visited : List NamespaceId}
    (hwalk : IsWalk arena.parent? (some id) visited)
    (hlength : arena.namespaces.size < visited.length) : arena.LeavesLast id := by
  obtain rfl | ⟨passed, last, rfl⟩ := List.eq_nil_or_concat' visited
  · cases hwalk
  have hexist := isSome_of_mem_passed hwalk
  have hnodup := hwalk.nodup
  rw [List.length_append, List.length_singleton] at hlength
  -- what comes before the last exists and does not repeat, so it is all there is
  have hsubperm : passed.Subperm arena.namespaceIds :=
    List.subperm_of_subset (List.nodup_append.mp hnodup).1
      fun other hother => mem_namespaceIds.mpr (hexist other hother)
  refine ⟨passed, last, hwalk, hsubperm.perm_of_length_le ?_, ?_⟩
  · rw [length_namespaceIds]
    omega
  · -- were the last one there too, there would be one too many
    by_contra hlast
    have hall : ∀ other ∈ passed ++ [last], (arena.namespace? other).isSome := by
      intro other hother
      rcases List.mem_append.mp hother with hmem | hmem
      · exact hexist other hmem
      · rw [List.mem_singleton.mp hmem]
        exact Option.isSome_iff_ne_none.mpr hlast
    have hle := length_le_namespaces hnodup hall
    rw [List.length_append, List.length_singleton] at hle
    omega

/-- What the check of a namespace sees no end of: a chain without one, and a chain that passes every
namespace before it leaves the arena. -/
theorem parentsEndWithin_eq_false_iff :
    arena.parentsEndWithin arena.namespaces.size (arena.parent? id) = false ↔
      arena.NeverEnds id ∨ arena.LeavesLast id := by
  rw [← Bool.not_eq_true, parentsEndWithin_iff]
  constructor
  · intro hunseen
    by_cases hends : arena.NeverEnds id
    · exact .inl hends
    · right
      obtain ⟨visited, hwalk⟩ := not_forall_not.mp hends
      refine leavesLast_of_lt_length hwalk ?_
      cases hwalk with
      | @step _ rest hrest =>
          by_contra hshort
          rw [List.length_cons] at hshort
          exact hunseen ⟨rest, hrest, by omega⟩
  · rintro (hends | ⟨passed, missing, hwalk, hperm, -⟩) ⟨rest, hrest, hlength⟩
    · exact hends (id :: rest) (.step hrest)
    · have hsame := congrArg List.length (hwalk.unique (.step hrest))
      rw [List.length_append, List.length_cons, List.length_singleton, hperm.length_eq,
        length_namespaceIds] at hsame
      omega

/-- The check answers the first namespace whose chain of parents it sees no end of. -/
theorem firstCyclicNamespace?_eq_some_iff :
    arena.firstCyclicNamespace? = some id ↔
      ((arena.namespace? id).isSome ∧ (arena.NeverEnds id ∨ arena.LeavesLast id)) ∧
        ∀ other, other.index < id.index → ¬ (arena.NeverEnds other ∨ arena.LeavesLast other) := by
  simp only [← parentsEndWithin_eq_false_iff, isSome_namespace?]
  rw [firstCyclicNamespace?, namespaceIds, List.find?_map, Option.map_eq_some_iff]
  simp only [List.find?_range_eq_some, List.mem_range, Function.comp_apply, Bool.not_eq_eq_eq_not,
    Bool.not_true, Bool.not_not, Bool.not_eq_false]
  constructor
  · rintro ⟨index, ⟨hunseen, hindex, hfirst⟩, rfl⟩
    exact ⟨⟨hindex, hunseen⟩, fun other hother => hfirst other.index hother⟩
  · rintro ⟨⟨hindex, hunseen⟩, hfirst⟩
    exact ⟨id.index, ⟨hunseen, hindex, fun index hbefore => hfirst ⟨index⟩ hbefore⟩, rfl⟩

/-- The check answers nothing if it sees the end of every chain of parents. -/
theorem firstCyclicNamespace?_eq_none_iff :
    arena.firstCyclicNamespace? = none ↔
      ∀ id, (arena.namespace? id).isSome → ¬ (arena.NeverEnds id ∨ arena.LeavesLast id) := by
  simp only [← parentsEndWithin_eq_false_iff]
  rw [firstCyclicNamespace?, List.find?_eq_none]
  simp only [mem_namespaceIds, Bool.not_eq_eq_eq_not, Bool.not_true]

/-- Where every parent exists, the check answers a namespace if and only if parents form a cycle. -/
theorem ParentsExist.firstCyclicNamespace?_eq_none_iff (h : arena.ParentsExist) :
    arena.firstCyclicNamespace? = none ↔ ∀ id, ¬ arena.OnParentCycle id := by
  rw [SymbolArena.firstCyclicNamespace?_eq_none_iff]
  constructor
  · intro hends id hcycle
    exact hends id hcycle.neverEnds.isSome (.inl hcycle.neverEnds)
  · rintro hacyclic id hid (hends | hleaves)
    · obtain ⟨other, hcycle⟩ := exists_onParentCycle hends
      exact hacyclic other hcycle
    · exact h.not_leavesLast hid hleaves

end SymbolArena

/-! ### Refused programs -/

/-- A binding is never refused for a cycle of namespaces. -/
theorem NodeBinding.validate_ne_cyclicNamespace {binding : NodeBinding} {symbols : SymbolArena}
    {file : String} {arena : NodeArena} {id : NamespaceId} :
    binding.validate symbols file arena ≠ .error (.cyclicNamespace id) := by
  unfold validate
  cases arena.contains binding.node with
  | false => exact nofun
  | true =>
      simp only [Bool.not_true, if_neg Bool.false_ne_true]
      split
      · exact nofun
      · exact nofun

/-- A unit is never refused for a cycle of namespaces. -/
theorem UnitDocument.validate_ne_cyclicNamespace {unit : UnitDocument} {symbols : SymbolArena}
    {id : NamespaceId} : unit.validate symbols ≠ .error (.cyclicNamespace id) := by
  unfold validate
  cases unit.arena.contains unit.root with
  | false => exact nofun
  | true =>
      intro h
      obtain ⟨binding, -, hbinding⟩ := exists_mem_of_forM_eq_error h
      exact NodeBinding.validate_ne_cyclicNamespace hbinding

namespace ProgramDocument

/-- Symbols that are refused for a cycle of namespaces are refused with what the check answers. -/
theorem validateSymbols_eq_cyclicNamespace {symbols : SymbolArena} {id : NamespaceId}
    (h : validateSymbols symbols = .error (.cyclicNamespace id)) :
    symbols.firstCyclicNamespace? = some id := by
  unfold validateSymbols at h
  revert h
  cases symbols.firstDanglingReference? with
  | some symbol => exact nofun
  | none =>
      cases symbols.firstCyclicReference? with
      | some symbol => exact nofun
      | none =>
          cases symbols.firstCyclicNamespace? with
          | none => exact nofun
          | some ns =>
              intro h
              cases h
              rfl

/-- Validation takes parents for a cycle only where the check of the symbols does. -/
theorem validate_eq_cyclicNamespace {program : ProgramDocument} {id : NamespaceId}
    (h : program.validate = .error (.cyclicNamespace id)) :
    program.symbols.firstCyclicNamespace? = some id := by
  rw [validate] at h
  rcases eq_error_or_of_bind h with hsymbols | hlater
  · exact validateSymbols_eq_cyclicNamespace hsymbols
  rcases eq_error_or_of_bind hlater with hvalues | hunits
  · obtain ⟨value, -, hvalue⟩ := exists_mem_of_forM_eq_error hvalues
    unfold validateDefaultValue at hvalue
    split at hvalue <;> cases hvalue
  · obtain ⟨unit, -, hunit⟩ := exists_mem_of_forM_eq_error hunits
    exact absurd hunit UnitDocument.validate_ne_cyclicNamespace

end ProgramDocument

/-! ### What the check establishes -/

namespace SymbolArena

/-- **The check for cycles of namespaces.** It answers the first namespace whose parents never end
or pass every namespace before they come to a missing one, and nothing if there is none; validation
refuses a program for a cycle of namespaces only where the check does. If every parent exists, the
parents of the answer never end, and there is an answer if and only if parents form a cycle. -/
theorem firstCyclicNamespace?_exact (arena : SymbolArena) :
    (∀ id, arena.firstCyclicNamespace? = some id ↔
      ((arena.namespace? id).isSome ∧ (arena.NeverEnds id ∨ arena.LeavesLast id)) ∧
        ∀ other, other.index < id.index →
          ¬ (arena.NeverEnds other ∨ arena.LeavesLast other)) ∧
    (arena.firstCyclicNamespace? = none ↔
      ∀ id, (arena.namespace? id).isSome → ¬ (arena.NeverEnds id ∨ arena.LeavesLast id)) ∧
    (∀ (program : ProgramDocument) (id : NamespaceId), program.symbols = arena →
      program.validate = .error (.cyclicNamespace id) → arena.firstCyclicNamespace? = some id) ∧
    (arena.ParentsExist →
      (∀ id, arena.firstCyclicNamespace? = some id → arena.NeverEnds id) ∧
      (arena.firstCyclicNamespace? = none ↔ ∀ id, ¬ arena.OnParentCycle id)) := by
  refine ⟨fun id => firstCyclicNamespace?_eq_some_iff, firstCyclicNamespace?_eq_none_iff,
    fun program id hsymbols hrefused => ?_, fun hexist => ⟨fun id hanswer => ?_,
    hexist.firstCyclicNamespace?_eq_none_iff⟩⟩
  · rw [← hsymbols]
    exact ProgramDocument.validate_eq_cyclicNamespace hrefused
  · obtain ⟨⟨hid, hends | hleaves⟩, -⟩ := firstCyclicNamespace?_eq_some_iff.mp hanswer
    · exact hends
    · exact absurd hleaves (hexist.not_leavesLast hid)

/-- Two namespaces in the global one that are each other's parents. -/
def mutualParents : SymbolArena where
  assemblies := #["Game"]
  namespaces := #[
    { name := "" },
    { name := "App", parent := some ⟨2⟩ },
    { name := "Models", parent := some ⟨1⟩ }]

/-- The check answers the first one of `mutualParents`, whose parents never end as they are on a
cycle. -/
theorem firstCyclicNamespace?_exact_mutualParents :
    mutualParents.ParentsExist ∧
    mutualParents.firstCyclicNamespace? = some ⟨1⟩ ∧
    mutualParents.NeverEnds ⟨1⟩ ∧
    ¬ ∀ id, ¬ mutualParents.OnParentCycle id := by
  have hall : ∀ index < 3, ∀ parent ∈ mutualParents.parent? ⟨index⟩,
      (mutualParents.namespace? parent).isSome := by decide +kernel
  have hexist : mutualParents.ParentsExist := fun id parent hparent =>
    hall id.index (isSome_namespace?.mp (isSome_namespace?_of_parent? hparent)) parent hparent
  obtain ⟨-, -, -, hcycles⟩ := firstCyclicNamespace?_exact mutualParents
  obtain ⟨hends, hnone⟩ := hcycles hexist
  have hanswer : mutualParents.firstCyclicNamespace? = some ⟨1⟩ := by decide +kernel
  refine ⟨hexist, hanswer, hends ⟨1⟩ hanswer, fun hacyclic => ?_⟩
  rw [hnone.mpr hacyclic] at hanswer
  cases hanswer

end SymbolArena

namespace ProgramDocument

/-- A program whose only namespace has a parent that points nowhere. -/
def missingParent : ProgramDocument where
  assembly := ⟨0⟩
  symbols :=
    { assemblies := #["Game"]
      namespaces := #[{ name := "", parent := some ⟨1⟩ }] }

/-- Validation refuses a program for a cycle of namespaces in which parents form none: the only
chain ends with its second namespace, which is missing. -/
theorem validate_missingParent :
    let symbols := missingParent.symbols
    missingParent.validate = .error (.cyclicNamespace ⟨0⟩) ∧
    symbols.firstCyclicNamespace? = some ⟨0⟩ ∧
    IsWalk symbols.parent? (some ⟨0⟩) [⟨0⟩, ⟨1⟩] ∧
    ∀ id, ¬ symbols.OnParentCycle id := by
  intro symbols
  have hwalk : IsWalk symbols.parent? (some ⟨0⟩) [⟨0⟩, ⟨1⟩] := .step (.step .stop)
  refine ⟨by rfl, by decide +kernel, hwalk, fun id hcycle => ?_⟩
  have hindex : id.index < 1 := SymbolArena.isSome_namespace?.mp hcycle.neverEnds.isSome
  obtain rfl : id = ⟨0⟩ := congrArg NamespaceId.mk (Nat.lt_one_iff.mp hindex)
  exact hcycle.neverEnds _ hwalk

end ProgramDocument

end Portability
