import Portability.Proofs.Tree.Reach

/-!
# Names in trees

Names are built from identifiers, generic names, predefined types and qualified names. Two ways in
which the names of a tree can be well-formed:

* `NamesHoldNames`: a qualified name has nothing but names below it,
* `NamesWellPlaced`: what stands where a name belongs is a name throughout, and one that can stand
  on the right where that is its place.

The names of namespaces are as a rule chains of identifiers (`IsNameChain`).
-/

namespace Portability

/-- Whether a node is a name. -/
def NodeData.isName : NodeData → Bool
  | identifierName .. | genericName .. | qualifiedName .. | predefinedType .. => true
  | _ => false

/-- The slots of a node where names belong: the parts of a qualified name, the name of a member that
is accessed, of an import and of a namespace. -/
def NodeData.nameParts : NodeData → List NodeId
  | qualifiedName left right => [left, right]
  | memberAccess _ name | usingDirective _ name | namespaceDeclaration name _ _ _ => [name]
  | _ => []

/-- The slots of a node where names belong that have no qualifier of their own. -/
def NodeData.simpleNameParts : NodeData → List NodeId
  | qualifiedName _ name | memberAccess _ name => [name]
  | _ => []

namespace NodeArena

/-- Whether all nodes below and including a handle are names. -/
def OnlyNamesBelow (arena : NodeArena) (id : NodeId) : Prop :=
  ∀ below, arena.Reaches id below → ∀ data, arena.data? below = some data → data.isName

/-- Whether the qualified names below a root have nothing but names below them. -/
def NamesHoldNames (arena : NodeArena) (root : NodeId) : Prop :=
  ∀ id left right, arena.Reaches root id → arena.data? id = some (.qualifiedName left right) →
    arena.OnlyNamesBelow id

/-- Whether everything below and including a handle is a name, and is there. -/
def IsNameTree (arena : NodeArena) (id : NodeId) : Prop :=
  ∀ below, arena.Reaches id below → ∃ data, arena.data? below = some data ∧ data.isName

/-- Whether below a root names are where they belong. -/
structure NamesWellPlaced (arena : NodeArena) (root : NodeId) : Prop where
  names : ∀ id data, arena.Reaches root id → arena.data? id = some data →
    ∀ name ∈ data.nameParts, arena.IsNameTree name
  simpleNames : ∀ id data, arena.Reaches root id → arena.data? id = some data →
    ∀ name ∈ data.simpleNameParts, ∃ other, arena.data? name = some other ∧ other.isSimpleName

variable {arena : NodeArena} {id part : NodeId} {data : NodeData}

/-- In a tree of names everything is a name. -/
theorem IsNameTree.onlyNamesBelow (h : arena.IsNameTree id) : arena.OnlyNamesBelow id := by
  intro below hbelow data hdata
  obtain ⟨other, hother, hname⟩ := h below hbelow
  obtain rfl : other = data := Option.some.inj (hother ▸ hdata)
  exact hname

/-- Below no node there is nothing that could be no name. -/
theorem onlyNamesBelow_none : arena.OnlyNamesBelow .none := by
  intro below hbelow data hdata
  rw [hbelow.eq_of_data?_eq_none data?_none] at hdata
  exact absurd hdata (by simp)

/-- Where there are only names below a node, there are only names below its slots. -/
theorem OnlyNamesBelow.slot (h : arena.OnlyNamesBelow id) (hdata : arena.data? id = some data)
    (hslot : part ∈ data.slots) : arena.OnlyNamesBelow part := by
  rcases eq_none_or_mem_children hdata hslot with rfl | hchild
  · exact onlyNamesBelow_none
  · exact fun below hbelow => h below (.ofChild hchild hbelow)

/-- Where names are where they belong, there is nothing but names below qualified names. -/
theorem NamesWellPlaced.namesHoldNames {root : NodeId} (h : arena.NamesWellPlaced root) :
    arena.NamesHoldNames root := by
  intro id left right hid hdata below hbelow data hbelowData
  rcases hbelow.eq_or_slot hdata with rfl | ⟨slot, hslot, hreach⟩
  · obtain rfl : NodeData.qualifiedName left right = data :=
      Option.some.inj (hdata ▸ hbelowData)
    rfl
  · exact (h.names id _ hid hdata slot hslot).onlyNamesBelow below hreach data hbelowData

/-- Qualified names below a slot of a node are below the node. -/
theorem NamesHoldNames.slot (h : arena.NamesHoldNames id) (hdata : arena.data? id = some data)
    (hslot : part ∈ data.slots) : arena.NamesHoldNames part := by
  intro other left right hreach hother
  rcases eq_none_or_mem_children hdata hslot with rfl | hchild
  · rw [hreach.eq_of_data?_eq_none data?_none] at hother
    exact absurd hother (by simp)
  · exact h other left right (.ofChild hchild hreach) hother

/-- Whether every child of a node that is a name is one, too. -/
def NamesHaveNames (arena : NodeArena) : Prop :=
  ∀ index < arena.size, ∀ data ∈ arena.data? (.ofIndex index), data.isName →
    ∀ child ∈ data.children, ∀ other ∈ arena.data? child, other.isName

/-- Decides whether names have names, node by node. -/
instance (arena : NodeArena) : Decidable arena.NamesHaveNames := by
  unfold NamesHaveNames
  infer_instance

/-- Below a name there are only names, if names have names. -/
theorem NamesHaveNames.onlyNamesBelow (h : arena.NamesHaveNames)
    (hid : ∀ data, arena.data? id = some data → data.isName) : arena.OnlyNamesBelow id := by
  intro below hbelow
  refine hbelow.induction (P := fun id => ∀ data, arena.data? id = some data → data.isName) hid
    fun parent hparent child hchild other hother => ?_
  obtain ⟨data, hdata⟩ := contains_iff.mp (contains_of_mem_children hchild)
  obtain ⟨index, hindex, rfl⟩ := exists_index_of_data? hdata
  rw [children_eq_of_data? hdata] at hchild
  exact h index hindex data hdata (hparent data hdata) child hchild other hother

/-- Qualified names have only names below them, if names have names. -/
theorem NamesHaveNames.namesHoldNames (h : arena.NamesHaveNames) (root : NodeId) :
    arena.NamesHoldNames root := by
  intro id left right _ hdata
  refine h.onlyNamesBelow fun data hsome => ?_
  obtain rfl : NodeData.qualifiedName left right = data := Option.some.inj (hdata ▸ hsome)
  rfl

/-- Whether what stands where a name belongs is one. -/
def NamesPlaced (arena : NodeArena) : Prop :=
  ∀ index < arena.size, ∀ data ∈ arena.data? (.ofIndex index),
    (∀ name ∈ data.nameParts, ∃ other ∈ arena.data? name, other.isName) ∧
      ∀ name ∈ data.simpleNameParts, ∃ other ∈ arena.data? name, other.isSimpleName

/-- Decides whether names are in place, node by node. -/
instance (arena : NodeArena) : Decidable arena.NamesPlaced := by
  unfold NamesPlaced
  infer_instance

/-- Names that have names and are in place are well-placed below every root. -/
theorem NamesHaveNames.namesWellPlaced (h : arena.NamesHaveNames) (hplaced : arena.NamesPlaced)
    (hclosed : arena.IsClosed) (root : NodeId) : arena.NamesWellPlaced root := by
  refine ⟨fun id data _ hdata name hname below hbelow => ?_, fun id data _ hdata name hname => ?_⟩
  · obtain ⟨index, hindex, rfl⟩ := exists_index_of_data? hdata
    obtain ⟨other, hother, hisName⟩ := (hplaced index hindex data hdata).1 name hname
    have hcontains := hclosed.contains_of_reaches (contains_iff.mpr ⟨other, hother⟩) hbelow
    obtain ⟨last, hlast⟩ := contains_iff.mp hcontains
    refine ⟨last, hlast, h.onlyNamesBelow (fun data hdata => ?_) below hbelow last hlast⟩
    obtain rfl : other = data := Option.some.inj (hother ▸ hdata)
    exact hisName
  · obtain ⟨index, hindex, rfl⟩ := exists_index_of_data? hdata
    exact (hplaced index hindex data hdata).2 name hname

/-! ### Chains -/

/-- Whether a handle names a chain of identifiers with texts, each but the first qualified by what
is before it. -/
inductive IsNameChain (arena : NodeArena) : NodeId → Prop
  | identifier {id : NodeId} {text : String} (hdata : arena.data? id = some (.identifierName text))
      (htext : text ≠ "") : IsNameChain arena id
  | qualified {id left right : NodeId} {text : String}
      (hdata : arena.data? id = some (.qualifiedName left right)) (hleft : IsNameChain arena left)
      (hright : arena.data? right = some (.identifierName text)) (htext : text ≠ "") :
      IsNameChain arena id

namespace IsNameChain

/-- A chain consists of identifiers and qualified names. -/
theorem exists_data? (h : arena.IsNameChain id) :
    ∃ data, arena.data? id = some data ∧
      ((∃ text, data = .identifierName text) ∨ ∃ left right, data = .qualifiedName left right) := by
  cases h with
  | identifier hdata => exact ⟨_, hdata, .inl ⟨_, rfl⟩⟩
  | qualified hdata => exact ⟨_, hdata, .inr ⟨_, _, rfl⟩⟩

/-- The parts of a chain are a chain and an identifier. -/
theorem parts {left right : NodeId} (h : arena.IsNameChain id)
    (hdata : arena.data? id = some (.qualifiedName left right)) :
    arena.IsNameChain left ∧
      ∃ text, text ≠ "" ∧ arena.data? right = some (.identifierName text) := by
  cases h with
  | identifier hother => cases hother.symm.trans hdata
  | qualified hother hleft hright htext =>
      cases hother.symm.trans hdata
      exact ⟨hleft, _, htext, hright⟩

/-- What is below a chain is a chain. -/
theorem ofReaches {below : NodeId} (h : arena.IsNameChain id) (hbelow : arena.Reaches id below) :
    arena.IsNameChain below := by
  refine hbelow.induction h fun parent hparent child hchild => ?_
  cases hparent with
  | identifier hdata =>
      rw [children_eq_of_data? hdata] at hchild
      exact absurd hchild List.not_mem_nil
  | qualified hdata hleft hright htext =>
      have hslot : child ∈ [_, _] := mem_slots_of_mem_children hdata hchild
      rcases List.mem_pair.mp hslot with rfl | rfl
      · exact hleft
      · exact .identifier hright htext

/-- A chain has finitely many levels. -/
theorem exists_fitsIn (h : arena.IsNameChain id) : ∃ levels, arena.FitsIn (levels + 1) id := by
  have hidentifier {id : NodeId} {text : String} (levels : Nat)
      (hdata : arena.data? id = some (.identifierName text)) : arena.FitsIn (levels + 1) id := by
    intro child hchild
    rw [children_eq_of_data? hdata] at hchild
    exact absurd hchild List.not_mem_nil
  induction h with
  | identifier hdata => exact ⟨0, hidentifier 0 hdata⟩
  | qualified hdata _ hright _ ih =>
      obtain ⟨levels, hleft⟩ := ih
      refine ⟨levels + 1, fun child hchild => ?_⟩
      have hslot : child ∈ [_, _] := mem_slots_of_mem_children hdata hchild
      rcases List.mem_pair.mp hslot with rfl | rfl
      · exact hleft
      · exact hidentifier levels hright

/-- A chain has no more levels than the arena has nodes. -/
theorem fitsIn_size (h : arena.IsNameChain id) : arena.FitsIn arena.size id := by
  obtain ⟨levels, hfits⟩ := h.exists_fitsIn
  exact hfits.isAcyclicBelow.fitsIn_size

end IsNameChain

end NodeArena

end Portability
