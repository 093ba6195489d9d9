import Mathlib.Data.List.Nodup
import Mathlib.Data.List.Pairwise
import Mathlib.Data.List.Perm.Subperm
import Mathlib.Logic.Relation
import Portability.Tree.Arena

/-!
# What is below a node

A node *reaches* itself and whatever its children reach. An arena is *closed* if every child of
every node is a node of the arena, and the nodes that a root reaches form a *tree* if no handle
fills two of their slots and the root fills none.

* `IsTree.not_reaches_of_mem_children`: nothing below a node of a tree leads back to it.
* `IsTree.pairwise_apart_slots`: what is below different slots of a node of a tree is disjoint.
* `IsAcyclicBelow.fitsIn_size`: without cycles, as in a tree, there are at most as many levels as
  the arena has nodes.
-/

namespace Portability

namespace NodeArena

/-- The children of a node. A handle that names no node has none. -/
def children (arena : NodeArena) (id : NodeId) : List NodeId :=
  match arena.data? id with
  | some data => data.children
  | none => []

/-- Whether a handle is the other one or is found below it. -/
def Reaches (arena : NodeArena) : NodeId → NodeId → Prop :=
  Relation.ReflTransGen fun parent child => child ∈ arena.children parent

/-- Whether every child of every node is a node of the arena. -/
def IsClosed (arena : NodeArena) : Prop :=
  ∀ id, ∀ child ∈ arena.children id, arena.contains child

/-- Whether what a root reaches is a tree: no handle fills two slots, and the root fills none. -/
structure IsTree (arena : NodeArena) (root : NodeId) : Prop where
  root_notMem_children : ∀ id, arena.Reaches root id → root ∉ arena.children id
  nodup_children : ∀ id, arena.Reaches root id → (arena.children id).Nodup
  parent_unique : ∀ id other, arena.Reaches root id → arena.Reaches root other →
    ∀ child ∈ arena.children id, child ∈ arena.children other → id = other

variable {arena : NodeArena}

/-! ### Children -/

/-- The children of a node are those in its data. -/
theorem children_eq_of_data? {id : NodeId} {data : NodeData} (h : arena.data? id = some data) :
    arena.children id = data.children := by
  rw [children, h]

/-- What is no node has no children. -/
theorem children_eq_nil_of_data? {id : NodeId} (h : arena.data? id = none) :
    arena.children id = [] := by
  rw [children, h]

@[simp] theorem data?_none : arena.data? .none = none := rfl

/-- A handle names a node if it has data. -/
theorem contains_iff {id : NodeId} : arena.contains id ↔ ∃ data, arena.data? id = some data := by
  simp [contains, data?, Option.isSome_iff_exists]

/-- A handle names no node if it has no data. -/
theorem data?_eq_none_iff {id : NodeId} : arena.data? id = none ↔ arena.contains id = false := by
  simp [contains, data?]

@[simp] theorem contains_none : arena.contains .none = false := rfl

/-- A handle that names a node is not that of no node. -/
theorem isSome_of_contains {id : NodeId} (h : arena.contains id) : id.isSome := by
  cases id with
  | none => exact absurd h (by simp)
  | ofIndex index => rfl

/-- A slot holds no node or a child. -/
theorem eq_none_or_mem_children {id slot : NodeId} {data : NodeData}
    (h : arena.data? id = some data) (hslot : slot ∈ data.slots) :
    slot = .none ∨ slot ∈ arena.children id := by
  cases slot with
  | none => exact .inl rfl
  | ofIndex index =>
      rw [children_eq_of_data? h]
      exact .inr (List.mem_filter.mpr ⟨hslot, rfl⟩)

/-- A slot that holds a node holds a child. -/
theorem mem_children_of_data? {id slot : NodeId} {data other : NodeData}
    (hdata : arena.data? id = some data) (hslot : slot ∈ data.slots)
    (hother : arena.data? slot = some other) : slot ∈ arena.children id := by
  rcases eq_none_or_mem_children hdata hslot with rfl | hchild
  · cases hother
  · exact hchild

/-- Children are in the slots of their parent. -/
theorem mem_slots_of_mem_children {id child : NodeId} {data : NodeData}
    (h : arena.data? id = some data) (hchild : child ∈ arena.children id) :
    child ∈ data.slots := by
  rw [children_eq_of_data? h] at hchild
  exact (List.mem_filter.mp hchild).1

/-- What has children is a node. -/
theorem contains_of_mem_children {id child : NodeId} (h : child ∈ arena.children id) :
    arena.contains id := by
  cases hdata : arena.data? id with
  | none => simp [children_eq_nil_of_data? hdata] at h
  | some data => exact contains_iff.mpr ⟨data, hdata⟩

/-- The handles of an arena's nodes are not more than its nodes. -/
theorem length_le_size {ids : List NodeId} (hnodup : ids.Nodup)
    (h : ∀ id ∈ ids, arena.contains id) : ids.length ≤ arena.size := by
  have hsubset : ids ⊆ (List.range arena.size).map NodeId.ofIndex := by
    intro id hid
    cases id with
    | none => exact absurd (h _ hid) (by simp)
    | ofIndex index =>
        have : index < arena.nodes.size := by simpa [contains, node?] using h _ hid
        simpa [size] using this
  simpa using (List.subperm_of_subset hnodup hsubset).length_le

/-! ### Reaching -/

/-- A handle reaches itself. -/
theorem Reaches.refl {id : NodeId} : arena.Reaches id id :=
  Relation.ReflTransGen.refl

/-- What is below something below a handle is below the handle. -/
theorem Reaches.trans {id middle below : NodeId} (h : arena.Reaches id middle)
    (hbelow : arena.Reaches middle below) : arena.Reaches id below :=
  Relation.ReflTransGen.trans h hbelow

/-- A handle reaches its children. -/
theorem Reaches.child {id child : NodeId} (h : child ∈ arena.children id) :
    arena.Reaches id child :=
  Relation.ReflTransGen.single h

/-- What is reached leads on to its children. -/
theorem Reaches.tail {id parent child : NodeId} (h : arena.Reaches id parent)
    (hchild : child ∈ arena.children parent) : arena.Reaches id child :=
  Relation.ReflTransGen.tail h hchild

/-- What a child reaches is below its parent. -/
theorem Reaches.ofChild {id child below : NodeId} (h : child ∈ arena.children id)
    (hbelow : arena.Reaches child below) : arena.Reaches id below :=
  Relation.ReflTransGen.head h hbelow

/-- A handle that names no node reaches only itself. -/
theorem Reaches.eq_of_data?_eq_none {id below : NodeId} (h : arena.data? id = none)
    (hreach : arena.Reaches id below) : below = id := by
  induction hreach with
  | refl => rfl
  | tail _ hchild ih =>
      rw [ih, children_eq_nil_of_data? h] at hchild
      exact absurd hchild List.not_mem_nil

/-- What is below a node is the node itself or is below one of its slots. -/
theorem Reaches.eq_or_slot {id below : NodeId} {data : NodeData} (h : arena.data? id = some data)
    (hreach : arena.Reaches id below) :
    below = id ∨ ∃ slot ∈ data.slots, arena.Reaches slot below := by
  rcases Relation.ReflTransGen.cases_head hreach with heq | ⟨child, hchild, hbelow⟩
  · exact .inl heq.symm
  · exact .inr ⟨child, mem_slots_of_mem_children h hchild, hbelow⟩

/-- What is below a slot of a node is below the node. -/
theorem Reaches.ofSlot {id slot below : NodeId} {data : NodeData} (h : arena.data? id = some data)
    (hslot : slot ∈ data.slots) (hsome : below.isSome) (hbelow : arena.Reaches slot below) :
    arena.Reaches id below := by
  rcases eq_none_or_mem_children h hslot with rfl | hchild
  · rw [hbelow.eq_of_data?_eq_none data?_none] at hsome
    exact absurd hsome (by decide)
  · exact .ofChild hchild hbelow

/-- Whatever holds of a handle and passes on to children holds of all that is below. -/
theorem Reaches.induction {P : NodeId → Prop} {id below : NodeId}
    (hreach : arena.Reaches id below) (hid : P id)
    (hchild : ∀ parent, P parent → ∀ child ∈ arena.children parent, P child) : P below := by
  induction hreach with
  | refl => exact hid
  | tail _ hmem ih => exact hchild _ ih _ hmem

/-- Below a node of a closed arena there are only nodes of the arena. -/
theorem IsClosed.contains_of_reaches (h : arena.IsClosed) {id below : NodeId}
    (hid : arena.contains id) (hreach : arena.Reaches id below) : arena.contains below :=
  hreach.induction hid fun parent _ child hmem => h parent child hmem

/-! ### Trees -/

/-- Whether nothing is below both of two handles. -/
def Apart (arena : NodeArena) (first second : NodeId) : Prop :=
  ∀ id, arena.contains id → arena.Reaches first id → ¬ arena.Reaches second id

/-- Nothing is below the handle of no node. -/
theorem apart_none_left (id : NodeId) : arena.Apart .none id := by
  intro below hcontains hreach
  obtain rfl := hreach.eq_of_data?_eq_none data?_none
  exact absurd hcontains (by simp)

/-- Two handles are apart either way. -/
theorem Apart.symm {first second : NodeId} (h : arena.Apart first second) :
    arena.Apart second first :=
  fun id hcontains hsecond hfirst => h id hcontains hfirst hsecond

namespace IsTree

variable {root : NodeId} (h : arena.IsTree root)

include h

/-- Nothing below a node leads back to it. -/
theorem not_reaches_of_mem_children {id child : NodeId} (hid : arena.Reaches root id)
    (hchild : child ∈ arena.children id) : ¬ arena.Reaches child id := by
  induction hid generalizing child with
  | refl =>
      intro hback
      rcases Relation.ReflTransGen.cases_tail hback with heq | ⟨parent, hparent, hroot⟩
      · exact h.root_notMem_children root .refl (heq ▸ hchild)
      · exact h.root_notMem_children parent (.ofChild hchild hparent) hroot
  | @tail parent id hparent hid ih =>
      intro hback
      have hreach : arena.Reaches root id := hparent.tail hid
      rcases Relation.ReflTransGen.cases_tail hback with heq | ⟨other, hother, hmem⟩
      · obtain rfl : parent = id :=
          h.parent_unique parent id hparent hreach id hid (heq ▸ hchild)
        exact ih hid .refl
      · have hbelow := hreach.trans (Reaches.ofChild hchild hother)
        obtain rfl : parent = other := h.parent_unique parent other hparent hbelow id hid hmem
        exact ih hid (.ofChild hchild hother)

/-- Of two nodes above a third one, one is above the other. -/
theorem reaches_total {first second id : NodeId} (hfirst : arena.Reaches root first)
    (hsecond : arena.Reaches root second) (h₁ : arena.Reaches first id)
    (h₂ : arena.Reaches second id) :
    arena.Reaches first second ∨ arena.Reaches second first := by
  induction h₁ with
  | refl => exact .inr h₂
  | @tail parent id hparent hid ih =>
      rcases Relation.ReflTransGen.cases_tail h₂ with heq | ⟨other, hother, hmem⟩
      · exact .inl (heq ▸ hparent.tail hid)
      · obtain rfl : parent = other :=
          h.parent_unique parent other (hfirst.trans hparent) (hsecond.trans hother) id hid hmem
        exact ih hother

/-- What is below one child of a node is not below another. -/
theorem apart_of_ne {id first second : NodeId} (hid : arena.Reaches root id)
    (hfirst : first ∈ arena.children id) (hsecond : second ∈ arena.children id)
    (hne : first ≠ second) : arena.Apart first second := by
  -- a handle above another child would be above that child's parent, which is its own
  have hnot {above child : NodeId} (habove : above ∈ arena.children id)
      (hchild : child ∈ arena.children id) (hne : above ≠ child) :
      ¬ arena.Reaches above child := by
    intro hreach
    rcases Relation.ReflTransGen.cases_tail hreach with heq | ⟨parent, hparent, hmem⟩
    · exact hne heq.symm
    · obtain rfl : id = parent := h.parent_unique id parent hid
        (hid.trans (Reaches.ofChild habove hparent)) child hchild hmem
      exact h.not_reaches_of_mem_children hid habove hparent
  intro below _ h₁ h₂
  rcases h.reaches_total (hid.tail hfirst) (hid.tail hsecond) h₁ h₂ with hreach | hreach
  · exact hnot hfirst hsecond hne hreach
  · exact hnot hsecond hfirst hne.symm hreach

/-- What is below different slots of a node is disjoint. -/
theorem pairwise_apart_slots {id : NodeId} {data : NodeData} (hid : arena.Reaches root id)
    (hdata : arena.data? id = some data) : data.slots.Pairwise arena.Apart := by
  have hchildren : data.children.Nodup := children_eq_of_data? hdata ▸ h.nodup_children id hid
  have hpairwise := List.pairwise_filter.mp hchildren
  refine hpairwise.imp_of_mem fun {first second} hfirst hsecond hne => ?_
  rcases eq_none_or_mem_children hdata hfirst with rfl | hfirst
  · exact apart_none_left second
  rcases eq_none_or_mem_children hdata hsecond with rfl | hsecond
  · exact (apart_none_left first).symm
  have hsome {child : NodeId} (hchild : child ∈ arena.children id) : child.isSome := by
    rw [children_eq_of_data? hdata] at hchild
    exact (List.mem_filter.mp hchild).2
  exact h.apart_of_ne hid hfirst hsecond (hne (hsome hfirst) (hsome hsecond))

/-- A node is not below its slots. -/
theorem not_reaches_of_mem_slots {id slot : NodeId} {data : NodeData}
    (hid : arena.Reaches root id) (hdata : arena.data? id = some data)
    (hslot : slot ∈ data.slots) : ¬ arena.Reaches slot id := by
  rcases eq_none_or_mem_children hdata hslot with rfl | hchild
  · intro hreach
    rw [hreach.eq_of_data?_eq_none data?_none, data?_none] at hdata
    exact absurd hdata (by simp)
  · exact h.not_reaches_of_mem_children hid hchild

end IsTree

/-! ### Levels -/

/-- Whether there are nodes on at most the given number of levels below and including a handle. -/
def FitsIn (arena : NodeArena) : Nat → NodeId → Prop
  | 0, id => arena.contains id = false
  | levels + 1, id => ∀ child ∈ arena.children id, arena.FitsIn levels child

/-- The handle of no node fits in any number of levels. -/
theorem fitsIn_none (levels : Nat) : arena.FitsIn levels .none := by
  cases levels with
  | zero => rfl
  | succ levels => exact fun child hchild => absurd hchild List.not_mem_nil

/-- The slots of a node fit in one level less. -/
theorem FitsIn.slot {levels : Nat} {id slot : NodeId} {data : NodeData}
    (h : arena.FitsIn (levels + 1) id) (hdata : arena.data? id = some data)
    (hslot : slot ∈ data.slots) : arena.FitsIn levels slot := by
  rcases eq_none_or_mem_children hdata hslot with rfl | hchild
  · exact fitsIn_none levels
  · exact h slot hchild

/-- What fits in some levels fits in one more. -/
theorem FitsIn.succ {levels : Nat} {id : NodeId} (h : arena.FitsIn levels id) :
    arena.FitsIn (levels + 1) id := by
  induction levels generalizing id with
  | zero =>
      intro child hchild
      rw [children_eq_nil_of_data? (data?_eq_none_iff.mpr h)] at hchild
      exact absurd hchild List.not_mem_nil
  | succ levels ih => exact fun child hchild => ih (h child hchild)

/-- What is below a handle fits in the levels that the handle does. -/
theorem FitsIn.ofReaches {levels : Nat} {id below : NodeId} (h : arena.FitsIn levels id)
    (hreach : arena.Reaches id below) : arena.FitsIn levels below := by
  refine hreach.induction h fun parent hparent child hchild => ?_
  exact FitsIn.succ hparent child hchild

/-- Whether nothing below a handle leads back to itself. -/
def IsAcyclicBelow (arena : NodeArena) (id : NodeId) : Prop :=
  ∀ below, arena.Reaches id below → ∀ child ∈ arena.children below, ¬ arena.Reaches child below

/-- What has finitely many levels is acyclic. -/
theorem FitsIn.isAcyclicBelow {levels : Nat} {id : NodeId} (h : arena.FitsIn levels id) :
    arena.IsAcyclicBelow id := by
  intro below hbelow
  replace h := h.ofReaches hbelow
  clear hbelow
  induction levels generalizing below with
  | zero =>
      intro child hchild
      rw [children_eq_nil_of_data? (data?_eq_none_iff.mpr h)] at hchild
      exact absurd hchild List.not_mem_nil
  | succ levels ih =>
      -- one that leads back would have as few levels as its child
      intro child hchild hback
      exact ih below ((h child hchild).ofReaches hback) child hchild hback

/-- Nothing below the root of a tree leads back to itself. -/
theorem IsTree.isAcyclicBelow {root : NodeId} (h : arena.IsTree root) {id : NodeId}
    (hid : arena.Reaches root id) : arena.IsAcyclicBelow id :=
  fun _ hbelow _ hchild => h.not_reaches_of_mem_children (hid.trans hbelow) hchild

/-- A node fits in the levels that the nodes above it leave. -/
theorem IsAcyclicBelow.fitsIn_of_above {id : NodeId} (h : arena.IsAcyclicBelow id) (levels : Nat)
    {above : List NodeId} (hnodup : above.Nodup)
    (habove : ∀ other ∈ above, arena.contains other ∧ arena.Reaches other id ∧ other ≠ id)
    (hsize : arena.size ≤ levels + above.length) : arena.FitsIn levels id := by
  have hself : id ∉ above := fun hmem => (habove id hmem).2.2 rfl
  induction levels generalizing id above with
  | zero =>
      refine Bool.eq_false_iff.mpr fun hcontains => ?_
      have hlength := length_le_size (List.nodup_cons.mpr ⟨hself, hnodup⟩)
        (List.forall_mem_cons.mpr ⟨hcontains, fun other hmem => (habove other hmem).1⟩)
      simp only [List.length_cons] at hlength
      omega
  | succ levels ih =>
      intro child hchild
      have hback := h id .refl child hchild
      have hnext : ∀ other ∈ id :: above,
          arena.contains other ∧ arena.Reaches other child ∧ other ≠ child := by
        intro other hmem
        rcases List.mem_cons.mp hmem with rfl | hmem
        · exact ⟨contains_of_mem_children hchild, .child hchild, fun heq => hback (heq ▸ .refl)⟩
        · obtain ⟨hcontains, hreach, -⟩ := habove other hmem
          exact ⟨hcontains, hreach.tail hchild, fun heq => hback (heq ▸ hreach)⟩
      refine ih (fun below hbelow => h below (.ofChild hchild hbelow))
        (List.nodup_cons.mpr ⟨hself, hnodup⟩) hnext ?_ fun hmem => (hnext child hmem).2.2 rfl
      simp only [List.length_cons]
      omega

/-- Without cycles there are at most as many levels as the arena has nodes. -/
theorem IsAcyclicBelow.fitsIn_size {id : NodeId} (h : arena.IsAcyclicBelow id) :
    arena.FitsIn arena.size id :=
  h.fitsIn_of_above arena.size List.nodup_nil (fun _ hmem => absurd hmem List.not_mem_nil)
    (Nat.le_add_right _ _)

/-! ### Checking an arena -/

/-- The nodes of an arena are those at the positions below its size. -/
theorem exists_index_of_data? {id : NodeId} {data : NodeData} (h : arena.data? id = some data) :
    ∃ index < arena.size, id = .ofIndex index := by
  cases id with
  | none => exact absurd h (by simp)
  | ofIndex index =>
      have hcontains := contains_iff.mpr ⟨data, h⟩
      exact ⟨index, by simpa [contains, node?, size] using hcontains, rfl⟩

/-- The children of all nodes, one node after the other. -/
def allChildren (arena : NodeArena) : List NodeId :=
  (List.range arena.size).flatMap fun index => arena.children (.ofIndex index)

/-- A child is among the children of all nodes. -/
theorem mem_allChildren {id child : NodeId} (h : child ∈ arena.children id) :
    child ∈ arena.allChildren := by
  obtain ⟨data, hdata⟩ := contains_iff.mp (contains_of_mem_children h)
  obtain ⟨index, hindex, rfl⟩ := exists_index_of_data? hdata
  exact List.mem_flatMap.mpr ⟨index, List.mem_range.mpr hindex, h⟩

/-- An arena is closed if every child is one of its nodes. -/
theorem isClosed_of_allChildren (h : ∀ child ∈ arena.allChildren, arena.contains child) :
    arena.IsClosed :=
  fun _ child hchild => h child (mem_allChildren hchild)

/-- What is no child is reached from itself alone. -/
theorem not_reaches_of_allChildren {root id : NodeId} (h : id ∉ arena.allChildren)
    (hne : id ≠ root) : ¬ arena.Reaches root id := by
  intro hreach
  rcases Relation.ReflTransGen.cases_tail hreach with heq | ⟨parent, -, hchild⟩
  · exact hne heq
  · exact h (mem_allChildren hchild)

/-- What a root reaches is a tree if the arena has no child twice and the root is not one. -/
theorem isTree_of_allChildren {root : NodeId} (hnodup : arena.allChildren.Nodup)
    (hroot : root ∉ arena.allChildren) : arena.IsTree root := by
  have hmem (id child : NodeId) (hchild : child ∈ arena.children id) :
      ∃ index < arena.size, id = .ofIndex index ∧ child ∈ arena.allChildren := by
    obtain ⟨data, hdata⟩ := contains_iff.mp (contains_of_mem_children hchild)
    obtain ⟨index, hindex, rfl⟩ := exists_index_of_data? hdata
    exact ⟨index, hindex, rfl, List.mem_flatMap.mpr ⟨index, List.mem_range.mpr hindex, hchild⟩⟩
  obtain ⟨hnodups, hdisjoint⟩ := List.nodup_flatMap.mp hnodup
  refine ⟨fun id _ hchild => ?_, fun id _ => ?_, fun id other _ _ child hfirst hsecond => ?_⟩
  · obtain ⟨_, -, -, hchild⟩ := hmem id root hchild
    exact hroot hchild
  · cases hdata : arena.data? id with
    | none =>
        rw [children_eq_nil_of_data? hdata]
        exact List.nodup_nil
    | some data =>
        obtain ⟨index, hindex, rfl⟩ := exists_index_of_data? hdata
        exact hnodups index (List.mem_range.mpr hindex)
  · obtain ⟨index, hindex, rfl, -⟩ := hmem id child hfirst
    obtain ⟨position, hposition, rfl, -⟩ := hmem other child hsecond
    by_contra hne
    have : Std.Symm (Function.onFun List.Disjoint fun index => arena.children (.ofIndex index)) :=
      ⟨fun _ _ hab _ hfirst hsecond => hab hsecond hfirst⟩
    exact hdisjoint.forall (List.mem_range.mpr hindex) (List.mem_range.mpr hposition)
      (fun heq => hne (congrArg _ heq)) hfirst hsecond

end NodeArena

end Portability
