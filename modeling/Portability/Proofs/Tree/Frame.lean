import Mathlib.Tactic.Set
import Portability.Proofs.Tree.Reach
import Portability.Proofs.Tree.Shape

/-!
# Changes of an arena

Nodes are never removed, so an arena and a later one differ in the nodes that were changed and in
those that were added. `ChangesOnly` names the handles that may have been changed; every operation
on arenas has such a *footprint*:

* `changesOnly_modify`: a node's data or comments are changed there only,
* `changesOnly_alloc`, `changesOnly_dottedName`, `changesOnly_flatten`: nodes are added and none is
  changed.
-/

namespace Portability

namespace NodeArena

/-- Two arenas of which the second has all nodes of the first, changed at most at the handles of a
footprint. -/
structure ChangesOnly (footprint : NodeId → Prop) (arena later : NodeArena) : Prop where
  size_le : arena.size ≤ later.size
  node?_eq : ∀ id, arena.contains id → ¬ footprint id → later.node? id = arena.node? id

/-- A handle names a node if its position is below the size of the arena. -/
theorem contains_ofIndex {arena : NodeArena} {index : Nat} :
    arena.contains (.ofIndex index) ↔ index < arena.size := by
  simp [contains, node?, size]

/-- An arena that is not smaller has all nodes of the other one. -/
theorem contains_of_size_le {arena later : NodeArena} (hsize : arena.size ≤ later.size)
    {id : NodeId} (h : arena.contains id) : later.contains id := by
  cases id with
  | none => exact absurd h (by simp)
  | ofIndex index =>
      rw [contains_ofIndex] at h ⊢
      omega

/-- Whether a handle names a node of an arena depends on its size alone. -/
theorem contains_eq_of_size_eq {arena other : NodeArena} (h : other.size = arena.size)
    (id : NodeId) : other.contains id = arena.contains id := by
  cases id with
  | none => rfl
  | ofIndex index => rw [Bool.eq_iff_iff, contains_ofIndex, contains_ofIndex, h]

namespace ChangesOnly

variable {F G : NodeId → Prop} {arena middle later : NodeArena}

/-- An arena as it is has no changes. -/
theorem refl (F : NodeId → Prop) (arena : NodeArena) : ChangesOnly F arena arena :=
  ⟨Nat.le_refl _, fun _ _ _ => rfl⟩

/-- Changes at the handles of a footprint are at those of any larger one. -/
theorem mono (h : ChangesOnly F arena later) (hFG : ∀ id, arena.contains id → F id → G id) :
    ChangesOnly G arena later :=
  ⟨h.size_le, fun id hid hnot => h.node?_eq id hid fun hF => hnot (hFG id hid hF)⟩

/-- Nodes stay when an arena is changed. -/
theorem contains (h : ChangesOnly F arena later) {id : NodeId} (hid : arena.contains id) :
    later.contains id :=
  contains_of_size_le h.size_le hid

/-- A second change may go beyond the footprint only at nodes that the first one added. -/
theorem trans (h₁ : ChangesOnly F arena middle) (h₂ : ChangesOnly G middle later)
    (hGF : ∀ id, arena.contains id → G id → F id) : ChangesOnly F arena later := by
  refine ⟨Nat.le_trans h₁.size_le h₂.size_le, fun id hid hnot => ?_⟩
  rw [h₂.node?_eq id (h₁.contains hid) fun hG => hnot (hGF id hid hG), h₁.node?_eq id hid hnot]

/-- The data of a node outside the footprint is as before. -/
theorem data?_eq (h : ChangesOnly F arena later) {id : NodeId} (hid : arena.contains id)
    (hnot : ¬ F id) : later.data? id = arena.data? id := by
  rw [data?, data?, h.node?_eq id hid hnot]

/-- Where no node changes, each keeps its data. -/
theorem keeps (h : ChangesOnly (fun _ => False) arena later) {id : NodeId} {data : NodeData}
    (hdata : arena.data? id = some data) : later.data? id = some data :=
  (h.data?_eq (contains_iff.mpr ⟨data, hdata⟩) not_false).trans hdata

end ChangesOnly

/-! ### Operations -/

/-- A change of one node keeps all others. -/
theorem node?_modify (arena : NodeArena) (id other : NodeId) (f : Node → Node) :
    (arena.modify id f).node? other =
      if other = id then (arena.node? id).map f else arena.node? other := by
  cases id with
  | none => cases other <;> simp [modify, node?]
  | ofIndex index =>
      cases other with
      | none => simp [node?]
      | ofIndex position =>
          simp only [modify, node?, Array.getElem?_modify, NodeId.ofIndex.injEq]
          by_cases h : index = position
          · simp [h]
          · rw [if_neg h, if_neg (Ne.symm h)]

/-- Modifying a node changes it alone. -/
theorem changesOnly_modify (arena : NodeArena) (id : NodeId) (f : Node → Node) :
    ChangesOnly (· = id) arena (arena.modify id f) := by
  refine ⟨Nat.le_of_eq (size_modify arena id f).symm, fun other _ hne => ?_⟩
  rw [node?_modify, if_neg hne]

/-- Setting the data of a node changes it alone. -/
theorem changesOnly_setData (arena : NodeArena) (id : NodeId) (data : NodeData) :
    ChangesOnly (· = id) arena (arena.setData id data) :=
  changesOnly_modify arena id _

/-- A comment on a node changes it alone. -/
theorem changesOnly_prependComment (arena : NodeArena) (id : NodeId) (comment : String) :
    ChangesOnly (· = id) arena (arena.prependComment id comment) :=
  changesOnly_modify arena id _

/-- Copying comments changes their target alone. -/
theorem changesOnly_copyComments (arena : NodeArena) (source target : NodeId) :
    ChangesOnly (· = target) arena (arena.copyComments source target) :=
  changesOnly_modify arena target _

/-- A node that is given the comments of another one has them. -/
theorem comments?_copyComments {arena : NodeArena} {source target : NodeId}
    (hsource : arena.contains source) (htarget : arena.contains target) :
    (arena.copyComments source target).comments? target = arena.comments? source := by
  obtain ⟨node, hnode⟩ := Option.isSome_iff_exists.mp hsource
  obtain ⟨other, hother⟩ := Option.isSome_iff_exists.mp htarget
  rw [copyComments, comments?, comments?, node?_modify, if_pos rfl, hnode, hother]
  rfl

/-- Added nodes are not those that were there. -/
theorem changesOnly_alloc (F : NodeId → Prop) (arena : NodeArena) (data : NodeData) :
    ChangesOnly F arena (arena.alloc data).2 := by
  refine ⟨?_, fun id hid _ => ?_⟩
  · rw [size_alloc]
    omega
  · cases id with
    | none => exact absurd hid (by simp)
    | ofIndex index =>
        have hlt := contains_ofIndex.mp hid
        simp only [alloc, node?, size, Array.getElem?_push] at hlt ⊢
        rw [if_neg (by omega)]

/-- A node that is added is there. -/
theorem contains_alloc (arena : NodeArena) (data : NodeData) :
    (arena.alloc data).2.contains (arena.alloc data).1 := by
  rw [alloc, contains_ofIndex, size, Array.size_push]
  exact Nat.lt_succ_self _

/-- A node that is added was not there before. -/
theorem not_contains_alloc (arena : NodeArena) (data : NodeData) :
    ¬ arena.contains (arena.alloc data).1 := by
  rw [alloc, contains_ofIndex]
  simp [size]

/-- Building a dotted name changes no node that was there. -/
theorem changesOnly_dottedNameFrom (F : NodeId → Prop) (arena : NodeArena) (left : NodeId)
    (segments : List String) :
    ChangesOnly F arena (arena.dottedNameFrom left segments).2 := by
  induction segments generalizing arena left with
  | nil => exact .refl F arena
  | cons segment rest ih =>
      have hright := changesOnly_alloc F arena (.identifierName segment)
      simp only [dottedNameFrom, identifier]
      split
      · exact hright.trans (ih _ _) fun _ _ => id
      · have hqualified := changesOnly_alloc F (arena.alloc (.identifierName segment)).2
          (.qualifiedName left (arena.alloc (.identifierName segment)).1)
        exact (hright.trans hqualified fun _ _ => id).trans (ih _ _) fun _ _ => id

/-- Building the name for a path changes no node that was there. -/
theorem changesOnly_dottedName (F : NodeId → Prop) (arena : NodeArena) (path : String) :
    ChangesOnly F arena (arena.dottedName path).2 :=
  changesOnly_dottedNameFrom F arena .none _

/-- What dissolving the namespaces below `root` leaves of the imports and members of a unit. -/
def dissolveUnit (arena : NodeArena) (root : String) (externs usings members : List NodeId) :
    Dissolved :=
  { externs, usings := usings.filter fun item => !arena.importsFrom root item } ++
    Dissolved.concat (members.map fun item =>
      if arena.isDissolved root item then arena.dissolve root item else { members := [item] })

/-- The data of a flattened unit. -/
def flatUnit (arena : NodeArena) (root : String)
    (externs usings attributeLists members : List NodeId) : NodeData :=
  let parts := arena.dissolveUnit root externs usings members
  .compilationUnit parts.externs parts.usings attributeLists parts.members

/-- Flattening a unit adds the flattened one, with the comments of the old. -/
theorem flatten_eq {arena : NodeArena} {unit : NodeId}
    {externs usings attributeLists members : List NodeId}
    (h : arena.data? unit = some (.compilationUnit externs usings attributeLists members))
    (root : String) :
    arena.flatten unit root =
      let added := arena.alloc (arena.flatUnit root externs usings attributeLists members)
      (added.1, added.2.copyComments unit added.1) := by
  rw [flatten, h]
  rfl

/-- The data of a node after a unit was flattened. -/
theorem data?_flatten {arena : NodeArena} {unit : NodeId}
    {externs usings attributeLists members : List NodeId}
    (h : arena.data? unit = some (.compilationUnit externs usings attributeLists members))
    (root : String) (id : NodeId) :
    (arena.flatten unit root).2.data? id =
      if id = (arena.flatten unit root).1 then
        some (arena.flatUnit root externs usings attributeLists members)
      else arena.data? id := by
  rw [flatten_eq h]
  exact ((sameShape_copyComments _ _ _).data?_eq id).trans (data?_alloc arena id _)

/-- The new unit takes a handle that named no node. -/
theorem data?_fst_flatten {arena : NodeArena} {unit : NodeId}
    {externs usings attributeLists members : List NodeId}
    (h : arena.data? unit = some (.compilationUnit externs usings attributeLists members))
    (root : String) : arena.data? (arena.flatten unit root).1 = none := by
  rw [flatten_eq h]
  exact data?_eq_none_iff.mpr (Bool.eq_false_iff.mpr (not_contains_alloc arena
    (arena.flatUnit root externs usings attributeLists members)))

/-- Flattening changes no node that was there. -/
theorem changesOnly_flatten (F : NodeId → Prop) (arena : NodeArena) (unit : NodeId)
    (root : String) : ChangesOnly F arena (arena.flatten unit root).2 := by
  cases hunit : arena.data? unit with
  | none =>
      rw [flatten, hunit]
      exact .refl F arena
  | some data =>
      cases data
      case compilationUnit externs usings attributeLists members =>
        rw [flatten_eq hunit]
        set flat := arena.flatUnit root externs usings attributeLists members
        have hadded := changesOnly_alloc F arena flat
        have hcopied := changesOnly_copyComments (arena.alloc flat).2 unit (arena.alloc flat).1
        exact hadded.trans hcopied fun id hid heq =>
          absurd (heq ▸ hid) (not_contains_alloc arena flat)
      all_goals
        rw [flatten, hunit]
        exact .refl F arena

section

variable {arena : NodeArena} {unit : NodeId} {externs usings attributeLists members : List NodeId}
  (hunit : arena.data? unit = some (.compilationUnit externs usings attributeLists members))
  (root : String)

include hunit

/-- The flattened unit is a new node. -/
theorem fst_flatten : (arena.flatten unit root).1 = .ofIndex arena.size := by
  rw [flatten_eq hunit]
  rfl

/-- Flattening adds the new unit and nothing else. -/
theorem size_flatten : (arena.flatten unit root).2.size = arena.size + 1 := by
  rw [flatten_eq hunit]
  exact (size_modify _ _ _).trans (size_alloc _ _)

/-- A flattened unit has the comments of the old one. -/
theorem comments?_flatten :
    (arena.flatten unit root).2.comments? (arena.flatten unit root).1 = arena.comments? unit := by
  have hcontains : arena.contains unit := contains_iff.mpr ⟨_, hunit⟩
  rw [flatten_eq hunit]
  set flat := arena.flatUnit root externs usings attributeLists members
  have hadded := changesOnly_alloc (fun _ => False) arena flat
  refine (comments?_copyComments (hadded.contains hcontains) (contains_alloc arena flat)).trans ?_
  rw [comments?, comments?, hadded.node?_eq unit hcontains not_false]

end

/-- What answers flattening is the unit itself or new. -/
theorem flatten_fst_eq_or (arena : NodeArena) (unit : NodeId) (root : String) :
    (arena.flatten unit root).1 = unit ∨ ¬ arena.contains (arena.flatten unit root).1 := by
  cases hunit : arena.data? unit with
  | none => exact .inl (by rw [flatten, hunit])
  | some data =>
      cases data
      case compilationUnit externs usings attributeLists members =>
        rw [flatten_eq hunit]
        set flat := arena.flatUnit root externs usings attributeLists members
        exact .inr (not_contains_alloc arena flat)
      all_goals exact .inl (by rw [flatten, hunit])

end NodeArena

end Portability
