import Portability.Tree.Flatten

/-!
# Arenas of one shape

Two arenas have the same *shape* if they have equally many nodes and the same data at every handle,
so that only comments tell them apart. Whatever a pass does to an arena goes by the shape alone:

* `SameShape.spell_eq`: names are spelled alike,
* `SameShape.setData`, `SameShape.dottedName`, `SameShape.flatten`: relinking, building and
  flattening answer alike and lead to arenas of one shape again,
* `sameShape_prependComment`, `sameShape_copyComments`: comments do not change the shape.
-/

namespace Portability

namespace NodeArena

/-- Two arenas that differ at most in their comments. -/
structure SameShape (a b : NodeArena) : Prop where
  size_eq : a.size = b.size
  data?_eq : ∀ id, a.data? id = b.data? id

namespace SameShape

/-- An arena has its own shape. -/
theorem refl (a : NodeArena) : SameShape a a :=
  ⟨rfl, fun _ => rfl⟩

/-- Having the same shape goes both ways. -/
theorem symm {a b : NodeArena} (h : SameShape a b) : SameShape b a :=
  ⟨h.size_eq.symm, fun id => (h.data?_eq id).symm⟩

/-- Arenas of one shape with a third have the same shape. -/
theorem trans {a b c : NodeArena} (h₁ : SameShape a b) (h₂ : SameShape b c) : SameShape a c :=
  ⟨h₁.size_eq.trans h₂.size_eq, fun id => (h₁.data?_eq id).trans (h₂.data?_eq id)⟩

end SameShape

/-! ### Data after a change -/

/-- A change of one node changes the data of no other. -/
theorem data?_modify (a : NodeArena) (id other : NodeId) (f : Node → Node) :
    (a.modify id f).data? other =
      if other = id then (a.node? id).map fun node => (f node).data else a.data? other := by
  cases id with
  | none => cases other <;> simp [modify, data?, node?]
  | ofIndex index =>
      cases other with
      | none => simp [data?, node?]
      | ofIndex position =>
          simp only [modify, data?, node?, Array.getElem?_modify, NodeId.ofIndex.injEq]
          by_cases h : index = position
          · subst h
            simp [Function.comp_def]
          · rw [if_neg h, if_neg (Ne.symm h)]

@[simp] theorem size_modify (a : NodeArena) (id : NodeId) (f : Node → Node) :
    (a.modify id f).size = a.size := by
  cases id <;> simp [modify, size]

/-- A change that keeps the data of nodes keeps the shape. -/
theorem sameShape_modify (a : NodeArena) (id : NodeId) {f : Node → Node}
    (hf : ∀ node, (f node).data = node.data) : SameShape (a.modify id f) a := by
  refine ⟨size_modify a id f, fun other => ?_⟩
  rw [data?_modify]
  split
  · next h => simp only [h, data?, hf]
  · rfl

/-- A comment does not change the shape. -/
theorem sameShape_prependComment (a : NodeArena) (id : NodeId) (comment : String) :
    SameShape (a.prependComment id comment) a :=
  sameShape_modify a id fun _ => rfl

/-- Copying comments does not change the shape. -/
theorem sameShape_copyComments (a : NodeArena) (source target : NodeId) :
    SameShape (a.copyComments source target) a :=
  sameShape_modify a target fun _ => rfl

/-- The data of a node after the data of some node was replaced. -/
theorem data?_setData (a : NodeArena) (id other : NodeId) (data : NodeData) :
    (a.setData id data).data? other =
      if other = id then (a.data? id).map fun _ => data else a.data? other := by
  rw [setData, data?_modify]
  simp only [data?, Option.map_map, Function.comp_def]

/-- Writing what a node holds already changes nothing. -/
theorem setData_of_data? {a : NodeArena} {id : NodeId} {data : NodeData}
    (h : a.data? id = some data) : a.setData id data = a := by
  cases id with
  | none => rfl
  | ofIndex index =>
      obtain ⟨node, hnode, rfl⟩ := Option.map_eq_some_iff.mp h
      refine congrArg NodeArena.mk (Array.ext_getElem? fun position => ?_)
      rw [Array.getElem?_modify]
      split
      next heq =>
        subst heq
        rw [show a.nodes[index]? = some node from hnode]
        rfl
      next => rfl

/-- The data of a node after another one was added. -/
theorem data?_alloc (a : NodeArena) (id : NodeId) (data : NodeData) :
    (a.alloc data).2.data? id = if id = .ofIndex a.size then some data else a.data? id := by
  cases id with
  | none => simp [data?, node?]
  | ofIndex index =>
      simp only [alloc, data?, node?, size, Array.getElem?_push, NodeId.ofIndex.injEq]
      split <;> rfl

@[simp] theorem size_alloc (a : NodeArena) (data : NodeData) :
    (a.alloc data).2.size = a.size + 1 := by
  simp [alloc, size]

/-! ### Operations on arenas of one shape -/

namespace SameShape

variable {a b : NodeArena}

/-- Setting the same data keeps shapes the same. -/
theorem setData (h : SameShape a b) (id : NodeId) (data : NodeData) :
    SameShape (a.setData id data) (b.setData id data) := by
  refine ⟨?_, fun other => ?_⟩
  · simpa only [NodeArena.setData, size_modify] using h.size_eq
  · rw [data?_setData, data?_setData, h.data?_eq id, h.data?_eq other]

/-- Copying comments keeps shapes the same. -/
theorem copyComments (h : SameShape a b) (source target : NodeId) :
    SameShape (a.copyComments source target) (b.copyComments source target) :=
  (sameShape_copyComments a source target).trans
    (h.trans (sameShape_copyComments b source target).symm)

/-- The same new node has the same handle and keeps shapes the same. -/
theorem alloc (h : SameShape a b) (data : NodeData) :
    (a.alloc data).1 = (b.alloc data).1 ∧ SameShape (a.alloc data).2 (b.alloc data).2 := by
  have hsize := h.size_eq
  refine ⟨?_, ?_, fun id => ?_⟩
  · exact congrArg NodeId.ofIndex hsize
  · rw [size_alloc, size_alloc, hsize]
  · rw [data?_alloc, data?_alloc, hsize, h.data?_eq id]

/-- A dotted name is built the same way in arenas of the same shape. -/
theorem dottedNameFrom (h : SameShape a b) (left : NodeId) (segments : List String) :
    (a.dottedNameFrom left segments).1 = (b.dottedNameFrom left segments).1 ∧
      SameShape (a.dottedNameFrom left segments).2 (b.dottedNameFrom left segments).2 := by
  induction segments generalizing a b left with
  | nil => exact ⟨rfl, h⟩
  | cons segment rest ih =>
      obtain ⟨hright, hnamed⟩ := h.alloc (.identifierName segment)
      simp only [NodeArena.dottedNameFrom, identifier, hright]
      split
      · exact ih hnamed _
      · obtain ⟨hqualified, hgrown⟩ :=
          hnamed.alloc (.qualifiedName left (b.alloc (.identifierName segment)).1)
        rw [hqualified]
        exact ih hgrown _

/-- The name for a path is built the same way in arenas of the same shape. -/
theorem dottedName (h : SameShape a b) (path : String) :
    (a.dottedName path).1 = (b.dottedName path).1 ∧
      SameShape (a.dottedName path).2 (b.dottedName path).2 :=
  h.dottedNameFrom .none (Dotted.segments path)

/-! ### Spelling and flattening -/

/-- What a handle is spelled by does not depend on comments, at any depth. -/
theorem spellTo_eq (h : SameShape a b) (depth : Nat) : a.spellTo depth = b.spellTo depth := by
  induction depth with
  | zero => rfl
  | succ depth ih =>
      funext id
      simp only [spellTo, h.data?_eq id, ih]

/-- What a handle is spelled by does not depend on comments. -/
theorem spell_eq (h : SameShape a b) (id : NodeId) : a.spell id = b.spell id := by
  rw [spell, spell, h.size_eq, h.spellTo_eq]

/-- Whether a node imports from the root does not depend on comments. -/
theorem importsFrom_eq (h : SameShape a b) (root : String) (id : NodeId) :
    a.importsFrom root id = b.importsFrom root id := by
  simp only [importsFrom, h.data?_eq id, h.spell_eq]

/-- Whether a node is dissolved does not depend on comments. -/
theorem isDissolved_eq (h : SameShape a b) (root : String) (id : NodeId) :
    a.isDissolved root id = b.isDissolved root id := by
  simp only [isDissolved, h.data?_eq id, h.spell_eq]

/-- Whether a node is a namespace does not depend on comments. -/
theorem isNamespace_eq (h : SameShape a b) (id : NodeId) :
    a.isNamespace id = b.isNamespace id := by
  simp only [isNamespace, h.data?_eq id]

/-- What namespaces bring to a unit does not depend on comments. -/
theorem dissolveTo_eq (h : SameShape a b) (root : String) (depth : Nat) :
    a.dissolveTo root depth = b.dissolveTo root depth := by
  induction depth with
  | zero => rfl
  | succ depth ih =>
      funext id
      simp only [dissolveTo, h.data?_eq id, h.isNamespace_eq, h.importsFrom_eq, ih]

/-- A unit is flattened the same way in arenas of the same shape. -/
theorem flatten (h : SameShape a b) (unit : NodeId) (root : String) :
    (a.flatten unit root).1 = (b.flatten unit root).1 ∧
      SameShape (a.flatten unit root).2 (b.flatten unit root).2 := by
  unfold NodeArena.flatten
  rw [h.data?_eq unit]
  split
  · next externs usings attributeLists members hunit =>
      simp only [dissolve, h.importsFrom_eq, h.isDissolved_eq, h.size_eq, h.dissolveTo_eq]
      obtain ⟨hid, hgrown⟩ := h.alloc (.compilationUnit _ _ _ _)
      exact ⟨hid, hid ▸ hgrown.copyComments unit _⟩
  · exact ⟨rfl, h⟩

end SameShape

end NodeArena

end Portability
