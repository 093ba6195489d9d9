import Portability.Proofs.Symbol.Naming
import Portability.Proofs.Text.Segments

/-!
# The tree of namespaces

Namespaces are added one at a time: below a parent that exists (`addNamespace`), or for each segment
of a path that is missing (`addNamespacePath`). An arena whose namespaces were all added so
(`IsBuilt`) holds a tree below the global namespace, `IsNamespaceTree`: the parents, the lists of
children and the names agree.

One step either finds the namespace or adds it as the newest one, `withNamespace`. What a step
preserves (`IsNamespaceTree.adds_addNamespace`) holds after any number of them
(`IsBuilt.isNamespaceTree`), and in a tree

* `namespaceByPath?_namespacePath`: a path finds the namespace that it is the path of,
* `namespacePath_addNamespacePath`: the path of a namespace added for a path is that path,
* `firstCyclicNamespace?_eq_none`: no parents go round in circles.
-/

namespace Portability

namespace SymbolArena

variable {arena : SymbolArena} {id parent : NamespaceId} {name : String}

/-! ### Adding one namespace -/

/-- The handle of the namespace that is added next. -/
def nextNamespace (arena : SymbolArena) : NamespaceId :=
  ⟨arena.namespaces.size⟩

/-- The arena with a new namespace, which is the last child of its parent. -/
def withNamespace (arena : SymbolArena) (parent : NamespaceId) (name : String) : SymbolArena :=
  let grown := arena.namespaces.push { name := name, parent := some parent }
  { arena with
    namespaces := grown.modify parent.index fun ns =>
      { ns with children := ns.children ++ [arena.nextNamespace] } }

/-- A namespace that is asked for is found, or it is added. -/
theorem addNamespace_eq (arena : SymbolArena) (parent : NamespaceId) (name : String) :
    arena.addNamespace parent name =
      match arena.namespaceChild? parent name with
      | some child => (child, arena)
      | none => (arena.nextNamespace, arena.withNamespace parent name) :=
  rfl

/-- The next handle is none of those that are in use. -/
theorem ne_nextNamespace (hid : (arena.namespace? id).isSome) : id ≠ arena.nextNamespace := by
  rintro rfl
  exact absurd (isSome_namespace?.mp hid) (Nat.lt_irrefl _)

/-- A new namespace is found by the next handle; but for the list of its parent, the others are as
they were. -/
theorem namespace?_withNamespace (hparent : (arena.namespace? parent).isSome) (id : NamespaceId) :
    (arena.withNamespace parent name).namespace? id =
      if id = arena.nextNamespace then some { name := name, parent := some parent }
      else if id = parent then (arena.namespace? id).map fun ns =>
        { ns with children := ns.children ++ [arena.nextNamespace] }
      else arena.namespace? id := by
  have hne : parent.index ≠ arena.namespaces.size :=
    Nat.ne_of_lt (isSome_namespace?.mp hparent)
  obtain ⟨index⟩ := id
  obtain ⟨above⟩ := parent
  simp only [namespace?, withNamespace, Array.getElem?_modify, Array.getElem?_push, nextNamespace,
    NamespaceId.mk.injEq, eq_comm (a := index) (b := above)]
  by_cases hnext : index = arena.namespaces.size
  · rw [if_pos hnext, if_pos hnext, if_neg fun habove => hne (habove.trans hnext)]
  · rw [if_neg hnext, if_neg hnext]

/-- A new namespace adds itself to those that exist. -/
theorem isSome_namespace?_withNamespace (hparent : (arena.namespace? parent).isSome) :
    ((arena.withNamespace parent name).namespace? id).isSome ↔
      id = arena.nextNamespace ∨ (arena.namespace? id).isSome := by
  rw [namespace?_withNamespace hparent]
  by_cases hnext : id = arena.nextNamespace
  · simp [hnext]
  · rw [if_neg hnext]
    split <;> simp [hnext]

/-- A new namespace has the parent that it was added below. -/
theorem parent?_withNamespace (hparent : (arena.namespace? parent).isSome) (id : NamespaceId) :
    (arena.withNamespace parent name).parent? id =
      if id = arena.nextNamespace then some parent else arena.parent? id := by
  rw [parent?, namespace?_withNamespace hparent]
  split
  · rfl
  · split
    · rw [parent?, Option.bind_map]
      rfl
    · rfl

/-- A new namespace has the name that it was added with. -/
theorem properName?_withNamespace (hparent : (arena.namespace? parent).isSome) (hname : name ≠ "")
    (id : NamespaceId) :
    (arena.withNamespace parent name).properName? id =
      if id = arena.nextNamespace then some name else arena.properName? id := by
  rw [properName?, namespace?_withNamespace hparent]
  split
  · simp [hname]
  · split
    · rw [properName?, Option.map_map]
      rfl
    · rfl

/-- A new namespace is the last child of its parent and has no children. -/
theorem children_withNamespace (hparent : (arena.namespace? parent).isSome) (id : NamespaceId) :
    (arena.withNamespace parent name).children id =
      if id = parent then arena.children parent ++ [arena.nextNamespace]
      else arena.children id := by
  rw [children, namespace?_withNamespace hparent]
  by_cases hnext : id = arena.nextNamespace
  · have hmissing : arena.namespace? id = none := by
      rw [← Option.not_isSome_iff_eq_none]
      exact fun hid => ne_nextNamespace hid hnext
    rw [if_pos hnext, if_neg (hnext ▸ (ne_nextNamespace hparent).symm), children, hmissing]
  · rw [if_neg hnext]
    by_cases hid : id = parent
    · subst hid
      obtain ⟨ns, hns⟩ := Option.isSome_iff_exists.mp hparent
      simp [children, hns]
    · rw [if_neg hid, if_neg hid, children]

/-! ### Trees -/

/-- The namespaces of an arena are a tree below the global one: parents, children and names
agree. -/
structure IsNamespaceTree (arena : SymbolArena) : Prop where
  global_exists : (arena.namespace? .global).isSome
  global_unnamed : arena.properName? .global = none
  global_parent : arena.parent? .global = none
  /-- Every other namespace has a name that can stand in a path. -/
  named : ∀ id, (arena.namespace? id).isSome → id ≠ .global →
    ∃ name, arena.properName? id = some name ∧ Dotted.IsSegment name
  /-- Every other namespace is a child of an earlier one. -/
  placed : ∀ id, (arena.namespace? id).isSome → id ≠ .global →
    ∃ parent, arena.parent? id = some parent ∧ parent.index < id.index ∧
      id ∈ arena.children parent
  /-- Children have their parent. -/
  listed : ∀ parent, ∀ child ∈ arena.children parent, arena.parent? child = some parent
  /-- Children of one parent have different names. -/
  distinct : ∀ parent, ((arena.children parent).map arena.properName?).Nodup

/-- A child of the given name is looked up among the children. -/
theorem namespaceChild?_eq_find? (hname : name ≠ "") :
    arena.namespaceChild? parent name =
      (arena.children parent).find? fun child => arena.properName? child = some name := by
  rw [namespaceChild?]
  congr 1
  funext child
  rw [properName?]
  cases arena.namespace? child with
  | none => rfl
  | some ns =>
      by_cases hns : ns.name = name
      · simp [hns, hname]
      · simp [hns]

/-- The child that is found is a child of that name. -/
theorem mem_children_of_namespaceChild? {child : NamespaceId} (hname : name ≠ "")
    (h : arena.namespaceChild? parent name = some child) :
    child ∈ arena.children parent ∧ arena.properName? child = some name := by
  rw [namespaceChild?_eq_find? hname] at h
  have hsame := List.find?_some h
  exact ⟨List.mem_of_find?_eq_some h, of_decide_eq_true hsame⟩

/-- No child is found just where none has the name. -/
theorem namespaceChild?_eq_none_iff (hname : name ≠ "") :
    arena.namespaceChild? parent name = none ↔
      some name ∉ (arena.children parent).map arena.properName? := by
  rw [namespaceChild?_eq_find? hname, List.find?_eq_none]
  simp only [List.mem_map, decide_eq_true_eq, not_exists, not_and]

/-- An arena with the global namespace alone lists no children. -/
theorem children_empty (id : NamespaceId) : empty.children id = [] := by
  obtain ⟨index⟩ := id
  cases index <;> rfl

/-- An arena with the global namespace alone is a tree. -/
theorem isNamespaceTree_empty : empty.IsNamespaceTree where
  global_exists := rfl
  global_unnamed := by decide +kernel
  global_parent := rfl
  named id hid hne := by
    have hindex : id.index < 1 := isSome_namespace?.mp hid
    exact absurd (congrArg NamespaceId.mk (Nat.lt_one_iff.mp hindex)) hne
  placed id hid hne := by
    have hindex : id.index < 1 := isSome_namespace?.mp hid
    exact absurd (congrArg NamespaceId.mk (Nat.lt_one_iff.mp hindex)) hne
  listed parent child hchild := by
    rw [children_empty] at hchild
    exact absurd hchild List.not_mem_nil
  distinct parent := by
    rw [children_empty]
    exact .nil

namespace IsNamespaceTree

variable (h : arena.IsNamespaceTree)

include h

/-- Children exist. -/
theorem isSome_of_mem_children {child : NamespaceId} (hchild : child ∈ arena.children parent) :
    (arena.namespace? child).isSome :=
  isSome_namespace?_of_parent? (h.listed parent child hchild)

/-- No child has the next handle. -/
theorem ne_nextNamespace_of_mem_children {child : NamespaceId}
    (hchild : child ∈ arena.children parent) : child ≠ arena.nextNamespace :=
  ne_nextNamespace (h.isSome_of_mem_children hchild)

/-- What has a name stands below the global namespace, and the name is a segment. -/
theorem isSegment_of_properName? (hname : arena.properName? id = some name) :
    Dotted.IsSegment name := by
  have hne : id ≠ .global := by
    rintro rfl
    rw [h.global_unnamed] at hname
    cases hname
  have hid : (arena.namespace? id).isSome := by
    rw [properName?] at hname
    cases hns : arena.namespace? id with
    | none =>
        rw [hns] at hname
        cases hname
    | some ns => rfl
  obtain ⟨own, hown, hsegment⟩ := h.named id hid hne
  rw [hname] at hown
  exact Option.some.inj hown ▸ hsegment

/-- A new namespace leaves the names of all children that there were. -/
theorem map_properName?_withNamespace (hparent : (arena.namespace? parent).isSome)
    (hname : name ≠ "") (above : NamespaceId) :
    (arena.children above).map (arena.withNamespace parent name).properName? =
      (arena.children above).map arena.properName? := by
  refine List.map_congr_left fun child hchild => ?_
  rw [properName?_withNamespace hparent hname,
    if_neg (h.ne_nextNamespace_of_mem_children hchild)]

/-- A tree stays one with a new namespace, if no other child of the parent has its name. -/
theorem withNamespace (hparent : (arena.namespace? parent).isSome)
    (hname : Dotted.IsSegment name) (hnew : arena.namespaceChild? parent name = none) :
    (arena.withNamespace parent name).IsNamespaceTree where
  global_exists := (isSome_namespace?_withNamespace hparent).mpr (.inr h.global_exists)
  global_unnamed := by
    rw [properName?_withNamespace hparent hname.1, if_neg (ne_nextNamespace h.global_exists),
      h.global_unnamed]
  global_parent := by
    rw [parent?_withNamespace hparent, if_neg (ne_nextNamespace h.global_exists),
      h.global_parent]
  named id hid hne := by
    rw [properName?_withNamespace hparent hname.1]
    rcases (isSome_namespace?_withNamespace hparent).mp hid with rfl | hold
    · exact ⟨name, if_pos rfl, hname⟩
    · rw [if_neg (ne_nextNamespace hold)]
      exact h.named id hold hne
  placed id hid hne := by
    rw [parent?_withNamespace hparent]
    rcases (isSome_namespace?_withNamespace hparent).mp hid with rfl | hold
    · refine ⟨parent, if_pos rfl, isSome_namespace?.mp hparent, ?_⟩
      rw [children_withNamespace hparent, if_pos rfl]
      exact List.mem_append_right _ List.mem_cons_self
    · rw [if_neg (ne_nextNamespace hold)]
      obtain ⟨above, habove, hlt, hmem⟩ := h.placed id hold hne
      refine ⟨above, habove, hlt, ?_⟩
      rw [children_withNamespace hparent]
      split
      next heq => exact List.mem_append_left _ (heq ▸ hmem)
      next => exact hmem
  listed above child hchild := by
    rw [parent?_withNamespace hparent]
    rw [children_withNamespace hparent] at hchild
    by_cases habove : above = parent
    · subst habove
      rw [if_pos rfl, List.mem_append, List.mem_singleton] at hchild
      rcases hchild with hold | rfl
      · rw [if_neg (h.ne_nextNamespace_of_mem_children hold), h.listed above child hold]
      · exact if_pos rfl
    · rw [if_neg habove] at hchild
      rw [if_neg (h.ne_nextNamespace_of_mem_children hchild), h.listed above child hchild]
  distinct above := by
    have hold := h.map_properName?_withNamespace hparent hname.1 above
    rw [children_withNamespace hparent]
    split
    next heq =>
      -- the new child comes last, and its name is that of no child before it
      subst heq
      have hnot := (namespaceChild?_eq_none_iff hname.1).mp hnew
      rw [List.map_append, List.map_singleton, hold,
        properName?_withNamespace hparent hname.1, if_pos rfl, ← List.concat_eq_append]
      exact (List.nodup_concat _ _).mpr ⟨hnot, h.distinct above⟩
    next =>
      rw [hold]
      exact h.distinct above

/-! ### Names and parents -/

/-- The global namespace has no parent. -/
theorem ne_global_of_parent? (hparent : arena.parent? id = some parent) : id ≠ .global := by
  rintro rfl
  rw [h.global_parent] at hparent
  cases hparent

/-- Parents are earlier than their children. -/
theorem index_lt_of_parent? (hparent : arena.parent? id = some parent) :
    parent.index < id.index := by
  obtain ⟨above, habove, hlt, -⟩ :=
    h.placed id (isSome_namespace?_of_parent? hparent) (h.ne_global_of_parent? hparent)
  rw [hparent] at habove
  exact Option.some.inj habove ▸ hlt

/-- The way up from a namespace ends, since it only goes to earlier ones. -/
theorem exists_isWalk_namespaceAbove? (id : NamespaceId) :
    ∃ visited, IsWalk arena.namespaceAbove? (some id) visited := by
  have hacc : Acc (InvImage (· < ·) NamespaceId.index) id :=
    (InvImage.wf NamespaceId.index Nat.lt_wfRel.wf).apply id
  refine exists_isWalk_of_acc (fun item above habove => ?_) hacc
  rcases namespaceAbove?_eq_or item with hsame | hnone
  · exact h.index_lt_of_parent? (hsame ▸ habove)
  · rw [hnone] at habove
    cases habove

omit h in
/-- A namespace without a name has no names on the way up from it. -/
theorem namespaceNames_of_properName?_eq_none (hname : arena.properName? id = none) :
    arena.namespaceNames (some id) = [] := by
  have habove : arena.namespaceAbove? id = none := by
    rw [namespaceAbove?]
    cases hns : arena.namespace? id with
    | none => rfl
    | some ns =>
        have hempty : ns.name = "" := by simpa [properName?, hns] using hname
        exact if_pos hempty
  have hwalk : IsWalk arena.namespaceAbove? (some id) [id] := .step (habove ▸ .stop)
  rw [namespaceNames_eq hwalk, List.filterMap_cons_none hname, List.filterMap_nil]

/-- There are no names on the way up from the global namespace. -/
theorem namespaceNames_global : arena.namespaceNames (some .global) = [] :=
  namespaceNames_of_properName?_eq_none h.global_unnamed

/-- The names on the way up from a namespace are its own and those on the way up from its
parent. -/
theorem namespaceNames_cons (hparent : arena.parent? id = some parent)
    (hname : arena.properName? id = some name) :
    arena.namespaceNames (some id) = name :: arena.namespaceNames (some parent) := by
  have habove : arena.namespaceAbove? id = some parent := by
    obtain ⟨ns, hns, hnsParent⟩ := Option.bind_eq_some_iff.mp hparent
    have hne : ns.name ≠ "" := by
      rintro hempty
      simp [properName?, hns, hempty] at hname
    rw [namespaceAbove?, hns, Option.bind_some, if_neg hne, hnsParent]
  obtain ⟨visited, hvisited⟩ := h.exists_isWalk_namespaceAbove? parent
  have hwalk : IsWalk arena.namespaceAbove? (some id) (id :: visited) := .step (habove ▸ hvisited)
  rw [namespaceNames_eq hwalk, namespaceNames_eq hvisited, List.filterMap_cons_some hname]

/-- A namespace is the global one, or it is the child of an earlier one and has a name. -/
theorem eq_global_or (hid : (arena.namespace? id).isSome) :
    id = .global ∨ ∃ parent name, arena.parent? id = some parent ∧
      (arena.namespace? parent).isSome ∧ parent.index < id.index ∧ id ∈ arena.children parent ∧
      arena.properName? id = some name ∧ Dotted.IsSegment name := by
  by_cases hglobal : id = .global
  · exact .inl hglobal
  · obtain ⟨name, hname, hsegment⟩ := h.named id hid hglobal
    obtain ⟨parent, hparent, hlt, hmem⟩ := h.placed id hid hglobal
    have hexists : (arena.namespace? parent).isSome :=
      isSome_namespace?.mpr (Nat.lt_trans hlt (isSome_namespace?.mp hid))
    exact .inr ⟨parent, name, hparent, hexists, hlt, hmem, hname, hsegment⟩

/-- What holds of the global namespace, and of a child where it holds of its parent, holds of every
namespace. -/
theorem induction {motive : ∀ id, (arena.namespace? id).isSome → Prop}
    (global : motive .global h.global_exists)
    (child : ∀ id parent name (hid : (arena.namespace? id).isSome)
      (hparent : (arena.namespace? parent).isSome), arena.parent? id = some parent →
      parent.index < id.index → id ∈ arena.children parent → arena.properName? id = some name →
      Dotted.IsSegment name → motive parent hparent → motive id hid)
    (id : NamespaceId) (hid : (arena.namespace? id).isSome) : motive id hid := by
  induction hindex : id.index using Nat.strongRecOn generalizing id with
  | ind index ih =>
      rcases h.eq_global_or hid with
        rfl | ⟨parent, name, hparent, hexists, hlt, hmem, hname, hsegment⟩
      · exact global
      · exact child id parent name hid hexists hparent hlt hmem hname hsegment
          (ih parent.index (hindex ▸ hlt) parent hexists rfl)

/-- The names on the way up can stand in a path. -/
theorem isSegment_of_mem_namespaceNames (hid : (arena.namespace? id).isSome) :
    ∀ segment ∈ arena.namespaceNames (some id), Dotted.IsSegment segment := by
  induction id, hid using h.induction with
  | global =>
      rw [h.namespaceNames_global]
      exact List.forall_mem_nil _
  | child id parent name _ _ hparent _ _ hname hsegment ih =>
      rw [h.namespaceNames_cons hparent hname]
      exact List.forall_mem_cons.mpr ⟨hsegment, ih⟩

/-- The segments of a path are the names on the way up, from the other end. -/
theorem segments_namespacePath (hid : (arena.namespace? id).isSome) :
    Dotted.segments (arena.namespacePath id) = (arena.namespaceNames (some id)).reverse := by
  refine Dotted.segments_join fun segment hmem => ?_
  exact h.isSegment_of_mem_namespaceNames hid segment (List.mem_reverse.mp hmem)

/-! ### Looking up a path -/

/-- A child is found by its name. -/
theorem namespaceChild?_of_mem (hmem : id ∈ arena.children parent)
    (hname : arena.properName? id = some name) : arena.namespaceChild? parent name = some id := by
  have hproper : name ≠ "" := (h.isSegment_of_properName? hname).1
  cases hfound : arena.namespaceChild? parent name with
  | none =>
      have hmissing := (namespaceChild?_eq_none_iff hproper).mp hfound
      exact absurd (List.mem_map.mpr ⟨id, hmem, hname⟩) hmissing
  | some child =>
      obtain ⟨hchild, hchildName⟩ := mem_children_of_namespaceChild? hproper hfound
      have hsame : child = id :=
        List.inj_on_of_nodup_map (h.distinct parent) hchild hmem (hchildName.trans hname.symm)
      rw [hsame]

/-- The names on the way up from a namespace lead down to it. -/
theorem foldlM_namespaceNames (hid : (arena.namespace? id).isSome) :
    (arena.namespaceNames (some id)).reverse.foldlM arena.namespaceChild? .global = some id := by
  induction id, hid using h.induction with
  | global =>
      rw [h.namespaceNames_global]
      rfl
  | child id parent name _ _ hparent _ hmem hname _ ih =>
      rw [h.namespaceNames_cons hparent hname, List.reverse_cons, List.foldlM_append, ih]
      simp [h.namespaceChild?_of_mem hmem hname]

/-- A namespace is found by its path. -/
theorem namespaceByPath?_namespacePath (hid : (arena.namespace? id).isSome) :
    arena.namespaceByPath? (arena.namespacePath id) = some id := by
  rw [namespaceByPath?, h.segments_namespacePath hid, h.foldlM_namespaceNames hid]

/-! ### Parents that end -/

/-- The way up from a namespace takes no more steps than there are namespaces up to it. -/
theorem parentsEndWithin_of_lt (hid : (arena.namespace? id).isSome) {steps : Nat}
    (hsteps : id.index + 1 < steps) : arena.parentsEndWithin steps (some id) := by
  induction id, hid using h.induction generalizing steps with
  | global =>
      obtain ⟨fewer, rfl⟩ : ∃ fewer, steps = fewer + 2 := ⟨steps - 2, by omega⟩
      rw [parentsEndWithin, h.global_parent]
      rfl
  | child id parent name _ _ hparent hlt _ _ _ ih =>
      obtain ⟨fewer, rfl⟩ : ∃ fewer, steps = fewer + 1 := ⟨steps - 1, by omega⟩
      rw [parentsEndWithin, hparent]
      exact ih (by omega)

/-- No parents go round in circles. -/
theorem firstCyclicNamespace?_eq_none : arena.firstCyclicNamespace? = none := by
  refine List.find?_eq_none.mpr fun id hmem => ?_
  have hexists := mem_namespaceIds.mp hmem
  have hends := h.parentsEndWithin_of_lt hexists
    (Nat.succ_lt_succ (isSome_namespace?.mp hexists))
  rw [parentsEndWithin] at hends
  rw [hends]
  exact Bool.false_ne_true

/-! ### Adding a path -/

/-- What is added to a tree for a name or for several: a tree again, in which the names lead from
`parent` to a namespace that exists. -/
structure Adds (arena : SymbolArena) (parent : NamespaceId) (names : List String)
    (added : NamespaceId × SymbolArena) : Prop where
  isTree : added.2.IsNamespaceTree
  isSome : (added.2.namespace? added.1).isSome
  namespaceNames_eq : added.2.namespaceNames (some added.1) =
    names.reverse ++ arena.namespaceNames (some parent)

/-- A new namespace leaves the names on the way up from the others. -/
theorem namespaceNames_withNamespace (hparent : (arena.namespace? parent).isSome)
    (hname : Dotted.IsSegment name) (hnew : arena.namespaceChild? parent name = none)
    (hid : (arena.namespace? id).isSome) :
    (arena.withNamespace parent name).namespaceNames (some id) =
      arena.namespaceNames (some id) := by
  have hlater := h.withNamespace hparent hname hnew
  induction id, hid using h.induction with
  | global => rw [hlater.namespaceNames_global, h.namespaceNames_global]
  | child id above own hid _ habove _ _ hown _ ih =>
      have hne := ne_nextNamespace hid
      have hlaterParent : (arena.withNamespace parent name).parent? id = some above := by
        rw [parent?_withNamespace hparent, if_neg hne, habove]
      have hlaterName : (arena.withNamespace parent name).properName? id = some own := by
        rw [properName?_withNamespace hparent hname.1, if_neg hne, hown]
      rw [hlater.namespaceNames_cons hlaterParent hlaterName, ih, h.namespaceNames_cons habove hown]

/-- One step: a namespace below one that exists. -/
theorem adds_addNamespace (hparent : (arena.namespace? parent).isSome)
    (hname : Dotted.IsSegment name) :
    Adds arena parent [name] (arena.addNamespace parent name) := by
  rw [addNamespace_eq]
  cases hchild : arena.namespaceChild? parent name with
  | some child =>
      obtain ⟨hmem, hchildName⟩ := mem_children_of_namespaceChild? hname.1 hchild
      refine ⟨h, h.isSome_of_mem_children hmem, ?_⟩
      exact h.namespaceNames_cons (h.listed parent child hmem) hchildName
  | none =>
      have hlater := h.withNamespace hparent hname hchild
      refine ⟨hlater, (isSome_namespace?_withNamespace hparent).mpr (.inl rfl), ?_⟩
      have hlaterParent :
          (arena.withNamespace parent name).parent? arena.nextNamespace = some parent := by
        rw [parent?_withNamespace hparent, if_pos rfl]
      have hlaterName :
          (arena.withNamespace parent name).properName? arena.nextNamespace = some name := by
        rw [properName?_withNamespace hparent hname.1, if_pos rfl]
      rw [hlater.namespaceNames_cons hlaterParent hlaterName,
        h.namespaceNames_withNamespace hparent hname hchild hparent]
      rfl

/-- Any number of steps, each below the namespace of the one before. -/
theorem adds_addNamespaces {names : List String} (hnames : ∀ name ∈ names, Dotted.IsSegment name)
    (hparent : (arena.namespace? parent).isSome) :
    Adds arena parent names (arena.addNamespaces parent names) := by
  induction names generalizing arena parent with
  | nil => exact ⟨h, hparent, rfl⟩
  | cons name rest ih =>
      obtain ⟨hname, hrest⟩ := List.forall_mem_cons.mp hnames
      have hstep := h.adds_addNamespace hparent hname
      have hadds := ih hstep.isTree hrest hstep.isSome
      refine ⟨hadds.isTree, hadds.isSome, ?_⟩
      calc (arena.addNamespaces parent (name :: rest)).2.namespaceNames
            (some (arena.addNamespaces parent (name :: rest)).1)
          = rest.reverse ++ (arena.addNamespace parent name).2.namespaceNames
              (some (arena.addNamespace parent name).1) := hadds.namespaceNames_eq
        _ = rest.reverse ++ ([name].reverse ++ arena.namespaceNames (some parent)) := by
          rw [hstep.namespaceNames_eq]
        _ = (name :: rest).reverse ++ arena.namespaceNames (some parent) := by simp

/-- A path is added segment by segment, from the global namespace down. -/
theorem adds_addNamespacePath (path : String) :
    Adds arena .global (Dotted.segments path) (arena.addNamespacePath path) :=
  h.adds_addNamespaces (fun _ => Dotted.isSegment_of_mem_segments) h.global_exists

/-- The path of a namespace that is added for a path has the same segments. -/
theorem namespacePath_addNamespacePath (path : String) :
    (arena.addNamespacePath path).2.namespacePath (arena.addNamespacePath path).1 =
      Dotted.join (Dotted.segments path) := by
  rw [namespacePath, (h.adds_addNamespacePath path).namespaceNames_eq, h.namespaceNames_global,
    List.append_nil, List.reverse_reverse]

end IsNamespaceTree

/-- Adding namespaces that all exist changes nothing. -/
theorem addNamespaces_of_foldlM {names : List String}
    (h : names.foldlM arena.namespaceChild? parent = some id) :
    arena.addNamespaces parent names = (id, arena) := by
  induction names generalizing parent with
  | nil =>
      obtain rfl : parent = id := Option.some.inj h
      rfl
  | cons name rest ih =>
      rw [List.foldlM_cons] at h
      obtain ⟨child, hchild, hrest⟩ := Option.bind_eq_some_iff.mp h
      rw [addNamespaces, addNamespace_eq, hchild]
      exact ih hrest

/-! ### Arenas that are built -/

/-- The arenas that adding namespaces leads to, beginning with the empty one: by paths, whatever
they are, and below namespaces that exist. -/
inductive IsBuilt : SymbolArena → Prop
  | empty : IsBuilt SymbolArena.empty
  | addNamespacePath {arena : SymbolArena} (path : String) :
      IsBuilt arena → IsBuilt (arena.addNamespacePath path).2
  | addNamespace {arena : SymbolArena} {parent : NamespaceId} {name : String}
      (hparent : (arena.namespace? parent).isSome) (hname : Dotted.IsSegment name) :
      IsBuilt arena → IsBuilt (arena.addNamespace parent name).2

/-- Namespaces that are added form a tree. -/
theorem IsBuilt.isNamespaceTree (h : arena.IsBuilt) : arena.IsNamespaceTree := by
  induction h with
  | empty => exact isNamespaceTree_empty
  | addNamespacePath path _ ih => exact (ih.adds_addNamespacePath path).isTree
  | addNamespace hparent hname _ ih => exact (ih.adds_addNamespace hparent hname).isTree

/-- However the namespaces of an arena were added, they form a tree in which paths find what they
are the paths of:

* every namespace but the global one has a parent, which is earlier and lists it once;
* what a namespace lists has it as its parent, and has names that are all different;
* a namespace is found by its path, and a path that is added has its own non-empty segments;
* a path that is found already is not added again;
* no parents go round in circles. -/
theorem IsBuilt.namespaces_form_tree (h : arena.IsBuilt) :
    (∀ id, (arena.namespace? id).isSome → id ≠ .global →
      ∃ parent, arena.parent? id = some parent ∧ (arena.namespace? parent).isSome ∧
        parent.index < id.index ∧ (arena.children parent).count id = 1) ∧
    (∀ parent, ∀ child ∈ arena.children parent, arena.parent? child = some parent) ∧
    (∀ parent, ((arena.children parent).map fun child =>
      (arena.namespace? child).map Namespace.name).Nodup) ∧
    (∀ id, (arena.namespace? id).isSome →
      arena.namespaceByPath? (arena.namespacePath id) = some id) ∧
    (∀ path, (arena.addNamespacePath path).2.namespacePath (arena.addNamespacePath path).1 =
      Dotted.join (Dotted.segments path)) ∧
    (∀ path id, arena.namespaceByPath? path = some id →
      arena.addNamespacePath path = (id, arena)) ∧
    arena.firstCyclicNamespace? = none := by
  have htree := h.isNamespaceTree
  refine ⟨?_, htree.listed, ?_, fun _ => htree.namespaceByPath?_namespacePath,
    htree.namespacePath_addNamespacePath, fun _ _ => addNamespaces_of_foldlM,
    htree.firstCyclicNamespace?_eq_none⟩
  · intro id hid hglobal
    obtain ⟨parent, hparent, hlt, hmem⟩ := htree.placed id hid hglobal
    have hexists : (arena.namespace? parent).isSome :=
      isSome_namespace?.mpr (Nat.lt_trans hlt (isSome_namespace?.mp hid))
    have hnodup : (arena.children parent).Nodup := (htree.distinct parent).of_map _
    exact ⟨parent, hparent, hexists, hlt, List.count_eq_one_of_mem hnodup hmem⟩
  · intro parent
    refine .of_map (Option.filter (· ≠ "")) ?_
    rw [List.map_map]
    exact htree.distinct parent

/-- The namespaces `App`, `App.Models` and `App.Views`, two of them added for a path with an empty
piece. -/
def modelsAndViews : SymbolArena :=
  ((empty.addNamespacePath "App..Models").2.addNamespace ⟨1⟩ "Views").2

/-- The tree of `modelsAndViews`: its children, a parent, a path that finds its namespace again, and
a path in it that adds nothing. -/
theorem IsBuilt.namespaces_form_tree_modelsAndViews :
    modelsAndViews.IsBuilt ∧
    modelsAndViews.children ⟨1⟩ = [⟨2⟩, ⟨3⟩] ∧
    modelsAndViews.parent? ⟨3⟩ = some ⟨1⟩ ∧
    modelsAndViews.namespaceByPath? (modelsAndViews.namespacePath ⟨3⟩) = some ⟨3⟩ ∧
    modelsAndViews.addNamespacePath "App.Views." = (⟨3⟩, modelsAndViews) ∧
    modelsAndViews.firstCyclicNamespace? = none := by
  have hbuilt : modelsAndViews.IsBuilt :=
    .addNamespace (by decide +kernel) (by decide +kernel) (.addNamespacePath "App..Models" .empty)
  have hchildren : modelsAndViews.children ⟨1⟩ = [⟨2⟩, ⟨3⟩] := by decide +kernel
  obtain ⟨-, hlisted, -, hfound, -, hknown, hcyclic⟩ := hbuilt.namespaces_form_tree
  refine ⟨hbuilt, hchildren, hlisted ⟨1⟩ ⟨3⟩ ?_, hfound ⟨3⟩ (by decide +kernel),
    hknown "App.Views." ⟨3⟩ (by decide +kernel), hcyclic⟩
  rw [hchildren]
  decide

end SymbolArena

end Portability
