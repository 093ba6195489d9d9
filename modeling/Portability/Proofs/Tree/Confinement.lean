import Portability.Proofs.Tree.Dissolve

/-!
# Changes that stay inside

Changes of an arena are *confined* to some of its nodes if they change no other one and do not link
to any other one: a handle is *inside* if it is none of the rest, and what is in the slots of a node
inside is inside as well. Then the rest of the arena is as it was, and nothing inside leads out.

Confined changes keep an arena closed (`Confined.isClosed`). The operations on arenas stay confined
as long as they are given handles that are inside, and what they add is inside.
-/

namespace Portability

namespace NodeArena

/-- Whether a handle is inside, where an arena was changed to a later one: it is no node, a node of
the footprint, or one that was added. -/
def Inside (footprint : NodeId → Prop) (arena later : NodeArena) (id : NodeId) : Prop :=
  id = .none ∨ later.contains id ∧ (arena.contains id → footprint id)

/-- Changes that are confined to a footprint and added nodes: no other node is changed, and slots
inside hold what is inside. -/
structure Confined (footprint : NodeId → Prop) (arena later : NodeArena) : Prop where
  changes : ChangesOnly footprint arena later
  inside_slot : ∀ id data, Inside footprint arena later id → later.data? id = some data →
    ∀ slot ∈ data.slots, Inside footprint arena later slot

variable {F : NodeId → Prop} {arena later : NodeArena} {id : NodeId}

/-! ### Handles inside -/

/-- No node is inside. -/
theorem inside_none : Inside F arena later .none :=
  .inl rfl

/-- What is inside stays inside when nodes are added. -/
theorem Inside.mono (h : Inside F arena later id) {last : NodeArena}
    (hsize : later.size ≤ last.size) : Inside F arena last id := by
  rcases h with rfl | ⟨hcontains, hfootprint⟩
  · exact inside_none
  · exact .inr ⟨contains_of_size_le hsize hcontains, hfootprint⟩

/-- A node that was there and is inside is one of the footprint. -/
theorem Inside.footprint (h : Inside F arena later id) (hid : arena.contains id) : F id := by
  rcases h with rfl | ⟨-, hfootprint⟩
  · exact absurd hid (by simp)
  · exact hfootprint hid

/-- The first of several handles inside is inside, and so is what stands for it if there is none. -/
theorem Inside.headD {ids : List NodeId} (h : ∀ id ∈ ids, Inside F arena later id) :
    Inside F arena later (ids.headD .none) := by
  cases ids with
  | nil => exact inside_none
  | cons first rest => exact h first List.mem_cons_self

namespace Confined

/-- At the start, what a root reaches is inside. -/
theorem start (hclosed : arena.IsClosed) (root : NodeId) :
    Confined (arena.Reaches root) arena arena := by
  refine ⟨.refl _ arena, fun id data hid hdata slot hslot => ?_⟩
  rcases eq_none_or_mem_children hdata hslot with rfl | hchild
  · exact inside_none
  · have hreach := hid.footprint (contains_of_mem_children hchild)
    exact .inr ⟨hclosed id slot hchild, fun _ => hreach.tail hchild⟩

variable (h : Confined F arena later)

include h

/-- Confined changes keep an arena closed: a node inside leads to nodes inside, and any other one to
nodes that were there. -/
theorem isClosed (hclosed : arena.IsClosed) : later.IsClosed := by
  intro id child hchild
  have hid := contains_of_mem_children hchild
  obtain ⟨data, hdata⟩ := contains_iff.mp hid
  by_cases hinside : Inside F arena later id
  · have hslot := mem_slots_of_mem_children hdata hchild
    rcases h.inside_slot id data hinside hdata child hslot with rfl | ⟨hcontains, -⟩
    · rw [children_eq_of_data? hdata] at hchild
      exact absurd (List.mem_filter.mp hchild).2 (by decide)
    · exact hcontains
  · -- the node was there before and is unchanged
    have hbefore : arena.contains id ∧ ¬ F id := by
      by_contra hnot
      refine hinside (.inr ⟨hid, fun hcontains => ?_⟩)
      by_contra hfootprint
      exact hnot ⟨hcontains, hfootprint⟩
    have hsame := h.changes.data?_eq hbefore.1 hbefore.2
    rw [children, hsame] at hchild
    exact h.changes.contains (hclosed id child hchild)

/-! ### Operations -/

/-- A change of a node inside, where its slots hold what they held or what is inside. -/
theorem modify (hid : Inside F arena later id) {f : Node → Node}
    (hf : ∀ node, ∀ slot ∈ (f node).data.slots,
      slot ∈ node.data.slots ∨ Inside F arena later slot) :
    Confined F arena (later.modify id f) := by
  have hsize : (later.modify id f).size = later.size := size_modify later id f
  have hafter {slot : NodeId} (hslot : Inside F arena later slot) :
      Inside F arena (later.modify id f) slot := hslot.mono (Nat.le_of_eq hsize.symm)
  refine ⟨h.changes.trans (changesOnly_modify later id f) ?_, ?_⟩
  · rintro other hother rfl
    exact hid.footprint hother
  · intro other data hother hdata slot hslot
    have hbefore : Inside F arena later other := hother.mono (Nat.le_of_eq hsize)
    rw [data?_modify] at hdata
    split at hdata
    next hother =>
      obtain ⟨node, hnode, rfl⟩ := Option.map_eq_some_iff.mp hdata
      rcases hf node slot hslot with hslot | hslot
      · exact hafter (h.inside_slot id node.data hid (by rw [data?, hnode]; rfl) slot hslot)
      · exact hafter hslot
    next => exact hafter (h.inside_slot other data hbefore hdata slot hslot)

/-- Setting the data of a node inside is confined, where its slots hold what is inside. -/
theorem setData (hid : Inside F arena later id) {data : NodeData}
    (hdata : ∀ slot ∈ data.slots, Inside F arena later slot) :
    Confined F arena (later.setData id data) :=
  h.modify hid fun _ slot hslot => .inr (hdata slot hslot)

/-- A comment on a node inside is a confined change. -/
theorem prependComment (hid : Inside F arena later id) (comment : String) :
    Confined F arena (later.prependComment id comment) :=
  h.modify hid fun _ _ hslot => .inl hslot

/-- Copying comments to a node inside is a confined change. -/
theorem copyComments (hid : Inside F arena later id) (source : NodeId) :
    Confined F arena (later.copyComments source id) :=
  h.modify hid fun _ _ hslot => .inl hslot

/-- An added node is inside. -/
theorem inside_alloc (data : NodeData) :
    Inside F arena (later.alloc data).2 (later.alloc data).1 := by
  have hnew := not_contains_alloc later data
  exact .inr ⟨contains_alloc later data, fun hcontains =>
    absurd (h.changes.contains hcontains) hnew⟩

/-- Adding a node is confined, where its slots hold what is inside. -/
theorem alloc {data : NodeData} (hdata : ∀ slot ∈ data.slots, Inside F arena later slot) :
    Confined F arena (later.alloc data).2 := by
  have hafter {slot : NodeId} (hslot : Inside F arena later slot) :
      Inside F arena (later.alloc data).2 slot := hslot.mono (by rw [size_alloc]; omega)
  refine ⟨h.changes.trans (changesOnly_alloc F later data) fun _ _ hid => hid, ?_⟩
  intro other found hother hfound slot hslot
  rw [data?_alloc] at hfound
  split at hfound
  next =>
    obtain rfl : data = found := Option.some.inj hfound
    exact hafter (hdata slot hslot)
  next =>
    have hcontains : later.contains other := contains_iff.mpr ⟨found, hfound⟩
    have hbefore : Inside F arena later other := .inr ⟨hcontains, hother.footprint⟩
    exact hafter (h.inside_slot other found hbefore hfound slot hslot)

/-- Building a dotted name behind a handle inside is confined, and the name is inside. -/
theorem dottedNameFrom {left : NodeId} (hleft : Inside F arena later left)
    (segments : List String) :
    let named := later.dottedNameFrom left segments
    Confined F arena named.2 ∧ Inside F arena named.2 named.1 := by
  induction segments generalizing later left with
  | nil => exact ⟨h, hleft⟩
  | cons segment rest ih =>
      have hright : Confined F arena (later.alloc (.identifierName segment)).2 :=
        h.alloc fun _ hslot => absurd hslot List.not_mem_nil
      have hsegment := h.inside_alloc (.identifierName segment)
      simp only [NodeArena.dottedNameFrom, identifier]
      split
      · exact ih hright hsegment
      · have hleft : Inside F arena (later.alloc (.identifierName segment)).2 left :=
          hleft.mono (by rw [size_alloc]; omega)
        refine ih (hright.alloc ?_) (hright.inside_alloc _)
        exact List.forall_mem_cons.mpr ⟨hleft, List.forall_mem_singleton.mpr hsegment⟩

/-- A dotted name is built of added nodes. -/
theorem dottedName (path : String) :
    Confined F arena (later.dottedName path).2 ∧
      Inside F arena (later.dottedName path).2 (later.dottedName path).1 :=
  h.dottedNameFrom inside_none _

/-! ### Flattening -/

/-- What is nested in a namespace inside is inside. -/
theorem inside_of_nests {outer inner : NodeId} (houter : Inside F arena later outer)
    (hnests : later.Nests outer inner) : Inside F arena later inner := by
  obtain ⟨depth, hleads⟩ := hnests
  induction hleads with
  | here => exact houter
  | @step depth id part below data hdata hpart _ ih =>
      refine ih (h.inside_slot id data houter hdata part ?_)
      cases data
      case namespaceDeclaration name externs usings members =>
        exact List.mem_cons_of_mem _ (List.mem_append_right _ (List.mem_filter.mp hpart).1)
      all_goals exact absurd hpart List.not_mem_nil

/-- What a namespace inside brings to its unit is inside. -/
theorem inside_ownParts (hid : Inside F arena later id) (root : String) :
    let own := later.ownParts root id
    ∀ item ∈ own.externs ++ own.usings ++ own.members, Inside F arena later item := by
  intro own item hitem
  cases hdata : later.data? id with
  | none => simp [own, ownParts, hdata] at hitem
  | some data =>
      refine h.inside_slot id data hid hdata item ?_
      cases data
      case namespaceDeclaration name externs usings members =>
        simp only [own, ownParts_of_data? hdata, List.mem_append, List.mem_filter] at hitem
        simp only [NodeData.slots, List.mem_cons, List.mem_append]
        tauto
      all_goals simp [own, ownParts, hdata] at hitem

/-- What is put into a unit that is flattened is inside. -/
theorem inside_part_dissolveUnit {part : Dissolved → List NodeId} (hpart : Dissolved.IsPart part)
    (hsubset : ∀ parts, part parts ⊆ parts.externs ++ parts.usings ++ parts.members)
    (root : String) {externs usings members : List NodeId}
    (hunit : ∀ item ∈ externs ++ usings ++ members, Inside F arena later item) :
    ∀ item ∈ part (later.dissolveUnit root externs usings members),
      Inside F arena later item := by
  intro item hitem
  rcases (mem_part_dissolveUnit hpart root externs usings members).mp hitem with
    hown | ⟨member, hmember, -, hkept⟩ | ⟨member, hmember, -, inner, hnests, hmoved⟩
  · have hmem := hsubset _ hown
    simp only [List.mem_append, List.mem_filter, List.not_mem_nil, or_false] at hmem
    refine hunit item (List.mem_append_left _ (List.mem_append.mpr ?_))
    exact hmem.imp_right And.left
  · have hmem := hsubset _ hkept
    obtain rfl : item = member := by simpa using hmem
    exact hunit item (List.mem_append_right _ hmember)
  · have houter := hunit member (List.mem_append_right _ hmember)
    exact h.inside_ownParts (h.inside_of_nests houter hnests) root item (hsubset _ hmoved)

/-- Flattening adds a unit that holds what is inside. -/
theorem flatten {unit : NodeId} (hunit : Inside F arena later unit) (root : String) :
    Confined F arena (later.flatten unit root).2 ∧
      Inside F arena (later.flatten unit root).2 (later.flatten unit root).1 := by
  cases hdata : later.data? unit with
  | none =>
      rw [NodeArena.flatten, hdata]
      exact ⟨h, hunit⟩
  | some data =>
      cases data
      case compilationUnit externs usings attributeLists members =>
        have hslots := h.inside_slot unit _ hunit hdata
        simp only [NodeData.slots, List.forall_mem_append] at hslots
        obtain ⟨⟨⟨hexterns, husings⟩, hattributes⟩, hmembers⟩ := hslots
        have hall : ∀ item ∈ externs ++ usings ++ members, Inside F arena later item :=
          List.forall_mem_append.mpr ⟨List.forall_mem_append.mpr ⟨hexterns, husings⟩, hmembers⟩
        have hflat : ∀ slot ∈ (later.flatUnit root externs usings attributeLists members).slots,
            Inside F arena later slot := by
          simp only [flatUnit, NodeData.slots, List.forall_mem_append]
          refine ⟨⟨⟨?_, ?_⟩, hattributes⟩, ?_⟩
          · exact h.inside_part_dissolveUnit Dissolved.isPart_externs (fun parts => by simp)
              root hall
          · exact h.inside_part_dissolveUnit Dissolved.isPart_usings (fun parts => by simp)
              root hall
          · exact h.inside_part_dissolveUnit Dissolved.isPart_members (fun parts => by simp)
              root hall
        have hadded := h.inside_alloc (later.flatUnit root externs usings attributeLists members)
        rw [flatten_eq hdata]
        exact ⟨(h.alloc hflat).copyComments hadded unit,
          hadded.mono (Nat.le_of_eq (size_modify _ _ _).symm)⟩
      all_goals
        rw [NodeArena.flatten, hdata]
        exact ⟨h, hunit⟩

end Confined

end NodeArena

end Portability
