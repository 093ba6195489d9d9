import Portability.Proofs.Tree.Dissolve
import Portability.Proofs.Tree.Names

/-!
# Comments that stay in the tree

Flattening takes namespaces and imports out of the tree, each with its name, and nothing else. So
what *lasting* slots lead to, all slots but those for these names, stays where it is or moves to the
unit. A comment is *shown* below a node if lasting slots lead from there to a node with the comment,
one that is neither a namespace nor an import, by way of nodes of one's own only.

* `Shows.frame`: changes of other nodes leave a comment shown,
* `Shows.flatten`: what is shown below a slot of a unit is shown below the flattened unit.
-/

namespace Portability

namespace NodeData

/-- The name of an import or of a namespace. -/
def nameSlots : NodeData → List NodeId
  | usingDirective _ name | namespaceDeclaration name _ _ _ => [name]
  | _ => []

/-- The slots of a node but for the name of an import or of a namespace. -/
def lastingSlots (data : NodeData) : List NodeId :=
  data.slots.drop data.nameSlots.length

/-- The name of an import or of a namespace is the first of its slots. -/
theorem nameSlots_append_lastingSlots (data : NodeData) :
    data.nameSlots ++ data.lastingSlots = data.slots := by
  cases data <;> rfl

/-- The name of an import or of a namespace belongs where names belong. -/
theorem nameSlots_subset_nameParts (data : NodeData) : data.nameSlots ⊆ data.nameParts := by
  cases data
  case usingDirective | namespaceDeclaration => exact List.Subset.refl _
  all_goals exact List.nil_subset _

/-- Other handles in the slots leave the number of names. -/
theorem length_nameSlots_withSlots (data : NodeData) (ids : List NodeId) :
    (data.withSlots ids).nameSlots.length = data.nameSlots.length := by
  cases data <;> rfl

/-- What is neither an import nor a namespace does not become one by other handles. -/
theorem nameSlots_withSlots_eq_nil {data : NodeData} (h : data.nameSlots = []) (ids : List NodeId) :
    (data.withSlots ids).nameSlots = [] := by
  rw [← List.length_eq_zero_iff, length_nameSlots_withSlots, h, List.length_nil]

/-- What is put into a slot that is no name is in a lasting slot. -/
theorem mem_lastingSlots_withSlots {data : NodeData} {ids : List NodeId}
    (hlength : ids.length = data.slots.length) {slot answer : NodeId}
    (h : (slot, answer) ∈ data.slots.zip ids) (hslot : slot ∉ data.nameSlots) :
    answer ∈ (data.withSlots ids).lastingSlots := by
  rw [lastingSlots, slots_withSlots hlength, length_nameSlots_withSlots]
  have hnames : data.nameSlots.length ≤ ids.length := by
    rw [hlength, ← nameSlots_append_lastingSlots, List.length_append]
    omega
  rw [← nameSlots_append_lastingSlots, ← List.take_append_drop data.nameSlots.length ids,
    List.zip_append (by rw [List.length_take]; omega), List.mem_append] at h
  rcases h with h | h
  · exact absurd (List.of_mem_zip h).1 hslot
  · exact (List.of_mem_zip h).2

end NodeData

namespace NodeArena

/-! ### Comments of nodes -/

/-- Whether a node has a comment in front of it. -/
def Noted (arena : NodeArena) (id : NodeId) (comment : String) : Prop :=
  ∃ node, arena.node? id = some node ∧ comment ∈ node.leadingComments

section

variable {arena : NodeArena} {id : NodeId} {comment : String}

/-- A node with a comment is a node of the arena. -/
theorem Noted.contains (h : arena.Noted id comment) : arena.contains id := by
  obtain ⟨node, hnode, -⟩ := h
  rw [NodeArena.contains, hnode]
  rfl

/-- A comment stays on a node outside the footprint of a change. -/
theorem Noted.frame {footprint : NodeId → Prop} {later : NodeArena} (h : arena.Noted id comment)
    (hchanges : ChangesOnly footprint arena later) (hnot : ¬ footprint id) :
    later.Noted id comment := by
  have hsame := hchanges.node?_eq id h.contains hnot
  obtain ⟨node, hnode, hcomment⟩ := h
  exact ⟨node, hsame.trans hnode, hcomment⟩

/-- Setting data leaves the comments. -/
theorem Noted.setData (h : arena.Noted id comment) (other : NodeId) (data : NodeData) :
    (arena.setData other data).Noted id comment := by
  obtain ⟨node, hnode, hcomment⟩ := h
  rw [NodeArena.setData, Noted, node?_modify]
  split
  · next heq => exact ⟨{ node with data }, by rw [← heq, hnode, Option.map_some], hcomment⟩
  · exact ⟨node, hnode, hcomment⟩

/-- Further comments leave those that there are. -/
theorem Noted.prependComment (h : arena.Noted id comment) (other : NodeId) (added : String) :
    (arena.prependComment other added).Noted id comment := by
  obtain ⟨node, hnode, hcomment⟩ := h
  rw [NodeArena.prependComment, Noted, node?_modify]
  split
  · next heq =>
      exact ⟨{ node with leadingComments := added :: node.leadingComments },
        by rw [← heq, hnode, Option.map_some], List.mem_cons_of_mem added hcomment⟩
  · exact ⟨node, hnode, hcomment⟩

/-- A comment that is added to a node is there. -/
theorem noted_prependComment (h : arena.contains id) (comment : String) :
    (arena.prependComment id comment).Noted id comment := by
  obtain ⟨node, hnode⟩ := Option.isSome_iff_exists.mp h
  rw [NodeArena.prependComment, Noted, node?_modify, if_pos rfl, hnode]
  exact ⟨_, rfl, List.mem_cons_self⟩

end

/-! ### Shown comments -/

/-- Whether one of one's own nodes has a node in a lasting slot. -/
def LastingStep (arena : NodeArena) (own : NodeId → Prop) (parent child : NodeId) : Prop :=
  own parent ∧ ∃ data, arena.data? parent = some data ∧ child ∈ data.lastingSlots

/-- Whether lasting slots of one's own nodes lead from a start to a node with a comment. -/
structure Shows (arena : NodeArena) (own : NodeId → Prop) (start id : NodeId) (comment : String) :
    Prop where
  path : Relation.ReflTransGen (arena.LastingStep own) start id
  own : own id
  stays : ∃ data, arena.data? id = some data ∧ data.nameSlots = []
  noted : arena.Noted id comment

namespace Shows

variable {arena : NodeArena} {own : NodeId → Prop} {start id : NodeId} {comment : String}

/-- What is shown through one's own nodes is shown if more nodes are one's own. -/
theorem mono (h : arena.Shows own start id comment) {other : NodeId → Prop}
    (hown : ∀ id, own id → other id) : arena.Shows other start id comment :=
  { h with
    path := Relation.ReflTransGen.mono
      (fun parent _ hstep => ⟨hown parent hstep.1, hstep.2⟩) _ _ h.path
    own := hown id h.own }

/-- What is shown from a lasting slot of one's own node is shown from the node. -/
theorem step (h : arena.Shows own start id comment) {parent : NodeId} {data : NodeData}
    (hown : own parent) (hdata : arena.data? parent = some data)
    (hslot : start ∈ data.lastingSlots) : arena.Shows own parent id comment :=
  { h with path := .head ⟨hown, data, hdata, hslot⟩ h.path }

/-- Changes of nodes that are not one's own leave a comment shown. -/
theorem frame (h : arena.Shows own start id comment) {footprint : NodeId → Prop}
    {later : NodeArena} (hchanges : ChangesOnly footprint arena later)
    (hnot : ∀ id, arena.contains id → own id → ¬ footprint id) :
    later.Shows own start id comment := by
  have hdata {node : NodeId} {data : NodeData} (hown : own node)
      (hdata : arena.data? node = some data) : later.data? node = some data := by
    have hcontains := contains_iff.mpr ⟨data, hdata⟩
    rw [hchanges.data?_eq hcontains (hnot node hcontains hown), hdata]
  obtain ⟨data, hid, hstays⟩ := h.stays
  refine ⟨Relation.ReflTransGen.mono ?_ _ _ h.path, h.own, ?_, ?_⟩
  · rintro parent child ⟨hown, data, hparent, hchild⟩
    exact ⟨hown, data, hdata hown hparent, hchild⟩
  · exact ⟨data, hdata h.own hid, hstays⟩
  · exact h.noted.frame hchanges (hnot id h.noted.contains h.own)

/-- What is shown below a node is below it. -/
theorem reaches (h : arena.Shows own start id comment) : arena.Reaches start id := by
  obtain ⟨hpath, -, -, hnoted⟩ := h
  have hsome := isSome_of_contains hnoted.contains
  induction hpath using Relation.ReflTransGen.head_induction_on with
  | refl => exact .refl
  | head hstep _ ih =>
      obtain ⟨-, data, hdata, hslot⟩ := hstep
      refine .ofSlot hdata ?_ hsome ih
      rw [← data.nameSlots_append_lastingSlots]
      exact List.mem_append_right _ hslot

/-- What is shown below an import is not in its place. -/
theorem importsFrom_eq_false (h : arena.Shows own start id comment) (root : String) :
    arena.importsFrom root start = false := by
  cases hdata : arena.data? start with
  | none => rw [importsFrom, hdata]
  | some data =>
      cases data
      case usingDirective aliasName name =>
        obtain ⟨other, hother, hstays⟩ := h.stays
        rcases Relation.ReflTransGen.cases_head h.path with
          rfl | ⟨child, ⟨-, data, hsome, hchild⟩, -⟩
        · obtain rfl : NodeData.usingDirective aliasName name = other :=
            Option.some.inj (hdata ▸ hother)
          cases hstays
        · obtain rfl : NodeData.usingDirective aliasName name = data :=
            Option.some.inj (hdata ▸ hsome)
          exact absurd hchild List.not_mem_nil
      all_goals rw [importsFrom, hdata]

/-- What is shown below a namespace is shown below what one nested in it holds. -/
theorem exists_ownParts (h : arena.Shows own start id comment) (root : String)
    (hstart : arena.isNamespace start) :
    ∃ inner item, arena.Nests start inner ∧
      (item ∈ (arena.ownParts root inner).externs ∨ item ∈ (arena.ownParts root inner).usings ∨
        item ∈ (arena.ownParts root inner).members) ∧
      arena.Shows own item id comment := by
  obtain ⟨hpath, hown, hstays, hnoted⟩ := h
  induction hpath using Relation.ReflTransGen.head_induction_on with
  | refl =>
      -- the way does not end at a namespace, which has a slot for its name
      obtain ⟨data, hdata, hnames⟩ := hstays
      rw [isNamespace, hdata] at hstart
      cases data
      case namespaceDeclaration => cases hnames
      all_goals cases hstart
  | @head start child hstep hpath ih =>
      have hchild : arena.Shows own child id comment := ⟨hpath, hown, hstays, hnoted⟩
      obtain ⟨-, data, hdata, hslot⟩ := hstep
      rw [isNamespace, hdata] at hstart
      cases data
      case namespaceDeclaration name externs usings members =>
        have hhere : arena.Nests start start := ⟨0, .here (contains_iff.mpr ⟨_, hdata⟩)⟩
        have hslot : child ∈ externs ++ usings ++ members := hslot
        rcases List.mem_append.mp hslot with hslot | hmember
        · refine ⟨start, child, hhere, ?_, hchild⟩
          rw [ownParts_of_data? hdata]
          rcases List.mem_append.mp hslot with hextern | husing
          · exact .inl hextern
          · exact .inr (.inl (List.mem_filter.mpr
              ⟨husing, by rw [hchild.importsFrom_eq_false root]; rfl⟩))
        · cases hnamespace : arena.isNamespace child with
          | true =>
              obtain ⟨inner, item, ⟨depth, hleads⟩, hitem, hshows⟩ := ih hnamespace
              exact ⟨inner, item, ⟨depth + 1, .step hdata
                (List.mem_filter.mpr ⟨hmember, hnamespace⟩) hleads⟩, hitem, hshows⟩
          | false =>
              refine ⟨start, child, hhere, .inr (.inr ?_), hchild⟩
              rw [ownParts_of_data? hdata]
              exact List.mem_filter.mpr ⟨hmember, by rw [hnamespace]; rfl⟩
      all_goals cases hstart

/-- What is shown below a slot of a unit is shown below a slot of the flattened unit. -/
theorem exists_slot_flatUnit (h : arena.Shows own start id comment) (root : String)
    {externs usings attributeLists members : List NodeId}
    (hstart : start ∈ externs ++ usings ++ attributeLists ++ members) :
    ∃ item ∈ (arena.flatUnit root externs usings attributeLists members).slots,
      arena.Shows own item id comment := by
  set parts := arena.dissolveUnit root externs usings members with hparts
  have hslot {item : NodeId} (hitem : item ∈ parts.externs ∨ item ∈ parts.usings ∨
      item ∈ attributeLists ∨ item ∈ parts.members) :
      item ∈ (arena.flatUnit root externs usings attributeLists members).slots := by
    simpa [flatUnit, NodeData.slots, or_assoc] using hitem
  simp only [List.mem_append, or_assoc] at hstart
  rcases hstart with hextern | husing | hattribute | hmember
  · refine ⟨start, hslot (.inl ?_), h⟩
    exact (mem_part_dissolveUnit Dissolved.isPart_externs root _ _ _).mpr (.inl hextern)
  · refine ⟨start, hslot (.inr (.inl ?_)), h⟩
    exact (mem_part_dissolveUnit Dissolved.isPart_usings root _ _ _).mpr (.inl
      (List.mem_filter.mpr ⟨husing, by rw [h.importsFrom_eq_false root]; rfl⟩))
  · exact ⟨start, hslot (.inr (.inr (.inl hattribute))), h⟩
  · cases hdissolved : arena.isDissolved root start with
    | true =>
        -- the namespace goes, and the way goes on from a part of one nested in it
        obtain ⟨inner, item, hnests, hitem, hshows⟩ :=
          h.exists_ownParts root (isNamespace_of_isDissolved hdissolved)
        refine ⟨item, hslot ?_, hshows⟩
        rcases hitem with hextern | husing | hmember'
        · exact .inl ((mem_part_dissolveUnit Dissolved.isPart_externs root _ _ _).mpr
            (.inr (.inr ⟨start, hmember, hdissolved, inner, hnests, hextern⟩)))
        · exact .inr (.inl ((mem_part_dissolveUnit Dissolved.isPart_usings root _ _ _).mpr
            (.inr (.inr ⟨start, hmember, hdissolved, inner, hnests, husing⟩))))
        · exact .inr (.inr (.inr ((mem_part_dissolveUnit Dissolved.isPart_members root _ _ _).mpr
            (.inr (.inr ⟨start, hmember, hdissolved, inner, hnests, hmember'⟩)))))
    | false =>
        refine ⟨start, hslot (.inr (.inr (.inr ?_))), h⟩
        exact (mem_part_dissolveUnit Dissolved.isPart_members root _ _ _).mpr
          (.inr (.inl ⟨start, hmember, hdissolved, List.mem_singleton_self start⟩))

/-- Flattening a unit leaves what is shown below it shown, where the flattened unit is one's own. -/
theorem flatten (h : arena.Shows own start id comment) {unit : NodeId}
    {externs usings attributeLists members : List NodeId}
    (hunit : arena.data? unit = some (.compilationUnit externs usings attributeLists members))
    (hstart : start ∈ externs ++ usings ++ attributeLists ++ members) (root : String)
    (hown : own (arena.flatten unit root).1) :
    (arena.flatten unit root).2.Shows own (arena.flatten unit root).1 id comment := by
  obtain ⟨item, hitem, hshows⟩ := h.exists_slot_flatUnit root hstart
  exact (hshows.frame (changesOnly_flatten (fun _ => False) arena unit root)
    fun _ _ _ hfalse => hfalse).step hown ((data?_flatten hunit root _).trans (if_pos rfl)) hitem

end Shows

end NodeArena

end Portability
