import Portability.Proofs.Tree.Chains

/-!
# Dotted names that are built

A dotted name is built of new nodes: an identifier for each segment of the path, and a link behind
each identifier but the first. A chain that goes on with one more segment adds two nodes
(`dottedNameFrom_ofIndex_cons`), and just these come to be above it (`reaches_withLink_iff`). From
there it is an induction on the segments:

* `exists_dottedNameFrom_eq`: how many nodes are added, behind those that were there,
* `reaches_dottedNameFrom_iff`: they are what is new below the chain's handle,
* `dottedName_builds`: a path is built as the chain of its segments, and spelled as they are joined.
-/

namespace Portability

namespace NodeArena

variable {arena : NodeArena} {segments : List String}

/-! ### Nodes that are added -/

/-- An arena with nodes added behind its own; the new ones have no comments. -/
def withNodes (arena : NodeArena) (added : List NodeData) : NodeArena where
  nodes := arena.nodes ++ (added.map fun data => { data }).toArray

/-- Nodes may be added in two portions. -/
theorem withNodes_withNodes (arena : NodeArena) (first second : List NodeData) :
    (arena.withNodes first).withNodes second = arena.withNodes (first ++ second) := by
  simp [withNodes]

/-- A new node is added behind all others. -/
theorem alloc_eq (arena : NodeArena) (data : NodeData) :
    arena.alloc data = (.ofIndex arena.size, arena.withNodes [data]) := by
  simp [alloc, withNodes, size]

/-- The size grows by the number of nodes that are added. -/
theorem size_withNodes (arena : NodeArena) (added : List NodeData) :
    (arena.withNodes added).size = arena.size + added.length := by
  simp [withNodes, size]

/-- The handles of an arena with added nodes are those up to its new size. -/
theorem contains_withNodes {added : List NodeData} {index : Nat} :
    (arena.withNodes added).contains (.ofIndex index) ↔ index < arena.size + added.length := by
  rw [contains_ofIndex, size_withNodes]

/-- The nodes that put one more segment behind what is before it. -/
def linkNodes (arena : NodeArena) (before : Nat) (segment : String) : List NodeData :=
  [.identifierName segment, .qualifiedName (.ofIndex before) (.ofIndex arena.size)]

/-- A dotted name that begins with a segment. -/
theorem dottedNameFrom_none_cons (arena : NodeArena) (segment : String) (rest : List String) :
    arena.dottedNameFrom .none (segment :: rest) =
      (arena.withNodes [.identifierName segment]).dottedNameFrom (.ofIndex arena.size) rest := by
  simp [dottedNameFrom, identifier, alloc_eq, NodeId.isNone]

/-- A dotted name that goes on with a segment. -/
theorem dottedNameFrom_ofIndex_cons (arena : NodeArena) (before : Nat) (segment : String)
    (rest : List String) :
    arena.dottedNameFrom (.ofIndex before) (segment :: rest) =
      (arena.withNodes (arena.linkNodes before segment)).dottedNameFrom
        (.ofIndex (arena.size + 1)) rest := by
  simp [dottedNameFrom, identifier, alloc_eq, NodeId.isNone, withNodes_withNodes, size_withNodes,
    linkNodes]

/-- Every segment that a dotted name goes on with adds two nodes. -/
theorem exists_dottedNameFrom_eq (arena : NodeArena) (before : Nat) (segments : List String) :
    ∃ added : List NodeData, added.length = 2 * segments.length ∧
      (arena.dottedNameFrom (.ofIndex before) segments).2 = arena.withNodes added := by
  induction segments generalizing arena before with
  | nil => exact ⟨[], rfl, by simp [withNodes, dottedNameFrom]⟩
  | cons segment rest ih =>
      obtain ⟨added, hlength, hlater⟩ :=
        ih (arena.withNodes (arena.linkNodes before segment)) (arena.size + 1)
      refine ⟨arena.linkNodes before segment ++ added, ?_, ?_⟩
      · rw [List.length_append, hlength, List.length_cons]
        simp only [linkNodes, List.length_cons, List.length_nil]
        omega
      · rw [dottedNameFrom_ofIndex_cons, hlater, withNodes_withNodes]

/-! ### What is below a new name -/

/-- Nodes that were there are as before when others are added. -/
theorem data?_withNodes_of_contains {id : NodeId} (h : arena.contains id) (added : List NodeData) :
    (arena.withNodes added).data? id = arena.data? id := by
  cases id with
  | none => rfl
  | ofIndex index =>
      have hlt : index < arena.nodes.size := contains_ofIndex.mp h
      simp only [data?, node?, withNodes, Array.getElem?_append, if_pos hlt]

/-- The nodes that are added are found behind those that were there. -/
theorem data?_withNodes_added (arena : NodeArena) (added : List NodeData) (i : Nat) :
    (arena.withNodes added).data? (.ofIndex (arena.size + i)) = added[i]? := by
  simp [data?, node?, withNodes, size, Array.getElem?_append_right, Function.comp_def]

/-- Below a chain there are only nodes of its arena. -/
theorem IsChain.contains_of_reaches {kind : LinkKind} {id below : NodeId}
    (h : arena.IsChain kind id segments) (hreach : arena.Reaches id below) :
    arena.contains below := by
  induction h with
  | identifier hdata =>
      rw [hreach.eq_of_identifierName hdata]
      exact contains_iff.mpr ⟨_, hdata⟩
  | link hdata _ hlast ih =>
      rcases hreach.eq_or_slot hdata with rfl | ⟨slot, hslot, hbelow⟩
      · exact contains_iff.mpr ⟨_, hdata⟩
      · rw [kind.slots_link] at hslot
        rcases List.mem_pair.mp hslot with rfl | rfl
        · exact ih hbelow
        · rw [hbelow.eq_of_identifierName hlast]
          exact contains_iff.mpr ⟨_, hlast⟩

/-- Arenas that agree below a handle do so the other way round. -/
theorem AgreeBelow.symm {later : NodeArena} {id : NodeId} (h : arena.AgreeBelow later id) :
    later.AgreeBelow arena id :=
  fun below hbelow => (h below (h.reaches hbelow)).symm

/-- A chain has the same below it when nodes are added. -/
theorem IsChain.agreeBelow_withNodes {kind : LinkKind} {id : NodeId}
    (h : arena.IsChain kind id segments) (added : List NodeData) :
    arena.AgreeBelow (arena.withNodes added) id :=
  fun _ hbelow => data?_withNodes_of_contains (h.contains_of_reaches hbelow) added

/-- Below one more link there is what was below the chain, and the link's own two nodes. -/
theorem reaches_withLink_iff {before : Nat} (h : arena.IsChain .name (.ofIndex before) segments)
    (segment : String) (id : NodeId) :
    (arena.withNodes (arena.linkNodes before segment)).Reaches (.ofIndex (arena.size + 1)) id ↔
      arena.Reaches (.ofIndex before) id ∨
        (arena.withNodes (arena.linkNodes before segment)).contains id ∧ ¬ arena.contains id := by
  have hagree := h.agreeBelow_withNodes (arena.linkNodes before segment)
  have hlast := data?_withNodes_added arena (arena.linkNodes before segment) 0
  have hlink := data?_withNodes_added arena (arena.linkNodes before segment) 1
  set later := arena.withNodes (arena.linkNodes before segment) with hlater
  -- two nodes are new: the identifier and, behind it, the link
  have hnew (i : Nat) : later.contains (.ofIndex (arena.size + i)) ∧
      ¬ arena.contains (.ofIndex (arena.size + i)) ↔ i < 2 := by
    rw [hlater, contains_withNodes, contains_ofIndex]
    simp [linkNodes]
  constructor
  · intro hreach
    rcases hreach.eq_or_slot hlink with rfl | ⟨slot, hslot, hbelow⟩
    · exact .inr ((hnew 1).mpr (by omega))
    · rcases List.mem_pair.mp hslot with rfl | rfl
      · exact .inl (hagree.reaches hbelow)
      · rw [hbelow.eq_of_identifierName hlast]
        exact .inr ((hnew 0).mpr (by omega))
  · rintro (hreach | ⟨hcontains, hnot⟩)
    · have hsome := isSome_of_contains (h.contains_of_reaches hreach)
      exact .ofSlot hlink List.mem_cons_self hsome (hagree.symm.reaches hreach)
    · cases id with
      | none => exact absurd hcontains (by simp)
      | ofIndex index =>
          obtain ⟨i, rfl⟩ : ∃ i, index = arena.size + i := by
            rw [contains_ofIndex] at hnot
            exact Nat.exists_eq_add_of_le (Nat.le_of_not_lt hnot)
          have hi := (hnew i).mp ⟨hcontains, hnot⟩
          obtain rfl | rfl : i = 0 ∨ i = 1 := by omega
          · exact .ofSlot hlink (List.mem_cons_of_mem _ List.mem_cons_self) rfl .refl
          · exact .refl

/-- Nodes that were there are still there when others are added. -/
theorem contains_withNodes_of_contains {id : NodeId} (h : arena.contains id)
    (added : List NodeData) : (arena.withNodes added).contains id := by
  refine contains_of_size_le ?_ h
  rw [size_withNodes]
  exact Nat.le_add_right _ _

/-- Building a dotted name keeps the nodes that were there. -/
theorem contains_dottedNameFrom {id : NodeId} (h : arena.contains id) (left : NodeId)
    (segments : List String) : (arena.dottedNameFrom left segments).2.contains id :=
  (changesOnly_dottedNameFrom (fun _ => False) arena left segments).contains h

/-- What is added in two steps is added in the first or in the second. -/
theorem contains_and_not_contains_iff {middle later : NodeArena} {id : NodeId}
    (hkept : arena.contains id → middle.contains id)
    (hkeptAfter : middle.contains id → later.contains id) :
    later.contains id ∧ ¬ arena.contains id ↔
      middle.contains id ∧ ¬ arena.contains id ∨ later.contains id ∧ ¬ middle.contains id := by
  by_cases hid : middle.contains id
  · simp [hid, hkeptAfter hid]
  · simp [hid, mt hkept hid]

/-- Below a name that goes on with some segments there is what was below its beginning, and all
that is added. -/
theorem reaches_dottedNameFrom_iff {before : Nat}
    (h : arena.IsChain .name (.ofIndex before) segments) (more : List String) (id : NodeId) :
    let built := arena.dottedNameFrom (.ofIndex before) more
    built.2.Reaches built.1 id ↔
      arena.Reaches (.ofIndex before) id ∨ built.2.contains id ∧ ¬ arena.contains id := by
  induction more generalizing arena before segments with
  | nil => simp [dottedNameFrom]
  | cons segment rest ih =>
      have hlonger : (arena.withNodes (arena.linkNodes before segment)).IsChain .name
          (.ofIndex (arena.size + 1)) (segments ++ [segment]) := by
        have hchain := isChain_dottedNameFrom h [segment]
        rwa [dottedNameFrom_ofIndex_cons] at hchain
      have hstep := reaches_withLink_iff h segment id
      rw [dottedNameFrom_ofIndex_cons]
      set middle := arena.withNodes (arena.linkNodes before segment)
      intro built
      have hkept : arena.contains id → middle.contains id :=
        fun hid => contains_withNodes_of_contains hid _
      have hkeptAfter : middle.contains id → built.2.contains id :=
        fun hid => contains_dottedNameFrom hid _ rest
      have hrest : built.2.Reaches built.1 id ↔ middle.Reaches (.ofIndex (arena.size + 1)) id ∨
          built.2.contains id ∧ ¬ middle.contains id := ih hlonger
      rw [hrest, hstep, contains_and_not_contains_iff hkept hkeptAfter, or_assoc]

/-- Below a name of its own there is what is added for it. -/
theorem reaches_dottedNameFrom_none_iff (arena : NodeArena) (hne : segments ≠ []) (id : NodeId) :
    let built := arena.dottedNameFrom .none segments
    built.2.Reaches built.1 id ↔ built.2.contains id ∧ ¬ arena.contains id := by
  obtain ⟨first, rest, rfl⟩ := List.exists_cons_of_ne_nil hne
  have hfirst := data?_withNodes_added arena [.identifierName first] 0
  rw [dottedNameFrom_none_cons]
  set middle := arena.withNodes [.identifierName first]
  intro built
  have hkept : middle.contains id → built.2.contains id :=
    fun hid => contains_dottedNameFrom hid _ rest
  have hnew : middle.Reaches (.ofIndex arena.size) id ↔
      middle.contains id ∧ ¬ arena.contains id := by
    constructor
    · intro hreach
      rw [hreach.eq_of_identifierName hfirst, contains_withNodes, contains_ofIndex]
      simp
    · rintro ⟨hcontains, hnot⟩
      cases id with
      | none => exact absurd hcontains (by simp)
      | ofIndex index =>
          rw [contains_withNodes, List.length_singleton] at hcontains
          rw [contains_ofIndex] at hnot
          obtain rfl : index = arena.size := by omega
          exact .refl
  have hrest : built.2.Reaches built.1 id ↔ middle.Reaches (.ofIndex arena.size) id ∨
      built.2.contains id ∧ ¬ middle.contains id :=
    reaches_dottedNameFrom_iff (.identifier hfirst) rest id
  have hold : arena.contains id → middle.contains id :=
    fun hid => contains_withNodes_of_contains hid _
  rw [hrest, hnew, contains_and_not_contains_iff hold hkept]

/-! ### Building and spelling -/

/-- **Building a dotted name and spelling it are inverse.** A path without segments is no node and
changes nothing. From any other path an identifier is built for each segment, and a link behind each
but the first: these nodes, which have no comments, stand behind those that there were, and they are
what is below the handle that answers. It names the chain of the segments in their order, and is
spelled as they are joined, so that the spelling has the segments of the path. -/
theorem dottedName_builds (arena : NodeArena) (path : String) :
    let segments := Dotted.segments path
    let built := arena.dottedName path
    (segments = [] → built = (.none, arena)) ∧
    (segments ≠ [] →
      (∃ added : List NodeData, added.length = 2 * segments.length - 1 ∧
        built.2 = arena.withNodes added) ∧
      (∀ id, built.2.Reaches built.1 id ↔ built.2.contains id ∧ ¬ arena.contains id) ∧
      built.2.IsChain .name built.1 segments ∧
      built.2.spell built.1 = Dotted.join segments ∧
      Dotted.segments (built.2.spell built.1) = segments) := by
  intro segments built
  have hbuilt : built = arena.dottedNameFrom .none segments := rfl
  refine ⟨fun hempty => ?_, fun hne => ?_⟩
  · rw [hbuilt, hempty, dottedNameFrom]
  · have hchain : built.2.IsChain .name built.1 segments := arena.isChain_dottedNameFrom_none hne
    have hspell : built.2.spell built.1 = Dotted.join segments := hchain.spell_eq
    refine ⟨?_, arena.reaches_dottedNameFrom_none_iff hne, hchain, hspell, ?_⟩
    · obtain ⟨first, rest, hsegments⟩ := List.exists_cons_of_ne_nil hne
      obtain ⟨added, hlength, hlater⟩ :=
        (arena.withNodes [.identifierName first]).exists_dottedNameFrom_eq arena.size rest
      refine ⟨.identifierName first :: added, ?_, ?_⟩
      · rw [hsegments, List.length_cons, List.length_cons, hlength]
        omega
      · rw [hbuilt, hsegments, dottedNameFrom_none_cons, hlater, withNodes_withNodes,
          List.singleton_append]
    · rw [hspell]
      exact Dotted.segments_join fun segment hsegment => Dotted.isSegment_of_mem_segments hsegment

/-- The arena of an import that is called `Old`. -/
def oldImport : NodeArena where
  nodes := #[{ data := .identifierName "Old", leadingComments := ["/* kept */"] },
    { data := .usingDirective none (.ofIndex 0) }]

/-- Empty pieces of a path leave no trace, and a path of nothing else is no node. -/
theorem dottedName_builds_gaps :
    Dotted.segments ".." = [] ∧ oldImport.dottedName ".." = (.none, oldImport) ∧
    Dotted.segments ".App..Tools.Main" = ["App", "Tools", "Main"] ∧
    (oldImport.dottedName ".App..Tools.Main").1 = .ofIndex 6 ∧
    (oldImport.dottedName ".App..Tools.Main").2.size = 2 + 5 ∧
    (oldImport.dottedName ".App..Tools.Main").2.IsChain .name (.ofIndex 6)
      ["App", "Tools", "Main"] ∧
    (oldImport.dottedName ".App..Tools.Main").2.spell (.ofIndex 6) = "App.Tools.Main" := by
  have hgaps : Dotted.segments ".." = [] := by decide
  have hsegments : Dotted.segments ".App..Tools.Main" = ["App", "Tools", "Main"] := by decide
  have hempty : oldImport.dottedName ".." = (.none, oldImport) :=
    (oldImport.dottedName_builds "..").1 hgaps
  have hid : (oldImport.dottedName ".App..Tools.Main").1 = .ofIndex 6 := by decide
  obtain ⟨⟨added, hlength, hnodes⟩, -, hchain, hspell, -⟩ :=
    (oldImport.dottedName_builds ".App..Tools.Main").2 (by rw [hsegments]; decide)
  rw [hsegments, hid] at hchain hspell
  refine ⟨hgaps, hempty, hsegments, hid, ?_, hchain, hspell⟩
  rw [hnodes, size_withNodes, hlength, hsegments]
  rfl

end NodeArena

end Portability
