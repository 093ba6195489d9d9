import Portability.Proofs.Pass.Independence
import Portability.Proofs.Pass.Shortening
import Portability.Proofs.Tree.Notes

/-!
# Diagnostics in the tree

Every diagnostic is shown in the tree that a pass answers with: its node is below the root, and its
message is among the comments of the node (`shown_of_runFrom`). Two things could be in the way of
it. A node that is found fault with could be replaced or lose its comments, but only names are
replaced and written over, and those are found no fault with before they stand for an access. And
flattening could take the node out of the tree, but what it takes out are names, imports and
namespaces.
-/

namespace Portability

open NodeArena (ChangesOnly)

/-- A simple name stays in its place and has no name slots. -/
theorem NodeData.isSteady_of_isSimpleName {data : NodeData} (h : data.isSimpleName) :
    data.isSteady ∧ data.nameSlots = [] := by
  cases data
  case identifierName | genericName => exact ⟨rfl, rfl⟩
  all_goals cases h

/-- Whether a handle is below a node or names a node that an arena does not have. -/
def NodeArena.Own (arena : NodeArena) (id : NodeId) (other : NodeId) : Prop :=
  arena.contains other → arena.Reaches id other

/-- What is one's own below a slot is one's own below the node. -/
theorem NodeArena.Own.ofSlot {arena : NodeArena} {id slot other : NodeId} {data : NodeData}
    (h : arena.Own slot other) (hdata : arena.data? id = some data) (hslot : slot ∈ data.slots) :
    arena.Own id other :=
  fun hcontains => .ofSlot hdata hslot (isSome_of_contains hcontains) (h hcontains)

/-- Whether what is reported on the way to an answer is shown below it, and nothing is reported of
names. -/
def ShowsAt (arena : NodeArena) (id : NodeId) (s : PassState) (answer : NodeId × PassState) :
    Prop :=
  ∀ d ∈ answer.2.diagnostics.toList, d ∈ s.diagnostics.toList ∨
    ¬ arena.OnlyNamesBelow id ∧
      answer.2.arena.Shows (arena.Own id) answer.1 d.node (messageComment d.message)

namespace PassContext

/-- What relinking a node leads to: its slots hold other handles, and what was reported is noted at
the node or shown below what one of its slots holds. -/
structure Relinked (arena : NodeArena) (id : NodeId) (data : NodeData) (after : Inspection Unit)
    (s t : PassState) (ids : List NodeId) : Prop where
  length_eq : ids.length = data.slots.length
  data?_eq : t.arena.data? id = some (data.withSlots ids)
  shows : ∀ d ∈ t.diagnostics.toList, d ∈ s.diagnostics.toList ∨
    (((checkConstruct id data).faults ≠ [] ∨ after.faults ≠ []) ∧ d.node = id ∧
      t.arena.Noted id (messageComment d.message)) ∨
    ∃ slot answer, (slot, answer) ∈ data.slots.zip ids ∧ ¬ arena.OnlyNamesBelow slot ∧
      t.arena.Shows (arena.Own slot) answer d.node (messageComment d.message)

variable {context : PassContext}

/-! ### Reports of one node -/

/-- Showing faults leaves the comments that there are. -/
theorem noted_foldl_annotate {arena : NodeArena} {id : NodeId} {comment : String}
    (h : arena.Noted id comment) (faults : List Fault) :
    (faults.foldl context.annotate arena).Noted id comment := by
  induction faults generalizing arena with
  | nil => exact h
  | cons fault rest ih => exact ih (h.prependComment _ _)

/-- Every fault that is shown is among the comments of its node. -/
theorem noted_of_mem_faults {arena : NodeArena} {faults : List Fault} {fault : Fault}
    (hmem : fault ∈ faults) (hcontains : arena.contains fault.node) :
    (faults.foldl context.annotate arena).Noted fault.node
      (messageComment (context.diagnostic fault).message) := by
  induction faults generalizing arena with
  | nil => exact absurd hmem List.not_mem_nil
  | cons first rest ih =>
      rcases List.mem_cons.mp hmem with rfl | hmem
      · exact noted_foldl_annotate (NodeArena.noted_prependComment hcontains _) rest
      · exact ih hmem ((context.changesOnly_annotate arena first).contains hcontains)

/-- Settling an inspection of one node reports nothing or what its comments show then. -/
theorem noted_settle {x : Inspection Unit} {id : NodeId}
    (hnode : ∀ fault ∈ x.faults, fault.node = id) {s : PassState}
    (hcontains : s.arena.contains id) {d : Diagnostic}
    (hmem : d ∈ ((context.settle x).run s).2.diagnostics.toList) :
    d ∈ s.diagnostics.toList ∨ x.faults ≠ [] ∧ d.node = id ∧
      ((context.settle x).run s).2.arena.Noted id (messageComment d.message) := by
  rw [run_settle] at hmem ⊢
  rcases List.mem_append.mp (Array.toList_appendList ▸ hmem) with hmem | hmem
  · exact .inl hmem
  · obtain ⟨fault, hfault, rfl⟩ := List.mem_map.mp hmem
    obtain rfl := hnode fault hfault
    exact .inr ⟨List.ne_nil_of_mem hfault, rfl, noted_of_mem_faults hfault hcontains⟩

/-- Settling an inspection leaves the comments that there are. -/
theorem noted_settle_of_noted {x : Inspection Unit} {s : PassState} {id : NodeId} {comment : String}
    (h : s.arena.Noted id comment) :
    ((context.settle x).run s).2.arena.Noted id comment := by
  rw [run_settle]
  exact noted_foldl_annotate h x.faults

/-! ### Visits -/

/-- Where nothing is to be found, nothing is reported. -/
theorem Finds.diagnostics_eq_of_nothing {footprint : NodeId → Prop} {s t : PassState}
    (h : context.Finds footprint (pure ()) s t) :
    t.diagnostics.toList = s.diagnostics.toList := by
  obtain ⟨found, halike, heffect⟩ := h
  have hnothing : found.faults = [] := List.forall₂_nil_left_iff.mp halike.faults
  rw [heffect.diagnostics_eq, hnothing, List.map_nil, List.append_nil]

variable {arena : NodeArena}

/-- A node that stays in its place shows what is reported on the way, if what stands for the name of
an import or a namespace is a name. -/
theorem Relinked.showsAt {id : NodeId} {data : NodeData} {after : Inspection Unit} {s t : PassState}
    {ids : List NodeId} (h : Relinked arena id data after s t ids)
    (hdata : arena.data? id = some data) (hid : ¬ arena.OnlyNamesBelow id)
    (hnames : ∀ name ∈ data.nameSlots, arena.OnlyNamesBelow name)
    (hfaults : data.nameSlots ≠ [] → (checkConstruct id data).faults = [] ∧ after.faults = []) :
    ShowsAt arena id s (id, t) := by
  intro d hd
  rcases h.shows d hd with hd | ⟨hfound, hnode, hnoted⟩ | ⟨slot, answer, hmem, hslot, hshown⟩
  · exact .inl hd
  · have hstays : data.nameSlots = [] := by
      by_contra hne
      obtain ⟨hconstruct, hafter⟩ := hfaults hne
      exact hfound.elim (absurd hconstruct) (absurd hafter)
    refine .inr ⟨hid, ?_⟩
    rw [hnode]
    exact ⟨.refl, fun _ => .refl,
      ⟨_, h.data?_eq, NodeData.nameSlots_withSlots_eq_nil hstays ids⟩, hnoted⟩
  · have hlasting : answer ∈ (data.withSlots ids).lastingSlots :=
      NodeData.mem_lastingSlots_withSlots h.length_eq hmem fun hname => hslot (hnames slot hname)
    have hown := hshown.mono fun below hown => hown.ofSlot hdata (List.of_mem_zip hmem).1
    exact .inr ⟨hid, hown.step (fun _ => .refl) h.data?_eq hlasting⟩

/-- Every call has an answer. -/
theorem length_mapM (visit : Visitor) (calls : List (NodeId × Bool)) (s : PassState) :
    ((calls.mapM fun (slot, isCallee) => visit slot isCallee).run s).1.length = calls.length := by
  induction calls generalizing s with
  | nil => rfl
  | cons call rest ih =>
      rw [List.mapM_cons]
      exact congrArg (· + 1) (ih _)

section

variable (context) {root : NodeId} (hclosed : arena.IsClosed) (htree : arena.IsTree root)

include hclosed htree

/-- After the check of a node as a construct, what its slots hold is pending. -/
theorem isPending_of_mem_calls {id slot : NodeId} {data : NodeData} {s : PassState}
    (hdata : arena.data? id = some data) (hid : arena.IsPending root s.arena id)
    (hslot : slot ∈ data.calls.map Prod.fst) :
    arena.IsPending root ((context.settle (checkConstruct id data)).run s).2.arena slot :=
  hid.slot_of_changes hclosed htree hdata (data.map_fst_calls ▸ hslot)
    (context.finds_checkConstruct id data s).changes

/-- The visits of what the slots of a node hold change what is below these only. -/
theorem changesOnly_mapM_calls (levels : Nat) {id : NodeId} {data : NodeData} {s : PassState}
    (hdata : arena.data? id = some data) (hid : arena.IsPending root s.arena id) :
    let checked := ((context.settle (checkConstruct id data)).run s).2
    ChangesOnly (fun below => ∃ slot ∈ data.slots, arena.Reaches slot below) checked.arena
      ((data.calls.mapM fun (slot, isCallee) =>
        context.visitTo levels slot isCallee).run checked).2.arena := by
  have hapart := htree.pairwise_apart_slots (hid.reaches hdata) hdata
  rw [← data.map_fst_calls] at hapart ⊢
  exact (finds_mapM hclosed (context.findsAt_visitTo hclosed htree levels) hapart
    fun slot hslot => context.isPending_of_mem_calls hclosed htree hdata hid hslot).changes

/-- A relinked node holds what answers the visits of its slots. -/
theorem data?_relink (levels : Nat) {id : NodeId} {data : NodeData} {s : PassState}
    (hdata : arena.data? id = some data) (hid : arena.IsPending root s.arena id)
    (after : Inspection Unit) :
    let checked := ((context.settle (checkConstruct id data)).run s).2
    ((context.relink (context.visitTo levels) id data after).run s).2.arena.data? id =
      some (data.withSlots ((data.calls.mapM fun (slot, isCallee) =>
        context.visitTo levels slot isCallee).run checked).1) := by
  intro checked
  have hcontains : s.arena.contains id :=
    NodeArena.contains_of_size_le hid.size_le (NodeArena.contains_iff.mpr ⟨data, hdata⟩)
  have hchecked : checked.arena.contains id :=
    (context.finds_checkConstruct id data s).changes.contains hcontains
  set visited := (data.calls.mapM fun (slot, isCallee) =>
    context.visitTo levels slot isCallee).run checked
  have hvisited : visited.2.arena.data? id = some data := by
    rw [(context.changesOnly_mapM_calls hclosed htree levels hdata hid).data?_eq hchecked,
      data?_settle, hid.agree.data?_eq, hdata]
    rintro ⟨slot, hslot, hreach⟩
    exact htree.not_reaches_of_mem_slots (hid.reaches hdata) hdata hslot hreach
  refine (data?_settle after { visited.2 with
    arena := visited.2.arena.setData id (data.withSlots visited.1) } id).trans ?_
  rw [NodeArena.data?_setData, if_pos rfl, hvisited, Option.map_some]

/-- A steady node stays in its place, with other handles in its slots. -/
theorem exists_data?_visitTo_of_isSteady (levels : Nat) {id : NodeId} {data : NodeData}
    {s : PassState} (hdata : arena.data? id = some data) (hid : arena.IsPending root s.arena id)
    (hsteady : data.isSteady) (isCallee : Bool) :
    let answer := (context.visitTo levels id isCallee).run s
    answer.1 = id ∧ ∃ ids, answer.2.arena.data? id = some (data.withSlots ids) := by
  have hsome : s.arena.data? id = some data := hid.agree.data?_eq.trans hdata
  cases levels with
  | zero => exact ⟨rfl, data.slots, hsome.trans (congrArg some data.withSlots_slots.symm)⟩
  | succ levels =>
      rw [run_visitTo_of_data? _ hsome,
        run_visitNode_of_isSteady _ _ (context.visitTo_none levels) hsteady]
      exact ⟨rfl, _, context.data?_relink hclosed htree levels hdata hid _⟩

/-- Names are visited without a report. -/
theorem diagnostics_eq_of_onlyNames (levels : Nat) {id : NodeId} {s : PassState}
    (hnames : arena.OnlyNamesBelow id) (hid : arena.IsPending root s.arena id)
    (isCallee : Bool) :
    ((context.visitTo levels id isCallee).run s).2.diagnostics.toList = s.diagnostics.toList := by
  have hfinds := (context.findsAt_visitTo hclosed htree levels id isCallee s hid).finds
  rw [context.findingsTo_of_onlyNames levels hnames] at hfinds
  exact hfinds.diagnostics_eq_of_nothing

variable {context} {levels : Nat} (ih : ∀ id isCallee s, arena.IsPending root s.arena id →
  ShowsAt arena id s ((context.visitTo levels id isCallee).run s))

include ih

/-- What is reported in visits of pending nodes is shown below the answer to one of them. -/
theorem shows_mapM {calls : List (NodeId × Bool)}
    (hapart : (calls.map Prod.fst).Pairwise arena.Apart) {s : PassState}
    (hpending : ∀ slot ∈ calls.map Prod.fst, arena.IsPending root s.arena slot) {d : Diagnostic} :
    let answer := (calls.mapM fun (slot, isCallee) => context.visitTo levels slot isCallee).run s
    d ∈ answer.2.diagnostics.toList → d ∈ s.diagnostics.toList ∨
      ∃ slot id, (slot, id) ∈ (calls.map Prod.fst).zip answer.1 ∧ ¬ arena.OnlyNamesBelow slot ∧
        answer.2.arena.Shows (arena.Own slot) id d.node (messageComment d.message) := by
  induction calls generalizing s with
  | nil => exact .inl
  | cons call rest ihRest =>
      obtain ⟨hfirst, hrest⟩ := List.pairwise_cons.mp hapart
      obtain ⟨hcall, hothers⟩ := List.forall_mem_cons.mp hpending
      have hvisit := context.findsAt_visitTo hclosed htree levels
      have hhead := (hvisit call.1 call.2 s hcall).finds
      have hlater : ∀ slot ∈ rest.map Prod.fst, arena.IsPending root
          ((context.visitTo levels call.1 call.2).run s).2.arena slot := fun slot hmem =>
        (hothers slot hmem).keep hclosed hhead.changes fun below hcontains hother hreach =>
          hfirst slot hmem below hcontains hreach hother
      have hchanges := (finds_mapM hclosed hvisit hrest hlater).changes
      rw [List.mapM_cons]
      intro answer hd
      rcases ihRest hrest hlater hd with hd | ⟨slot, id, hmem, hnames, hshown⟩
      · rcases ih call.1 call.2 s hcall d hd with hd | ⟨hnames, hshown⟩
        · exact .inl hd
        · refine .inr ⟨call.1, _, List.mem_cons_self, hnames, hshown.frame hchanges ?_⟩
          rintro below hcontains hown ⟨slot, hmem, hreach⟩
          have hbelow := (hothers slot hmem).contains_of_reaches hclosed
            (NodeArena.isSome_of_contains hcontains) hreach
          exact hfirst slot hmem below hbelow (hown hbelow) hreach
      · exact .inr ⟨slot, id, List.mem_cons_of_mem _ hmem, hnames, hshown⟩

/-- A node is relinked in three steps: it is checked as a construct, its slots are visited, and the
answers are put into them. -/
theorem exists_relinked {id : NodeId} {data : NodeData} {s : PassState}
    (hdata : arena.data? id = some data) (hid : arena.IsPending root s.arena id)
    {after : Inspection Unit} (hafter : after.BlamesOnly id) :
    ∃ ids, Relinked arena id data after s
      ((context.relink (context.visitTo levels) id data after).run s).2 ids := by
  have hcontains : arena.contains id := NodeArena.contains_iff.mpr ⟨data, hdata⟩
  have hcontained : s.arena.contains id := NodeArena.contains_of_size_le hid.size_le hcontains
  have hnot {slot : NodeId} (hslot : slot ∈ data.slots) : ¬ arena.Reaches slot id :=
    htree.not_reaches_of_mem_slots (hid.reaches hdata) hdata hslot
  have hapart := htree.pairwise_apart_slots (hid.reaches hdata) hdata
  have hpending (slot : NodeId) (hslot : slot ∈ data.calls.map Prod.fst) :=
    context.isPending_of_mem_calls hclosed htree hdata hid hslot
  have hshows (d : Diagnostic) :=
    shows_mapM (d := d) hclosed htree ih (data.map_fst_calls ▸ hapart) hpending
  have hconstruct := (context.finds_checkConstruct id data s).changes
  have hvisits := context.changesOnly_mapM_calls hclosed htree levels hdata hid
  have hrelinked := context.data?_relink hclosed htree levels hdata hid after
  -- the three steps of the move, each from the state that the one before leaves
  set checked := ((context.settle (checkConstruct id data)).run s).2
  set visited := (data.calls.mapM fun (slot, isCallee) => context.visitTo levels slot isCallee).run
    checked
  set linked : PassState :=
    { visited.2 with arena := visited.2.arena.setData id (data.withSlots visited.1) }
  have hlinks : ChangesOnly (· = id) visited.2.arena linked.arena :=
    NodeArena.changesOnly_setData _ id _
  have hlinked : linked.arena.contains id :=
    hlinks.contains (hvisits.contains (hconstruct.contains hcontained))
  refine ⟨visited.1, ?_, hrelinked, fun d hd => ?_⟩
  · rw [length_mapM, ← data.map_fst_calls, List.length_map]
  rcases noted_settle (fun fault hmem => (hafter fault hmem).1) hlinked hd with
    hd | ⟨hfaults, hnode, hnoted⟩
  · rcases hshows d hd with hd | ⟨slot, answer, hmem, hnames, hshown⟩
    · rcases noted_settle (checkConstruct_node id data) hcontained hd with
        hd | ⟨hfaults, hnode, hnoted⟩
      · exact .inl hd
      · have hvisited : visited.2.arena.Noted id (messageComment d.message) :=
          hnoted.frame hvisits fun ⟨_, hslot, hreach⟩ => hnot hslot hreach
        exact .inr (.inl ⟨.inl hfaults, hnode, noted_settle_of_noted (hvisited.setData _ _)⟩)
    · rw [data.map_fst_calls] at hmem
      have hother {below : NodeId} (hown : arena.Own slot below) : ¬ below = id :=
        fun heq => hnot (List.of_mem_zip hmem).1 (heq ▸ hown (heq ▸ hcontains))
      have hsettles := (context.finds_settle hafter linked).changes
      refine .inr (.inr ⟨slot, answer, hmem, hnames, ?_⟩)
      exact (hshown.frame hlinks fun _ _ => hother).frame hsettles fun _ _ => hother
  · exact .inr (.inl ⟨.inr hfaults, hnode, hnoted⟩)

section

variable {id : NodeId} {s : PassState} (hid : arena.IsPending root s.arena id)
  (hnames : arena.NamesWellPlaced root) (hnot : ¬ arena.OnlyNamesBelow id) (isCallee : Bool)

include hid hnot

/-- A unit shows what is reported on the way, flattened or not. -/
theorem showsAt_visitUnit {externs usings attributeLists members : List NodeId}
    (hdata : arena.data? id = some (.compilationUnit externs usings attributeLists members)) :
    ShowsAt arena id s ((context.visitNode (context.visitTo levels) id
      (.compilationUnit externs usings attributeLists members) isCallee).run s) := by
  have hnothing : Inspection.BlamesOnly id (pure ()) := .nothing
  obtain ⟨ids, hrelinked⟩ := exists_relinked hclosed htree ih hdata hid hnothing
  have hsize := (findsAt_relink hclosed htree (context.findsAt_visitTo hclosed htree levels) hdata
    hid hnothing).finds.changes.size_le
  set visited := (context.relink (context.visitTo levels) id
    (.compilationUnit externs usings attributeLists members) (pure ())).run s with hvisited
  rw [visitNode_unit _ _ (context.visitTo_none levels), PassM.run_bind, ← hvisited]
  split
  · exact hrelinked.showsAt hdata hnot (fun _ hname => absurd hname List.not_mem_nil)
      (absurd rfl)
  · intro d hd
    rcases hrelinked.shows d hd with hd | ⟨hfaults, -⟩ | ⟨slot, answer, hmem, -, hshown⟩
    · exact .inl hd
    · exact hfaults.elim (absurd rfl) (absurd rfl)
    · obtain ⟨hslot, hanswer⟩ := List.of_mem_zip hmem
      have hown := hshown.mono fun below hown => hown.ofSlot hdata hslot
      rw [← NodeData.slots_withSlots hrelinked.length_eq] at hanswer
      refine .inr ⟨hnot, hown.flatten hrelinked.data?_eq hanswer _ fun hcontains => ?_⟩
      rcases NodeArena.flatten_fst_eq_or visited.2.arena id context.namespaces.root with heq | hnew
      · rw [heq]
        exact .refl
      · exact absurd (NodeArena.contains_of_size_le (Nat.le_trans hid.size_le hsize) hcontains) hnew

include hnames

/-- Where the names of imports and namespaces are names, and these are found no fault with, a
relinked node shows what is reported on the way. -/
theorem showsAt_relink {data : NodeData} (hdata : arena.data? id = some data)
    {after : Inspection Unit} (hafter : after.BlamesOnly id)
    (hfaults : data.nameSlots ≠ [] → (checkConstruct id data).faults = [] ∧ after.faults = []) :
    ShowsAt arena id s ((context.relink (context.visitTo levels) id data after).run s) := by
  obtain ⟨ids, hrelinked⟩ := exists_relinked hclosed htree ih hdata hid hafter
  refine hrelinked.showsAt hdata hnot (fun name hname => ?_) hfaults
  exact (hnames.names id data (hid.reaches hdata) hdata name
    (data.nameSlots_subset_nameParts hname)).onlyNamesBelow

/-- What is reported of an access is shown at its name, if that is what stands in its place. -/
theorem showsAt_visitMemberAccess {expression name : NodeId}
    (hdata : arena.data? id = some (.memberAccess expression name)) :
    ShowsAt arena id s ((context.visitMemberAccess (context.visitTo levels) id expression name
      isCallee).run s) := by
  rw [run_visitMemberAccess]
  split
  · have hslot : name ∈ (NodeData.memberAccess expression name).slots := by simp [NodeData.slots]
    have hname := hid.slot hclosed hdata hslot
    have hreach := hid.reaches hdata
    have honly := (hnames.names id _ hreach hdata name List.mem_cons_self).onlyNamesBelow
    obtain ⟨other, hother, hsimple⟩ :=
      hnames.simpleNames id _ hreach hdata name List.mem_cons_self
    have hsame := context.diagnostics_eq_of_onlyNames hclosed htree levels honly hname false
    obtain ⟨hsteady, hnoNames⟩ := NodeData.isSteady_of_isSimpleName hsimple
    obtain ⟨hanswer, ids, hafter⟩ :=
      context.exists_data?_visitTo_of_isSteady hclosed htree levels hother hname hsteady false
    set visited := (context.visitTo levels name false).run s
    set copied : PassState :=
      { visited.2 with arena := visited.2.arena.copyComments id visited.1 }
    set checked := (context.settle (context.checkMemberAccess id visited.1 isCallee)).run copied
    -- the visit gives out the simple name itself, as it is steady
    have hown : arena.Own id visited.1 := by
      rw [hanswer]
      exact .ofSlot (fun _ => .refl) hdata hslot
    rw [← hanswer] at hafter
    have hcopied : copied.arena.data? visited.1 = some (other.withSlots ids) :=
      ((NodeArena.sameShape_copyComments _ _ _).data?_eq visited.1).trans hafter
    have hchecked : checked.2.arena.data? visited.1 = some (other.withSlots ids) :=
      (data?_settle _ copied visited.1).trans hcopied
    have hstays : (other.withSlots ids).nameSlots = [] :=
      NodeData.nameSlots_withSlots_eq_nil hnoNames ids
    intro d hd
    rcases noted_settle (fun fault hmem =>
      (context.blamesOnly_checkMemberAccess id visited.1 isCallee fault hmem).1)
      (NodeArena.contains_iff.mpr ⟨_, hcopied⟩) hd with hd | ⟨-, hnode, hnoted⟩
    · exact .inl (hsame ▸ hd)
    · refine .inr ⟨hnot, ?_⟩
      rw [hnode]
      exact ⟨.refl, hown, ⟨_, hchecked, hstays⟩, hnoted⟩
  · exact showsAt_relink hclosed htree ih hid hnames hnot hdata
      (context.blamesOnly_checkMemberAccess id id isCallee) (absurd rfl)

/-- The visit of a node shows what it reports, if visits of its slots do so. -/
theorem showsAt_visitNode {data : NodeData} (hdata : arena.data? id = some data) :
    ShowsAt arena id s ((context.visitNode (context.visitTo levels) id data isCallee).run s) := by
  cases hsteady : data.isSteady with
  | true =>
      rw [run_visitNode_of_isSteady _ _ (context.visitTo_none levels) hsteady]
      refine showsAt_relink hclosed htree ih hid hnames hnot hdata
        (context.blamesOnly_checkAfter s.arena id data isCallee) fun hne => ?_
      cases data
      case usingDirective | namespaceDeclaration => exact ⟨rfl, rfl⟩
      all_goals exact absurd rfl hne
  | false =>
      cases data
      case qualifiedName left right =>
        exact absurd (hnames.namesHoldNames id left right (hid.reaches hdata) hdata) hnot
      case memberAccess =>
        exact showsAt_visitMemberAccess hclosed htree ih hid hnames hnot isCallee hdata
      case compilationUnit => exact showsAt_visitUnit hclosed htree ih hid hnot isCallee hdata
      all_goals cases hsteady

end

end

section

variable (context) {root : NodeId} (hclosed : arena.IsClosed) (htree : arena.IsTree root)
  (hnames : arena.NamesWellPlaced root)

include hclosed htree hnames

/-- Whatever is reported in a visit is shown below the answer. -/
theorem showsAt_visitTo (levels : Nat) (id : NodeId) (isCallee : Bool) (s : PassState)
    (hid : arena.IsPending root s.arena id) :
    ShowsAt arena id s ((context.visitTo levels id isCallee).run s) := by
  induction levels generalizing id isCallee s with
  | zero => exact fun d => .inl
  | succ levels ih =>
      by_cases honly : arena.OnlyNamesBelow id
      · intro d hd
        rw [context.diagnostics_eq_of_onlyNames hclosed htree _ honly hid] at hd
        exact .inl hd
      · have hsame : s.arena.data? id = arena.data? id := hid.agree.data?_eq
        cases hdata : arena.data? id with
        | none =>
            rw [run_visitTo_of_data?_eq_none _ (hsame.trans hdata)]
            exact fun d => .inl
        | some data =>
            rw [run_visitTo_of_data? _ (hsame.trans hdata)]
            exact showsAt_visitNode hclosed htree ih hid hnames honly isCallee hdata

end

/-- A unit that declares the namespace `App` with the body `qualifiedUses` in a method. -/
def qualifiedUsesUnit : NodeArena where
  nodes := qualifiedUses.nodes ++ #[
    { data := .identifierName "App" },
    { data := .methodDeclaration "Run" [.ofIndex 7] },
    { data := .typeDeclaration "class" "Main" [.ofIndex 9] },
    { data := .namespaceDeclaration (.ofIndex 8) [] [] [.ofIndex 10] },
    { data := .compilationUnit [] [] [] [.ofIndex 11] }]

end PassContext

end Portability
