import Portability.Proofs.Pass.Effect
import Portability.Proofs.Pass.Moves
import Portability.Proofs.Tree.Spelling

/-!
# What a pass finds

What a pass finds in a tree can be read off the tree as it is before the pass. `findingsTo` does so:
it makes the checks of the pass in the order of the visits, but changes nothing.

That the pass finds the same (`findsAt_visitTo`, `findsAt_runFrom`) is because a visit only touches
what is below the visited node, and new nodes. In a tree whatever is still to be visited is
therefore *pending*: as it was at the start. Only the nodes that are blamed may differ, since an
access is found fault with at the node that stands in its place.
-/

namespace Portability

open NodeArena (ChangesOnly)

/-! ### Findings -/

namespace PassContext

variable (context : PassContext)

/-- The parts of a qualified name that are visited: none of a known namespace's name, the name alone
where a known namespace qualifies it, and else both. -/
def visitedParts (arena : NodeArena) (id left right : NodeId) : List NodeId :=
  let qualifier := arena.spell left
  if context.namespaces.contains (arena.spell id) then []
  else if context.namespaces.contains qualifier ||
      (context.namespaces.longestBelow? qualifier).isSome then [right]
  else [left, right]

/-- The slots of a node that a pass goes on to: the visited parts of a qualified name, and all slots
of any other node. -/
def visitedSlots (arena : NodeArena) (id : NodeId) : NodeData → List NodeId
  | .qualifiedName left right => context.visitedParts arena id left right
  | data => data.slots

/-- What the visited slots of a node hold, each with whether it is called. -/
def visitedCalls (arena : NodeArena) (id : NodeId) : NodeData → List (NodeId × Bool)
  | .qualifiedName left right => (context.visitedParts arena id left right).map (·, false)
  | data => data.calls

/-- What is found on the given number of levels below and including a node. -/
def findingsTo (arena : NodeArena) : Nat → NodeId → Bool → Inspection Unit
  | 0, _, _ => pure ()
  | levels + 1, id, isCallee =>
    match arena.data? id with
    | none => pure ()
    | some data => do
      checkConstruct id data
      (context.visitedCalls arena id data).forM fun (slot, isCallee) =>
        findingsTo arena levels slot isCallee
      context.checkAfter arena id data isCallee

/-- What a pass over the tree below a root finds. -/
def findings (arena : NodeArena) (root : NodeId) : Inspection Unit :=
  context.findingsTo arena maxDepth root false

variable {arena : NodeArena} {id : NodeId}

/-- A pass goes on to slots of the node only. -/
theorem visitedSlots_sublist (arena : NodeArena) (id : NodeId) (data : NodeData) :
    (context.visitedSlots arena id data).Sublist data.slots := by
  cases data
  case qualifiedName left right =>
    simp only [visitedSlots, visitedParts]
    split
    · exact List.nil_sublist _
    · split
      · exact List.sublist_cons_self left [right]
      · exact List.Sublist.refl _
  all_goals exact List.Sublist.refl _

/-- The calls of a pass are of the slots that it goes on to. -/
theorem map_fst_visitedCalls (arena : NodeArena) (id : NodeId) (data : NodeData) :
    (context.visitedCalls arena id data).map Prod.fst = context.visitedSlots arena id data := by
  have hcalls := data.map_fst_calls
  cases data
  case qualifiedName => simp [visitedCalls, visitedSlots, Function.comp_def]
  all_goals exact hcalls

/-- The calls of a pass are of slots of the node. -/
theorem mem_slots_of_mem_visitedCalls {data : NodeData} {call : NodeId × Bool}
    (h : call ∈ context.visitedCalls arena id data) : call.1 ∈ data.slots := by
  refine (context.visitedSlots_sublist arena id data).subset ?_
  rw [← context.map_fst_visitedCalls]
  exact List.mem_map_of_mem h

/-- A pass goes on to all slots of a steady node. -/
theorem visitedCalls_of_isSteady {data : NodeData} (h : data.isSteady) :
    context.visitedCalls arena id data = data.calls := by
  cases data
  case qualifiedName => cases h
  all_goals rfl

/-- Nothing is found at what is no node. -/
theorem findingsTo_of_data?_eq_none (h : arena.data? id = none) (levels : Nat) (isCallee : Bool) :
    context.findingsTo arena levels id isCallee = pure () := by
  cases levels with
  | zero => rfl
  | succ levels => rw [findingsTo, h]

/-- What is found at a node: whether it is a construct, what is found at the slots that are visited,
and what is checked afterwards. -/
theorem findingsTo_of_data? {data : NodeData} (h : arena.data? id = some data) (levels : Nat)
    (isCallee : Bool) :
    context.findingsTo arena (levels + 1) id isCallee = (do
      checkConstruct id data
      (context.visitedCalls arena id data).forM fun (slot, isCallee) =>
        context.findingsTo arena levels slot isCallee
      context.checkAfter arena id data isCallee) := by
  rw [findingsTo, h]

/-- An identifier is found no fault with. -/
theorem findingsTo_identifier {text : String} (h : arena.data? id = some (.identifierName text))
    (levels : Nat) (isCallee : Bool) : context.findingsTo arena levels id isCallee = pure () := by
  cases levels with
  | zero => rfl
  | succ levels =>
      rw [findingsTo_of_data? _ h]
      rfl

end PassContext

/-! ### Pending nodes -/

namespace NodeArena

/-- Whether a handle of a tree is yet to be visited in a later arena: it names no node, or one of
the tree, and everything below it still is as it was. -/
structure IsPending (arena : NodeArena) (root : NodeId) (later : NodeArena) (id : NodeId) :
    Prop where
  place : id = .none ∨ arena.contains id ∧ arena.Reaches root id
  agree : arena.AgreeBelow later id
  size_le : arena.size ≤ later.size

namespace IsPending

variable {arena later : NodeArena} {root id : NodeId}

/-- The slots of a pending node are pending. -/
theorem slot (h : arena.IsPending root later id) (hclosed : arena.IsClosed) {data : NodeData}
    (hdata : arena.data? id = some data) {slot : NodeId} (hslot : slot ∈ data.slots) :
    arena.IsPending root later slot := by
  refine ⟨?_, h.agree.slot hdata hslot, h.size_le⟩
  refine (eq_none_or_mem_children hdata hslot).imp_right fun hchild => ?_
  rcases h.place with rfl | ⟨-, hreach⟩
  · exact absurd hdata (by simp)
  · exact ⟨hclosed id slot hchild, hreach.tail hchild⟩

/-- A pending node is one of the tree. -/
theorem reaches (h : arena.IsPending root later id) {data : NodeData}
    (hdata : arena.data? id = some data) : arena.Reaches root id := by
  rcases h.place with rfl | ⟨-, hreach⟩
  · exact absurd hdata (by simp)
  · exact hreach

/-- What is below a pending node is a node of the tree's arena. -/
theorem contains_of_reaches (h : arena.IsPending root later id) (hclosed : arena.IsClosed)
    {below : NodeId} (hsome : below.isSome) (hbelow : arena.Reaches id below) :
    arena.contains below := by
  rcases h.place with rfl | ⟨hcontains, -⟩
  · rw [hbelow.eq_of_data?_eq_none data?_none] at hsome
    exact absurd hsome (by decide)
  · exact hclosed.contains_of_reaches hcontains hbelow

/-- What changes elsewhere keep is still pending. -/
theorem keep (h : arena.IsPending root later id) (hclosed : arena.IsClosed)
    {footprint : NodeId → Prop} {last : NodeArena} (hchanges : ChangesOnly footprint later last)
    (hnot : ∀ below, arena.contains below → arena.Reaches id below → ¬ footprint below) :
    arena.IsPending root last id := by
  refine ⟨h.place, fun below hbelow => ?_, Nat.le_trans h.size_le hchanges.size_le⟩
  rcases h.place with rfl | ⟨hcontains, -⟩
  · rw [hbelow.eq_of_data?_eq_none data?_none]
    rfl
  · have hbelow' := hclosed.contains_of_reaches hcontains hbelow
    rw [hchanges.data?_eq (contains_of_size_le h.size_le hbelow') (hnot below hbelow' hbelow),
      h.agree below hbelow]

/-- Added nodes leave everything pending. -/
theorem grow (h : arena.IsPending root later id) (hclosed : arena.IsClosed) {last : NodeArena}
    (hchanges : ChangesOnly (fun _ => False) later last) : arena.IsPending root last id :=
  h.keep hclosed hchanges fun _ _ _ hfalse => hfalse

/-- What the slots of a node hold is still pending after changes of the node alone. -/
theorem slot_of_changes (h : arena.IsPending root later id) (hclosed : arena.IsClosed)
    (htree : arena.IsTree root) {data : NodeData} (hdata : arena.data? id = some data)
    {slot : NodeId} (hslot : slot ∈ data.slots) {last : NodeArena}
    (hchanges : ChangesOnly (· = id) later last) : arena.IsPending root last slot :=
  (h.slot hclosed hdata hslot).keep hclosed hchanges fun _ _ hbelow heq =>
    htree.not_reaches_of_mem_slots (h.reaches hdata) hdata hslot (heq ▸ hbelow)

/-- A pending node is spelled as it was. -/
theorem spell_eq (h : arena.IsPending root later id) (htree : arena.IsTree root) :
    later.spell id = arena.spell id := by
  refine h.agree.spell_eq ?_ h.size_le
  rcases h.place with rfl | ⟨-, hreach⟩
  · exact fitsIn_none _
  · exact (htree.isAcyclicBelow hreach).fitsIn_size

end IsPending

end NodeArena

/-- What is checked after the visit of a node goes by the data of what its slots hold. -/
theorem PassContext.checkAfter_congr (context : PassContext) {arena other : NodeArena}
    {data : NodeData} (h : ∀ slot ∈ data.slots, other.data? slot = arena.data? slot) (id : NodeId)
    (isCallee : Bool) :
    context.checkAfter other id data isCallee = context.checkAfter arena id data isCallee := by
  cases data
  case invocation callee arguments =>
    obtain ⟨hcallee, harguments⟩ := List.forall_mem_cons.mp h
    have hsplit : ArgumentPlan.splitArguments other arguments =
        ArgumentPlan.splitArguments arena arguments := by
      clear h
      induction arguments with
      | nil => rfl
      | cons argument rest ih =>
          obtain ⟨hfirst, hrest⟩ := List.forall_mem_cons.mp harguments
          simp only [ArgumentPlan.splitArguments, hfirst, ih hrest]
    simp only [checkAfter, plannedCall?, extensionReceiver?, ArgumentPlan.ofCall, hcallee, hsplit]
  all_goals rfl

/-! ### Visits -/

namespace PassContext

/-- Whether a visit of a pending node finds what is expected, within what is below the node, and
answers with a node from there or with a new one. -/
structure FindsAt (context : PassContext) (arena : NodeArena) (expected : Inspection Unit)
    (id : NodeId) (s : PassState) (answer : NodeId × PassState) : Prop where
  finds : context.Finds (arena.Reaches id) expected s answer.2
  place : s.arena.contains answer.1 → arena.Reaches id answer.1

variable {context : PassContext} {arena : NodeArena} {root : NodeId}
  (hclosed : arena.IsClosed) (htree : arena.IsTree root)

include hclosed in
/-- Visits one after the other of pending nodes with nothing below two of them. -/
theorem finds_mapM {visit : Visitor} {find : NodeId → Bool → Inspection Unit}
    (hvisit : ∀ id isCallee s, arena.IsPending root s.arena id →
      context.FindsAt arena (find id isCallee) id s ((visit id isCallee).run s))
    {calls : List (NodeId × Bool)} (hapart : (calls.map Prod.fst).Pairwise arena.Apart)
    {s : PassState} (hpending : ∀ slot ∈ calls.map Prod.fst, arena.IsPending root s.arena slot) :
    context.Finds (fun below => ∃ slot ∈ calls.map Prod.fst, arena.Reaches slot below)
      (calls.forM fun (slot, isCallee) => find slot isCallee) s
      ((calls.mapM fun (slot, isCallee) => visit slot isCallee).run s).2 := by
  induction calls generalizing s with
  | nil => exact .nothing _ s
  | cons call rest ih =>
      obtain ⟨hfirst, hrest⟩ := List.pairwise_cons.mp hapart
      obtain ⟨hcall, hothers⟩ := List.forall_mem_cons.mp hpending
      have hhead := (hvisit call.1 call.2 s hcall).finds
      have htail := ih hrest fun other hmem => (hothers other hmem).keep hclosed hhead.changes
        fun below hcontains hother hreach => hfirst other hmem below hcontains hreach hother
      rw [List.mapM_cons]
      refine .trans (hhead.mono fun below _ hbelow => ⟨call.1, List.mem_cons_self, hbelow⟩) htail ?_
      exact fun below _ ⟨other, hmem, hbelow⟩ => ⟨other, List.mem_cons_of_mem _ hmem, hbelow⟩

section

variable {levels : Nat} (ih : ∀ id isCallee s, arena.IsPending root s.arena id →
  context.FindsAt arena (context.findingsTo arena levels id isCallee) id s
    ((context.visitTo levels id isCallee).run s))

include hclosed ih

include htree in
/-- Visiting what the slots of a node hold finds what is below them. -/
theorem finds_visitSlots {id : NodeId} {data : NodeData} {s : PassState}
    (hdata : arena.data? id = some data) (hid : arena.Reaches root id)
    (hslots : ∀ slot ∈ data.slots, arena.IsPending root s.arena slot) :
    context.Finds (arena.Reaches id)
      (data.calls.forM fun (slot, isCallee) => context.findingsTo arena levels slot isCallee) s
      ((visitSlots (context.visitTo levels) id data).run s).2 := by
  have hapart := htree.pairwise_apart_slots hid hdata
  rw [← data.map_fst_calls] at hapart hslots
  have hmapM := finds_mapM hclosed ih hapart hslots
  refine .thenChanges (hmapM.mono fun below hcontains ⟨slot, hmem, hbelow⟩ => ?_)
    (NodeArena.changesOnly_setData _ id _) fun _ _ heq => heq ▸ .refl
  rw [data.map_fst_calls] at hmem
  exact .ofSlot hdata hmem (NodeArena.isSome_of_contains hcontains) hbelow

include htree in
/-- Relinking a node finds what is found at it and below it. -/
theorem findsAt_relink {id : NodeId} {data : NodeData} {s : PassState}
    (hdata : arena.data? id = some data) (hid : arena.IsPending root s.arena id)
    {after : Inspection Unit} (hafter : after.BlamesOnly id) :
    context.FindsAt arena
      (do
        checkConstruct id data
        data.calls.forM fun (slot, isCallee) => context.findingsTo arena levels slot isCallee
        after)
      id s ((context.relink (context.visitTo levels) id data after).run s) := by
  have hconstruct := context.finds_checkConstruct id data s
  have hslots := finds_visitSlots hclosed htree ih hdata (hid.reaches hdata) fun slot hmem =>
    hid.slot_of_changes hclosed htree hdata hmem hconstruct.changes
  have hrest := hslots.trans (context.finds_settle hafter _) fun _ _ heq => heq ▸ .refl
  refine ⟨?_, fun _ => .refl⟩
  exact .trans (hconstruct.mono fun _ _ heq => heq ▸ .refl) hrest fun _ _ hbelow => hbelow

/-- Letting a part stand for a node finds what is below the part. -/
theorem findsAt_standIn {id part : NodeId} {data : NodeData} {s : PassState}
    (hdata : arena.data? id = some data) (hmem : part ∈ data.slots)
    (hid : arena.IsPending root s.arena id) :
    context.FindsAt arena (context.findingsTo arena levels part false) id s
      ((standIn (context.visitTo levels) id part).run s) := by
  have hpart := ih part false s (hid.slot hclosed hdata hmem)
  have hbelow (below : NodeId) (hcontains : s.arena.contains below)
      (hreach : arena.Reaches part below) : arena.Reaches id below :=
    .ofSlot hdata hmem (NodeArena.isSome_of_contains hcontains) hreach
  have hplace (hcontains : s.arena.contains ((context.visitTo levels part false).run s).1) :=
    hbelow _ hcontains (hpart.place hcontains)
  refine ⟨?_, hplace⟩
  exact .thenChanges (hpart.finds.mono hbelow) (NodeArena.changesOnly_copyComments _ id _)
    fun below hcontains heq => heq ▸ hplace (heq ▸ hcontains)

/-- Putting the right part of a name behind another qualifier adds nodes besides. -/
theorem findsAt_requalify {id left right : NodeId} {s : PassState}
    (hdata : arena.data? id = some (.qualifiedName left right))
    (hid : arena.IsPending root s.arena id) (qualifier : String) :
    context.FindsAt arena (context.findingsTo arena levels right false) id s
      ((requalify (context.visitTo levels) id qualifier right).run s) := by
  have hmem : right ∈ (NodeData.qualifiedName left right).slots := by simp [NodeData.slots]
  set built := s.arena.dottedName qualifier
  have hbuilt (F : NodeId → Prop) : ChangesOnly F s.arena built.2 :=
    NodeArena.changesOnly_dottedName F s.arena qualifier
  have hpending : arena.IsPending root built.2 right :=
    (hid.slot hclosed hdata hmem).grow hclosed (hbuilt _)
  have hright := (ih right false { s with arena := built.2 } hpending).finds
  set visited := (context.visitTo levels right false).run { s with arena := built.2 }
  have hvisited : context.Finds (arena.Reaches id) (context.findingsTo arena levels right false) s
      visited.2 :=
    .afterChanges (hbuilt _) hright fun below hcontains hreach =>
      .ofSlot hdata hmem (NodeArena.isSome_of_contains hcontains) hreach
  set added := visited.2.arena.alloc (.qualifiedName built.1 visited.1)
  have hadded : ChangesOnly (arena.Reaches id) visited.2.arena added.2 :=
    NodeArena.changesOnly_alloc _ _ _
  have hnew (hcontains : s.arena.contains added.1) : False :=
    NodeArena.not_contains_alloc visited.2.arena _ (hvisited.changes.contains hcontains)
  refine ⟨?_, fun hcontains => (hnew hcontains).elim⟩
  exact .thenChanges (.thenChanges hvisited hadded fun _ _ hbelow => hbelow)
    (NodeArena.changesOnly_copyComments added.2 id added.1)
    fun below hcontains heq => (hnew (heq ▸ hcontains)).elim

include htree

/-- The visit of a qualified name finds what is to be found at it and below. -/
theorem findsAt_visitQualifiedName {id left right : NodeId} {s : PassState}
    (hdata : arena.data? id = some (.qualifiedName left right))
    (hid : arena.IsPending root s.arena id) (isCallee : Bool) :
    context.FindsAt arena (context.findingsTo arena (levels + 1) id isCallee) id s
      ((context.visitQualifiedName (context.visitTo levels) id left right).run s) := by
  have hmem : right ∈ (NodeData.qualifiedName left right).slots := by simp [NodeData.slots]
  have hqualifier : s.arena.spell left = arena.spell left :=
    (hid.slot hclosed hdata (by simp [NodeData.slots])).spell_eq htree
  rw [run_visitQualifiedName, hid.spell_eq htree, hqualifier, findingsTo_of_data? _ hdata,
    visitedCalls, visitedParts]
  cases context.namespaces.contains (arena.spell id) with
  | true => exact ⟨.nothing _ s, fun _ => .refl⟩
  | false =>
      cases context.namespaces.contains (arena.spell left) with
      | true =>
          obtain ⟨hfinds, hplace⟩ := findsAt_standIn hclosed ih hdata hmem hid
          refine ⟨hfinds.congr ?_ ?_, hplace⟩
          · simp [checkConstruct_faults, unsupported?, checkAfter, checkTypes]
          · simp [checkConstruct_misses, checkAfter, checkTypes]
      | false =>
          cases context.namespaces.longestBelow? (arena.spell left) with
          | some longest =>
              obtain ⟨hfinds, hplace⟩ := findsAt_requalify hclosed ih hdata hid longest.2
              refine ⟨hfinds.congr ?_ ?_, hplace⟩
              · simp [checkConstruct_faults, unsupported?, checkAfter, checkTypes]
              · simp [checkConstruct_misses, checkAfter, checkTypes]
          | none => exact findsAt_relink hclosed htree ih hdata hid .nothing

/-- An access is found fault with at what stands in its place. Where that is its name, the
expression is an identifier, which is found no fault with. -/
theorem findsAt_visitMemberAccess {id expression name : NodeId} {s : PassState}
    (hdata : arena.data? id = some (.memberAccess expression name))
    (hid : arena.IsPending root s.arena id) (isCallee : Bool) :
    context.FindsAt arena (context.findingsTo arena (levels + 1) id isCallee) id s
      ((context.visitMemberAccess (context.visitTo levels) id expression name isCallee).run s) := by
  rw [run_visitMemberAccess, findingsTo_of_data? _ hdata]
  split
  · next hqualifier =>
      have hexpression : s.arena.data? expression = arena.data? expression :=
        (hid.agree.slot hdata (by simp [NodeData.slots])).data?_eq
      obtain ⟨text, htext⟩ : ∃ text, arena.data? expression = some (.identifierName text) := by
        unfold isNamespaceQualifier at hqualifier
        rw [hexpression] at hqualifier
        split at hqualifier
        · next text htext => exact ⟨text, htext⟩
        · exact absurd hqualifier Bool.false_ne_true
      have hslot : name ∈ (NodeData.memberAccess expression name).slots := by
        simp [NodeData.slots]
      obtain ⟨hfinds, hplace⟩ := findsAt_standIn hclosed ih hdata hslot hid
      set visited := (standIn (context.visitTo levels) id name).run s
      -- the check reports on the name that stands in what it would report on the access
      have hcheck : context.Finds (· = visited.1) (context.checkMemberAccess id id isCallee)
          visited.2
          ((context.settle (context.checkMemberAccess id visited.1 isCallee)).run visited.2).2 :=
        ⟨_, context.alike_checkMemberAccess id id visited.1 isCallee,
          context.effect_settle (fun fault hmem =>
            (context.blamesOnly_checkMemberAccess id visited.1 isCallee fault hmem).1) visited.2⟩
      refine ⟨.congr (hfinds.trans hcheck fun below hcontains heq =>
        heq ▸ hplace (heq ▸ hcontains)) ?_ ?_, hplace⟩
      · simp [visitedCalls, NodeData.calls, NodeData.slots, checkConstruct_faults, unsupported?,
          findingsTo_identifier _ htext, checkAfter]
      · simp [visitedCalls, NodeData.calls, NodeData.slots, checkConstruct_misses,
          findingsTo_identifier _ htext, checkAfter]
  · exact findsAt_relink hclosed htree ih hdata hid
      (context.blamesOnly_checkMemberAccess id id isCallee)

/-- Flattening adds a node and finds nothing. -/
theorem findsAt_visitUnit {id : NodeId} {externs usings attributeLists members : List NodeId}
    {s : PassState} (hdata : arena.data? id =
      some (.compilationUnit externs usings attributeLists members))
    (hid : arena.IsPending root s.arena id) (isCallee : Bool) :
    context.FindsAt arena (context.findingsTo arena (levels + 1) id isCallee) id s
      ((context.visitNode (context.visitTo levels) id
        (.compilationUnit externs usings attributeLists members) isCallee).run s) := by
  have hnothing : Inspection.BlamesOnly id (pure ()) := .nothing
  have hrelink := findsAt_relink hclosed htree ih hdata hid hnothing
  set visited := (context.relink (context.visitTo levels) id
    (.compilationUnit externs usings attributeLists members) (pure ())).run s with hvisited
  rw [findingsTo_of_data? _ hdata, visitNode_unit _ _ (context.visitTo_none levels),
    PassM.run_bind, ← hvisited]
  split
  · exact hrelink
  · set root := context.namespaces.root
    have hflat : ChangesOnly (arena.Reaches id) _ _ :=
      NodeArena.changesOnly_flatten _ visited.2.arena visited.1 root
    refine ⟨hrelink.finds.thenChanges hflat fun _ _ hbelow => hbelow, fun hcontains => ?_⟩
    change arena.Reaches id (visited.2.arena.flatten visited.1 root).1
    rcases NodeArena.flatten_fst_eq_or visited.2.arena visited.1 root with heq | hnew
    · rw [heq]
      exact .refl
    · exact absurd (hrelink.finds.changes.contains hcontains) hnew

/-- The visit of a node finds what is to be found at it and below, if visits of its slots do so. -/
theorem findsAt_visitNode {id : NodeId} {data : NodeData} {s : PassState}
    (hdata : arena.data? id = some data) (hid : arena.IsPending root s.arena id)
    (isCallee : Bool) :
    context.FindsAt arena (context.findingsTo arena (levels + 1) id isCallee) id s
      ((context.visitNode (context.visitTo levels) id data isCallee).run s) := by
  cases hsteady : data.isSteady with
  | true =>
      have hafter := context.checkAfter_congr (fun slot hslot =>
        (hid.agree.slot hdata hslot).data?_eq) id isCallee
      rw [findingsTo_of_data? _ hdata, visitedCalls_of_isSteady _ hsteady,
        run_visitNode_of_isSteady _ _ (context.visitTo_none levels) hsteady, hafter]
      exact findsAt_relink hclosed htree ih hdata hid
        (context.blamesOnly_checkAfter arena id data isCallee)
  | false =>
      cases data
      case qualifiedName => exact findsAt_visitQualifiedName hclosed htree ih hdata hid isCallee
      case memberAccess => exact findsAt_visitMemberAccess hclosed htree ih hdata hid isCallee
      case compilationUnit => exact findsAt_visitUnit hclosed htree ih hdata hid isCallee
      all_goals cases hsteady

end

variable (context)

include hclosed htree in
/-- **A visit finds what can be read off the tree before it.** -/
theorem findsAt_visitTo (levels : Nat) (id : NodeId) (isCallee : Bool) (s : PassState)
    (hid : arena.IsPending root s.arena id) :
    context.FindsAt arena (context.findingsTo arena levels id isCallee) id s
      ((context.visitTo levels id isCallee).run s) := by
  induction levels generalizing id isCallee s with
  | zero => exact ⟨.nothing _ s, fun _ => .refl⟩
  | succ levels ih =>
      have hsame : s.arena.data? id = arena.data? id := hid.agree.data?_eq
      cases hdata : arena.data? id with
      | none =>
          rw [findingsTo_of_data?_eq_none _ hdata,
            run_visitTo_of_data?_eq_none _ (hsame.trans hdata)]
          exact ⟨.nothing _ s, fun _ => .refl⟩
      | some data =>
          rw [run_visitTo_of_data? _ (hsame.trans hdata)]
          exact findsAt_visitNode hclosed htree ih hdata hid isCallee

/-- At the start of a pass its root is pending. -/
theorem isPending_root (hroot : arena.contains root) : arena.IsPending root arena root :=
  ⟨.inr ⟨hroot, .refl⟩, fun _ _ => rfl, Nat.le_refl _⟩

include hclosed htree in
/-- A pass over a tree finds what can be read off it before. -/
theorem findsAt_runFrom (misses : MissLog) :
    context.FindsAt arena (context.findings arena root) root { arena, misses }
      (context.runFrom misses arena root) := by
  cases hroot : arena.contains root with
  | true =>
      exact context.findsAt_visitTo hclosed htree maxDepth root false { arena, misses }
        (isPending_root hroot)
  | false =>
      have hnone := NodeArena.data?_eq_none_iff.mpr hroot
      rw [findings, findingsTo_of_data?_eq_none _ hnone, runFrom, run,
        run_visitTo_of_data?_eq_none _ hnone]
      exact ⟨.nothing _ _, fun _ => .refl⟩

end PassContext

end Portability
