import Portability.Proofs.Pass.Effect
import Portability.Proofs.Pass.Visits
import Portability.Proofs.Tree.Confinement

/-!
# Passes are confined to what they reach

A pass over a closed arena changes nothing but what its root reached, and leaves the arena closed
(`confined_of_runFrom`). The invariant is `NodeArena.Confined`: every handle that a visit is given
or answers is inside, and so is everything in the slots of what is inside. Each move keeps it, since
it links nodes inside to answers of visits and to nodes that it adds.

Nothing else is assumed: nodes may be shared or on cycles.
-/

namespace Portability

open NodeArena (Inside Confined)

variable {F : NodeId → Prop} {arena : NodeArena}

/-! ### Confined steps -/

/-- A step of a pass that stays confined and answers a handle that is inside. -/
structure ConfinedStep (F : NodeId → Prop) (arena : NodeArena) (s : PassState)
    (outcome : NodeId × PassState) : Prop where
  confined : Confined F arena outcome.2.arena
  size_le : s.arena.size ≤ outcome.2.arena.size
  inside : Inside F arena outcome.2.arena outcome.1

/-- A visitor that takes confined steps from handles that are inside. -/
def Visitor.IsConfined (F : NodeId → Prop) (arena : NodeArena) (visit : Visitor) : Prop :=
  ∀ id isCallee s, Confined F arena s.arena → Inside F arena s.arena id →
    ConfinedStep F arena s ((visit id isCallee).run s)

/-- A confined step may have been preceded by one that adds nodes. -/
theorem ConfinedStep.after {s t : PassState} {outcome : NodeId × PassState}
    (h : ConfinedStep F arena t outcome) (hsize : s.arena.size ≤ t.arena.size) :
    ConfinedStep F arena s outcome :=
  ⟨h.confined, Nat.le_trans hsize h.size_le, h.inside⟩

namespace PassContext

variable (context : PassContext)

/-! ### Faults -/

/-- Showing faults of nodes inside. -/
theorem confined_foldl_annotate {faults : List Fault} {later : NodeArena}
    (h : Confined F arena later) (hfaults : ∀ fault ∈ faults, Inside F arena later fault.node) :
    Confined F arena (faults.foldl context.annotate later) := by
  induction faults generalizing later with
  | nil => exact h
  | cons fault rest ih =>
      obtain ⟨hfault, hrest⟩ := List.forall_mem_cons.mp hfaults
      have hsize : later.size ≤ (context.annotate later fault).size :=
        (context.changesOnly_annotate later fault).size_le
      exact ih (h.prependComment hfault _) fun other hother => (hrest other hother).mono hsize

/-- Settling an inspection that blames nodes inside. -/
theorem confined_settle {inspection : Inspection Unit} {s : PassState}
    (h : Confined F arena s.arena)
    (hfaults : ∀ fault ∈ inspection.faults, Inside F arena s.arena fault.node) :
    Confined F arena ((context.settle inspection).run s).2.arena ∧
      s.arena.size ≤ ((context.settle inspection).run s).2.arena.size := by
  rw [run_settle]
  refine ⟨context.confined_foldl_annotate h hfaults, ?_⟩
  exact (context.changesOnly_foldl_annotate (fun _ _ => trivial) s.arena :
    NodeArena.ChangesOnly (fun _ => True) s.arena _).size_le

/-- Settling an inspection that blames one node is confined if the node is inside. -/
theorem confined_settle_of_blamesOnly {inspection : Inspection Unit} {id : NodeId} {s : PassState}
    (h : Confined F arena s.arena) (hid : Inside F arena s.arena id)
    (hblames : inspection.BlamesOnly id) :
    Confined F arena ((context.settle inspection).run s).2.arena ∧
      s.arena.size ≤ ((context.settle inspection).run s).2.arena.size :=
  context.confined_settle h fun fault hfault => (hblames fault hfault).1 ▸ hid

/-! ### Moves -/

/-- Visits one after the other answer as many handles, all inside. -/
theorem confined_visitAll {visit : Visitor} (hvisit : visit.IsConfined F arena)
    {calls : List (NodeId × Bool)} {s : PassState} (h : Confined F arena s.arena)
    (hcalls : ∀ call ∈ calls, Inside F arena s.arena call.1) :
    let run := (visitAll visit calls).run s
    Confined F arena run.2.arena ∧ s.arena.size ≤ run.2.arena.size ∧
      run.1.length = calls.length ∧ ∀ id ∈ run.1, Inside F arena run.2.arena id := by
  induction calls generalizing s with
  | nil => exact ⟨h, Nat.le_refl _, rfl, List.forall_mem_nil _⟩
  | cons call rest ih =>
      obtain ⟨hcall, hrest⟩ := List.forall_mem_cons.mp hcalls
      have hfirst := hvisit call.1 call.2 s h hcall
      rw [run_visitAll_cons]
      obtain ⟨hconfined, hsize, hlength, hinside⟩ := ih hfirst.confined
        fun other hother => (hrest other hother).mono hfirst.size_le
      refine ⟨hconfined, Nat.le_trans hfirst.size_le hsize, congrArg (· + 1) hlength, ?_⟩
      exact List.forall_mem_cons.mpr ⟨hfirst.inside.mono hsize, hinside⟩

/-- Relinking a node inside to handles inside. -/
theorem confinedStep_relinked {id : NodeId} {data : NodeData} {after : Inspection Unit}
    {ids : List NodeId} {s : PassState} (h : Confined F arena s.arena)
    (hid : Inside F arena s.arena id) (hids : ∀ id ∈ ids, Inside F arena s.arena id)
    (hlength : ids.length = data.slots.length) (hafter : after.BlamesOnly id) :
    ConfinedStep F arena s ((context.relinked id data after ids).run s) := by
  have hdata : ∀ slot ∈ (data.withSlots ids).slots, Inside F arena s.arena slot := by
    rwa [NodeData.slots_withSlots hlength]
  have hset : Confined F arena (s.arena.setData id (data.withSlots ids)) := h.setData hid hdata
  have hsize : s.arena.size ≤ (s.arena.setData id (data.withSlots ids)).size :=
    Nat.le_of_eq (NodeArena.size_modify s.arena id _).symm
  obtain ⟨hconfined, hgrown⟩ := context.confined_settle_of_blamesOnly
    (s := { s with arena := s.arena.setData id (data.withSlots ids) }) hset (hid.mono hsize) hafter
  exact ⟨hconfined, Nat.le_trans hsize hgrown, hid.mono (Nat.le_trans hsize hgrown)⟩

/-- A handle inside that stands in for another one. -/
theorem confinedStep_stoodIn (id : NodeId) {ids : List NodeId} {s : PassState}
    (h : Confined F arena s.arena) (hids : ∀ id ∈ ids, Inside F arena s.arena id) :
    ConfinedStep F arena s ((stoodIn id ids).run s) := by
  have hname := Inside.headD hids
  have hsize : (s.arena.copyComments id (ids.headD .none)).size = s.arena.size :=
    NodeArena.size_modify s.arena _ _
  exact ⟨h.copyComments hname id, Nat.le_of_eq hsize.symm, hname.mono (Nat.le_of_eq hsize.symm)⟩

/-- A new name of a qualifier and a name inside. -/
theorem confinedStep_requalified (id : NodeId) {left : NodeId} {ids : List NodeId} {s : PassState}
    (h : Confined F arena s.arena) (hleft : Inside F arena s.arena left)
    (hids : ∀ id ∈ ids, Inside F arena s.arena id) :
    ConfinedStep F arena s ((requalified id left ids).run s) := by
  have hslots : ∀ slot ∈ (NodeData.qualifiedName left (ids.headD .none)).slots,
      Inside F arena s.arena slot :=
    List.forall_mem_cons.mpr ⟨hleft, List.forall_mem_singleton.mpr (Inside.headD hids)⟩
  have hadded := h.inside_alloc (.qualifiedName left (ids.headD .none))
  have hsize := NodeArena.size_alloc s.arena (.qualifiedName left (ids.headD .none))
  have hcopied := NodeArena.size_modify
    (s.arena.alloc (.qualifiedName left (ids.headD .none))).2
  refine ⟨(h.alloc hslots).copyComments hadded id, ?_,
    hadded.mono (Nat.le_of_eq (hcopied _ _).symm)⟩
  exact Nat.le_trans (by omega) (Nat.le_of_eq (hcopied _ _).symm)

/-! ### Visits -/

section

variable {visit : Visitor} (hvisit : visit.IsConfined F arena) {s : PassState}
  (h : Confined F arena s.arena)

include hvisit h

/-- A part that stands in for a node is visited in a confined step. -/
theorem confinedStep_standIn (id : NodeId) {part : NodeId} (hpart : Inside F arena s.arena part) :
    ConfinedStep F arena s ((standIn visit id part).run s) := by
  have hcalls : ∀ call ∈ [(part, false)], Inside F arena s.arena call.1 :=
    List.forall_mem_singleton.mpr hpart
  obtain ⟨hconfined, hgrown, -, hids⟩ := confined_visitAll hvisit h hcalls
  rw [run_standIn, PassM.run_bind]
  exact (confinedStep_stoodIn id hconfined hids).after hgrown

/-- A name gets another qualifier in a confined step. -/
theorem confinedStep_requalify (id : NodeId) (qualifier : String) {right : NodeId}
    (hright : Inside F arena s.arena right) :
    ConfinedStep F arena s ((requalify visit id qualifier right).run s) := by
  let built : PassState := { s with arena := (s.arena.dottedName qualifier).2 }
  have hsize : s.arena.size ≤ built.arena.size :=
    (NodeArena.changesOnly_dottedName F s.arena qualifier).size_le
  obtain ⟨hbuilt, hleft⟩ := h.dottedName qualifier
  have hcalls : ∀ call ∈ [(right, false)], Inside F arena built.arena call.1 :=
    List.forall_mem_singleton.mpr (hright.mono hsize)
  obtain ⟨hconfined, hgrown, -, hids⟩ := confined_visitAll hvisit (s := built) hbuilt hcalls
  rw [run_requalify, PassM.run_bind]
  exact (confinedStep_requalified id hconfined (hleft.mono hgrown) hids).after
    (Nat.le_trans hsize hgrown)

variable {id : NodeId} (hid : Inside F arena s.arena id)

include hid

/-- A node is relinked in a confined step. -/
theorem confinedStep_relink {data : NodeData} (hdata : s.arena.data? id = some data)
    {after : Inspection Unit} (hafter : after.BlamesOnly id) :
    ConfinedStep F arena s ((context.relink visit id data after).run s) := by
  have hslots := h.inside_slot id data hid hdata
  have hconstruct : ∀ fault ∈ (checkConstruct id data).faults, Inside F arena s.arena fault.node :=
    fun fault hfault => checkConstruct_node id data fault hfault ▸ hid
  obtain ⟨hbefore, hsize⟩ := context.confined_settle h hconstruct
  have hcalls : ∀ call ∈ data.calls, Inside F arena
      ((context.settle (checkConstruct id data)).run s).2.arena call.1 := by
    intro call hcall
    refine (hslots call.1 ?_).mono hsize
    rw [← data.map_fst_calls]
    exact List.mem_map_of_mem hcall
  obtain ⟨hconfined, hgrown, hlength, hids⟩ := confined_visitAll hvisit hbefore hcalls
  have hslotCount : data.calls.length = data.slots.length := by
    rw [← data.map_fst_calls, List.length_map]
  have hall := Nat.le_trans hsize hgrown
  rw [run_relink, PassM.run_bind]
  exact (context.confinedStep_relinked hconfined (hid.mono hall) hids (hlength.trans hslotCount)
    hafter).after hall

/-- A qualified name is visited in a confined step, whatever becomes of it. -/
theorem confinedStep_qualifiedName {left right : NodeId}
    (hdata : s.arena.data? id = some (.qualifiedName left right)) :
    ConfinedStep F arena s ((context.visitQualifiedName visit id left right).run s) := by
  have hright := h.inside_slot id _ hid hdata right (.tail left (.head []))
  rw [run_visitQualifiedName]
  split
  · exact ⟨h, Nat.le_refl _, hid⟩
  split
  · exact confinedStep_standIn hvisit h id hright
  split
  · exact confinedStep_requalify hvisit h id _ hright
  · exact context.confinedStep_relink hvisit h hid hdata .nothing

/-- An access is visited in a confined step, whatever becomes of it. -/
theorem confinedStep_memberAccess {expression name : NodeId}
    (hdata : s.arena.data? id = some (.memberAccess expression name)) (isCallee : Bool) :
    ConfinedStep F arena s
      ((context.visitMemberAccess visit id expression name isCallee).run s) := by
  have hname := h.inside_slot id _ hid hdata name (.tail expression (.head []))
  rw [run_visitMemberAccess]
  split
  · have hstep := confinedStep_standIn hvisit h id hname
    obtain ⟨hconfined, hgrown⟩ := context.confined_settle_of_blamesOnly hstep.confined hstep.inside
      (context.blamesOnly_checkMemberAccess id ((standIn visit id name).run s).1 isCallee)
    exact ⟨hconfined, Nat.le_trans hstep.size_le hgrown, hstep.inside.mono hgrown⟩
  · exact context.confinedStep_relink hvisit h hid hdata
      (context.blamesOnly_checkMemberAccess id id isCallee)

/-- One level of a confined visit. -/
theorem confinedStep_visitNode (hnone : ∀ isCallee, visit .none isCallee = pure .none)
    {data : NodeData} (hdata : s.arena.data? id = some data) (isCallee : Bool) :
    ConfinedStep F arena s ((context.visitNode visit id data isCallee).run s) := by
  by_cases hsteady : data.isSteady
  · rw [context.run_visitNode_of_isSteady visit hnone hsteady]
    exact context.confinedStep_relink hvisit h hid hdata
      (context.blamesOnly_checkAfter s.arena id data isCallee)
  cases data
  case qualifiedName left right => exact context.confinedStep_qualifiedName hvisit h hid hdata
  case memberAccess expression name =>
    exact context.confinedStep_memberAccess hvisit h hid hdata isCallee
  case compilationUnit externs usings attributeLists members =>
    have hstep := context.confinedStep_relink hvisit h hid hdata .nothing
    rw [context.visitNode_unit visit hnone, PassM.run_bind]
    split
    · exact hstep
    · obtain ⟨hconfined, hinside⟩ := hstep.confined.flatten hstep.inside context.namespaces.root
      refine ⟨hconfined, Nat.le_trans hstep.size_le ?_, hinside⟩
      exact (NodeArena.changesOnly_flatten F _ _ _).size_le
  all_goals exact absurd rfl hsteady

end

/-- Visits of any depth stay confined. -/
theorem isConfined_visitTo (F : NodeId → Prop) (arena : NodeArena) (levels : Nat) :
    Visitor.IsConfined F arena (context.visitTo levels) := by
  induction levels with
  | zero => exact fun id _ s h hid => ⟨h, Nat.le_refl _, hid⟩
  | succ levels ih =>
      intro id isCallee s h hid
      cases hdata : s.arena.data? id with
      | none =>
          rw [run_visitTo_of_data?_eq_none _ hdata]
          exact ⟨h, Nat.le_refl _, hid⟩
      | some data =>
          rw [run_visitTo_of_data? _ hdata]
          exact context.confinedStep_visitNode ih h hid (context.visitTo_none levels) hdata isCallee

/-- **A pass is confined to what its root reaches.** Over a closed arena it removes no node and
leaves the arena closed, it answers no node or a node of the arena, and every node that the root did
not reach has the same data and the same comments as before. -/
theorem confined_of_runFrom (misses : MissLog) {root : NodeId} (hclosed : arena.IsClosed)
    (hroot : arena.contains root) :
    let run := context.runFrom misses arena root
    arena.size ≤ run.2.arena.size ∧ run.2.arena.IsClosed ∧
      (run.1 = .none ∨ run.2.arena.contains run.1) ∧
      ∀ id, arena.contains id → ¬ arena.Reaches root id →
        run.2.arena.data? id = arena.data? id ∧ run.2.arena.comments? id = arena.comments? id := by
  intro run
  have hstart : Confined (arena.Reaches root) arena arena := .start hclosed root
  have hinside : Inside (arena.Reaches root) arena arena root := .inr ⟨hroot, fun _ => .refl⟩
  have hrun : ConfinedStep (arena.Reaches root) arena { arena, misses } run :=
    context.isConfined_visitTo (arena.Reaches root) arena maxDepth root false { arena, misses }
      hstart hinside
  refine ⟨hrun.size_le, hrun.confined.isClosed hclosed, hrun.inside.imp_right And.left, ?_⟩
  intro id hid hunreached
  have hsame := hrun.confined.changes.node?_eq id hid hunreached
  rw [NodeArena.data?, NodeArena.data?, NodeArena.comments?, NodeArena.comments?, hsame]
  exact ⟨rfl, rfl⟩

/-- A unit with a namespace in which the name `App.Tool` has two parents, and a statement outside of
the unit that has the identifier `Tool` in common with it. -/
def sharedName : NodeArena where
  nodes := #[
    { data := .identifierName "App" },
    { data := .identifierName "Tool" },
    { data := .qualifiedName (.ofIndex 0) (.ofIndex 1) },
    { data := .typeOf (.ofIndex 2) },
    { data := .objectCreation (.ofIndex 2) [] },
    { data := .methodDeclaration "Run" [.ofIndex 3, .ofIndex 4] },
    { data := .identifierName "App" },
    { data := .namespaceDeclaration (.ofIndex 6) [] [] [.ofIndex 5] },
    { data := .compilationUnit [] [] [] [.ofIndex 7] },
    { data := .returnStatement (.ofIndex 1), leadingComments := ["// outside"] }]

/-- A program without symbols that knows the namespace `App`. -/
def knownApp : PassContext where
  file := "Unit.cs"
  model := .ofProgram { assembly := ⟨0⟩, symbols := {} } {}
  policy := {}
  namespaces := .ofNames "App" ["App"]

/-- The pass over the unit of `sharedName` shortens the name and dissolves the namespace. The
statement outside is as it was. -/
theorem confined_sharedName :
    let run := knownApp.runFrom {} sharedName (.ofIndex 8)
    sharedName.IsClosed ∧ ¬ sharedName.Reaches (.ofIndex 8) (.ofIndex 9) ∧
      run.2.arena.data? run.1 = some (.compilationUnit [] [] [] [.ofIndex 5]) ∧
      run.2.arena.data? (.ofIndex 3) = some (.typeOf (.ofIndex 1)) ∧ run.2.arena.IsClosed ∧
      run.2.arena.data? (.ofIndex 9) = some (.returnStatement (.ofIndex 1)) ∧
      run.2.arena.comments? (.ofIndex 9) = some ["// outside"] := by
  intro run
  have hclosed : sharedName.IsClosed := NodeArena.isClosed_of_allChildren (by decide +kernel)
  have hunreached : ¬ sharedName.Reaches (.ofIndex 8) (.ofIndex 9) :=
    NodeArena.not_reaches_of_allChildren (by decide +kernel) (by decide)
  obtain ⟨-, hlater, -, hsame⟩ :=
    knownApp.confined_of_runFrom {} hclosed (by decide +kernel : sharedName.contains (.ofIndex 8))
  obtain ⟨hdata, hcomments⟩ := hsame (.ofIndex 9) (by decide +kernel) hunreached
  exact ⟨hclosed, hunreached, by decide +kernel, by decide +kernel, hlater, hdata, hcomments⟩

end PassContext

end Portability
