import Portability.Proofs.Pass.Independence
import Portability.Proofs.Pass.Relinking

/-!
# What a pass leaves in place

A visit of a node relinks the arena that a pass started from, and it answers with the node itself if
the node stays. This holds of every arena, with nodes in several places or cycles, too: the links of
a node are overwritten only at the end of a visit of this node, by what answered for what they held,
and a spared name has spared names in its slots or is not gone into at all.
-/

namespace Portability

open NodeArena (ChangesOnly)

namespace PassContext

/-- Whether a visit relinks the arena that a pass started from and answers with the node itself if
that stays. -/
structure RelinksAt (context : PassContext) (arena : NodeArena) (id : NodeId)
    (answer : NodeId × PassState) : Prop where
  relinks : context.namespaces.Relinks arena answer.2.arena
  follows : context.namespaces.Follows arena id answer.1

variable {context : PassContext} {arena : NodeArena}

/-- Settling an inspection changes comments only. -/
theorem relinks_settle {s : PassState} (hs : context.namespaces.Relinks arena s.arena)
    (x : Inspection Unit) :
    context.namespaces.Relinks arena ((context.settle x).run s).2.arena := by
  rw [run_settle]
  exact hs.ofSameShape (context.sameShape_foldl_annotate x.faults s.arena)

section

variable {visit : Visitor} (hvisit : ∀ id isCallee (s : PassState),
  context.namespaces.Relinks arena s.arena →
    context.RelinksAt arena id ((visit id isCallee).run s))

include hvisit

/-- Visits of several slots relink the arena, and what stays answers its own visit. -/
theorem relinks_mapM {s : PassState} (hs : context.namespaces.Relinks arena s.arena)
    (calls : List (NodeId × Bool)) :
    let answer := (calls.mapM fun (slot, isCallee) => visit slot isCallee).run s
    context.namespaces.Relinks arena answer.2.arena ∧
      List.Forall₂ (context.namespaces.Follows arena) (calls.map Prod.fst) answer.1 := by
  induction calls generalizing s with
  | nil => exact ⟨hs, .nil⟩
  | cons call rest ih =>
      have hcall := hvisit call.1 call.2 s hs
      obtain ⟨hrest, hfollows⟩ := ih hcall.relinks
      rw [List.mapM_cons]
      exact ⟨hrest, .cons hcall.follows hfollows⟩

variable {id : NodeId} {s : PassState} (hs : context.namespaces.Relinks arena s.arena)

include hs

/-- Relinking a node, the slots of which stay if it is a chain. -/
theorem relinksAt_relink {data : NodeData} (hdata : s.arena.data? id = some data)
    (hchain : arena.IsNameChain id → ∀ slot ∈ data.slots, context.namespaces.Stays arena slot)
    (after : Inspection Unit) :
    context.RelinksAt arena id ((context.relink visit id data after).run s) := by
  refine ⟨?_, fun _ => rfl⟩
  have hchecked := relinks_settle hs (checkConstruct id data)
  obtain ⟨hvisited, hfollows⟩ := relinks_mapM hvisit hchecked data.calls
  rw [data.map_fst_calls] at hfollows
  refine relinks_settle (s := { arena := _, diagnostics := _, announced := _, misses := _ })
    (hvisited.setData hs hdata hfollows fun hid => ?_) after
  exact KnownNamespaces.eq_of_stays hfollows (hchain hid)

/-- A part that stands in for a node relinks the arena as its own visit does. -/
theorem relinks_standIn (part : NodeId) :
    context.namespaces.Relinks arena ((standIn visit id part).run s).2.arena :=
  (hvisit part false s hs).relinks.ofSameShape (NodeArena.sameShape_copyComments _ id _)

/-- A name with another qualifier relinks the arena as the visit of its last part does. -/
theorem relinks_requalify (qualifier : String) (right : NodeId) :
    context.namespaces.Relinks arena ((requalify visit id qualifier right).run s).2.arena := by
  set built := s.arena.dottedName qualifier
  have hbuilt : context.namespaces.Relinks arena built.2 :=
    hs.ofChanges (NodeArena.changesOnly_dottedName _ s.arena qualifier)
  have hright := hvisit right false { s with arena := built.2 } hbuilt
  set visited := (visit right false).run { s with arena := built.2 }
  set added := visited.2.arena.alloc (.qualifiedName built.1 visited.1)
  have hadded : context.namespaces.Relinks arena added.2 :=
    hright.relinks.ofChanges (NodeArena.changesOnly_alloc _ _ _)
  exact hadded.ofSameShape (NodeArena.sameShape_copyComments added.2 id added.1)

/-- A spared name is not shortened. If it is gone into, its qualifier is spared, too. -/
theorem relinksAt_visitQualifiedName {left right : NodeId}
    (hdata : s.arena.data? id = some (.qualifiedName left right)) :
    context.RelinksAt arena id ((context.visitQualifiedName visit id left right).run s) := by
  rw [run_visitQualifiedName]
  cases hknown : context.namespaces.contains (s.arena.spell id) with
  | true => exact ⟨hs, fun _ => rfl⟩
  | false =>
      -- the qualifier of a name that stays is neither known nor below a known name
      have hqualifier (hstays : context.namespaces.Stays arena id) :
          context.namespaces.contains (s.arena.spell left) = false ∧
            context.namespaces.longestBelow? (s.arena.spell left) = none := by
        obtain ⟨hspares, -⟩ := (hs.isSteady_or_spares hstays hdata).resolve_left
          Bool.false_ne_true
        have hbefore := (hs.chains id hspares.chain).symm.trans hdata
        rw [hs.spell_eq hspares.chain] at hknown
        rw [hs.spell_eq (hspares.chain.parts hbefore).1]
        exact hspares.qualifier hbefore hknown
      cases hleft : context.namespaces.contains (s.arena.spell left) with
      | true =>
          refine ⟨relinks_standIn hvisit hs right, fun hstays => ?_⟩
          rw [(hqualifier hstays).1] at hleft
          exact absurd hleft Bool.false_ne_true
      | false =>
          cases hlongest : context.namespaces.longestBelow? (s.arena.spell left) with
          | some longest =>
              refine ⟨relinks_requalify hvisit hs longest.2 right, fun hstays => ?_⟩
              rw [(hqualifier hstays).2] at hlongest
              exact absurd hlongest.symm (Option.some_ne_none longest)
          | none =>
              refine relinksAt_relink hvisit hs hdata (fun hchain slot hslot => ?_) (pure ())
              obtain ⟨hchain, text, -, hright⟩ :=
                hchain.parts ((hs.chains id hchain).symm.trans hdata)
              rcases List.mem_pair.mp hslot with rfl | rfl
              · exact .inr ⟨hchain, .inr (hs.spell_eq hchain ▸ hlongest)⟩
              · exact .inl ⟨_, hright, rfl⟩

/-- A chain that is no qualified name has no slots. -/
theorem relinksAt_relink_of_ne {data : NodeData} (hdata : s.arena.data? id = some data)
    (hne : ∀ left right, data ≠ .qualifiedName left right) (after : Inspection Unit) :
    context.RelinksAt arena id ((context.relink visit id data after).run s) := by
  refine relinksAt_relink hvisit hs hdata (fun hchain slot hslot => ?_) after
  rcases hs.isName_of_chain hchain hdata with ⟨text, rfl⟩ | ⟨left, right, rfl⟩
  · exact absurd hslot List.not_mem_nil
  · exact absurd rfl (hne left right)

omit hvisit in
/-- Neither accesses nor units stay. -/
theorem not_stays {data : NodeData} (hdata : s.arena.data? id = some data)
    (hsteady : data.isSteady = false) (hne : ∀ left right, data ≠ .qualifiedName left right) :
    ¬ context.namespaces.Stays arena id := by
  intro hstays
  rcases hs.isSteady_or_spares hstays hdata with htrue | ⟨-, left, right, heq⟩
  · exact absurd (htrue.symm.trans hsteady) Bool.true_eq_false_eq_False
  · exact hne left right heq

/-- The visit of an access relinks the arena. -/
theorem relinksAt_visitMemberAccess {expression name : NodeId}
    (hdata : s.arena.data? id = some (.memberAccess expression name)) (isCallee : Bool) :
    context.RelinksAt arena id
      ((context.visitMemberAccess visit id expression name isCallee).run s) := by
  rw [run_visitMemberAccess]
  split
  · refine ⟨relinks_settle (relinks_standIn hvisit hs name) _, fun hstays => ?_⟩
    exact absurd hstays (not_stays hs hdata rfl nofun)
  · exact relinksAt_relink_of_ne hvisit hs hdata nofun _

/-- The visit of a unit relinks the arena and may put a flattened unit beside it. -/
theorem relinksAt_visitUnit (hnone : ∀ isCallee, visit .none isCallee = pure .none)
    {externs usings attributeLists members : List NodeId}
    (hdata : s.arena.data? id = some (.compilationUnit externs usings attributeLists members))
    (isCallee : Bool) :
    context.RelinksAt arena id ((context.visitNode visit id
      (.compilationUnit externs usings attributeLists members) isCallee).run s) := by
  have hunit := relinksAt_relink_of_ne hvisit hs hdata nofun (pure ())
  rw [visitNode_unit _ _ hnone, PassM.run_bind]
  split
  · exact hunit
  · refine ⟨hunit.relinks.ofChanges (NodeArena.changesOnly_flatten _ _ _ _), fun hstays => ?_⟩
    exact absurd hstays (not_stays hs hdata rfl nofun)

/-- The visit of a node relinks the arena, if visits of its slots do so. -/
theorem relinksAt_visitNode (hnone : ∀ isCallee, visit .none isCallee = pure .none)
    {data : NodeData} (hdata : s.arena.data? id = some data) (isCallee : Bool) :
    context.RelinksAt arena id ((context.visitNode visit id data isCallee).run s) := by
  cases hsteady : data.isSteady with
  | true =>
      rw [run_visitNode_of_isSteady _ _ hnone hsteady]
      refine relinksAt_relink_of_ne hvisit hs hdata (fun left right heq => ?_) _
      rw [heq] at hsteady
      exact Bool.noConfusion hsteady
  | false =>
      cases data
      case qualifiedName => exact relinksAt_visitQualifiedName hvisit hs hdata
      case memberAccess => exact relinksAt_visitMemberAccess hvisit hs hdata isCallee
      case compilationUnit => exact relinksAt_visitUnit hvisit hs hnone hdata isCallee
      all_goals cases hsteady

end

/-- **A pass relinks an arena and leaves what stays in its place.** -/
theorem relinksAt_visitTo (levels : Nat) (id : NodeId) (isCallee : Bool) (s : PassState)
    (hs : context.namespaces.Relinks arena s.arena) :
    context.RelinksAt arena id ((context.visitTo levels id isCallee).run s) := by
  induction levels generalizing id isCallee s with
  | zero => exact ⟨hs, fun _ => rfl⟩
  | succ levels ih =>
      cases hdata : s.arena.data? id with
      | none =>
          rw [run_visitTo_of_data?_eq_none _ hdata]
          exact ⟨hs, fun _ => rfl⟩
      | some data =>
          rw [run_visitTo_of_data? _ hdata]
          exact relinksAt_visitNode ih hs (context.visitTo_none levels) hdata isCallee

end PassContext

end Portability
