import Portability.Proofs.Pass.Accesses

/-!
# The shortening of qualified names

A qualified name of plain segments loses the longest known namespace that it goes on after, and
nothing else about the arena changes than the visit has to change:

* `run_visitTo_of_longestBelow?_eq_none`: where there is no such namespace, neither the name nor a
  part of it is shortened, and the state is left as it is.
* `shortens_standIn`, `shortens_requalify`: otherwise the last identifier stands in for the name or
  is put behind a qualifier that is built for it, with the comments of the name either way.
* `shortens_of_visitTo`: which of it happens to which name.
-/

namespace Portability

/-- What is left of a text by the known namespaces: what it goes on with after the longest that it
goes on after, or all of it. -/
inductive KnownNamespaces.Leaves (known : KnownNamespaces) (text : String) : String → Prop
  | below {ns rest : String} (h : known.LongestBelow text ns rest) : Leaves known text rest
  | whole (h : ∀ ns ∈ known.names, ∀ rest, rest ≠ "" → text ≠ ns ++ "." ++ rest) :
      Leaves known text text

/-- By the known namespaces one text is left of another. -/
theorem KnownNamespaces.Leaves.unique {known : KnownNamespaces} {text rest other : String}
    (h : known.Leaves text rest) (hother : known.Leaves text other) : other = rest := by
  cases h with
  | below h =>
      cases hother with
      | below hother => exact (h.unique hother).2
      | whole hother => exact absurd h.text_eq (hother _ h.mem _ h.rest_ne)
  | whole h =>
      cases hother with
      | below hother => exact absurd hother.text_eq (h _ hother.mem _ hother.rest_ne)
      | whole => rfl

/-- By the known namespaces some text is left of any. -/
theorem KnownNamespaces.exists_leaves (known : KnownNamespaces) (text : String) :
    ∃ rest, known.Leaves text rest := by
  cases hfound : known.longestBelow? text with
  | none => exact ⟨text, .whole (longestBelow?_eq_none_iff.mp hfound)⟩
  | some found => exact ⟨found.2, .below (longestBelow?_eq_some_iff.mp hfound)⟩

namespace PassContext

variable {context : PassContext} {s : PassState} {id : NodeId} {segments : List String}

/-- What a visit makes of a name that it shortens to a text: a node that is spelled by the text and
has the comments of the name. Of the nodes that were there none has other data, and none that the
name did not reach has other comments; nothing is reported, announced or logged. -/
structure Shortens (s : PassState) (id : NodeId) (text : String) (outcome : NodeId × PassState) :
    Prop where
  spell_eq : outcome.2.arena.spell outcome.1 = text
  comments?_eq : outcome.2.arena.comments? outcome.1 = s.arena.comments? id
  keeps : ∀ other data, s.arena.data? other = some data → outcome.2.arena.data? other = some data
  changesOnly : NodeArena.ChangesOnly (s.arena.Reaches id) s.arena outcome.2.arena
  eq_with_arena : outcome.2 = { s with arena := outcome.2.arena }

/-- What is left as it is has been shortened to its own text. -/
theorem Shortens.refl (s : PassState) (id : NodeId) : Shortens s id (s.arena.spell id) (id, s) :=
  ⟨rfl, rfl, fun _ _ hdata => hdata, .refl _ s.arena, rfl⟩

/-- The last identifier of a name stands in for it. -/
theorem shortens_standIn {before last : NodeId} {text : String}
    (hdata : s.arena.data? id = some (.qualifiedName before last))
    (hlast : s.arena.data? last = some (.identifierName text)) (levels : Nat) :
    Shortens s id text ((standIn (context.visitTo levels) id last).run s) := by
  have hspell := context.spell_standIn hlast levels id
  rw [run_standIn_of_identifierName hlast] at hspell ⊢
  refine ⟨hspell, ?_, fun other data hother => ?_, ?_, rfl⟩
  · exact NodeArena.comments?_copyComments (NodeArena.contains_iff.mpr ⟨_, hdata⟩)
      (NodeArena.contains_iff.mpr ⟨_, hlast⟩)
  · exact ((NodeArena.sameShape_copyComments ..).data?_eq other).trans hother
  · refine (NodeArena.changesOnly_copyComments s.arena id last).mono fun other _ heq => ?_
    rw [heq]
    exact .child (NodeArena.mem_children_of_data? hdata (.tail _ (.head _)) hlast)

/-- The last identifier of a name is put behind a qualifier that is built for it. -/
theorem shortens_requalify {before last : NodeId} {text path : String}
    (hdata : s.arena.data? id = some (.qualifiedName before last))
    (hlast : s.arena.data? last = some (.identifierName text))
    (hpath : ∀ segment ∈ Dotted.pieces path, Dotted.IsSegment segment) (levels : Nat) :
    Shortens s id (path ++ "." ++ text)
      ((requalify (context.visitTo levels) id path last).run s) := by
  have hspell := context.spell_requalify hlast hpath levels id
  rw [run_requalify_of_identifierName hlast] at hspell ⊢
  set built := s.arena.dottedName path
  set added := built.2.alloc (.qualifiedName built.1 last)
  have hid : s.arena.contains id := NodeArena.contains_iff.mpr ⟨_, hdata⟩
  have hbuilt : NodeArena.ChangesOnly (fun _ => False) s.arena built.2 :=
    NodeArena.changesOnly_dottedName _ s.arena path
  have hadded : NodeArena.ChangesOnly (fun _ => False) s.arena added.2 :=
    hbuilt.trans (NodeArena.changesOnly_alloc _ built.2 _) fun _ _ hfalse => hfalse
  have hnew : ¬ s.arena.contains added.1 :=
    fun hcontains => NodeArena.not_contains_alloc built.2 _ (hbuilt.contains hcontains)
  have hchanges : NodeArena.ChangesOnly (fun _ => False) s.arena
      (added.2.copyComments id added.1) :=
    hadded.trans (NodeArena.changesOnly_copyComments added.2 id added.1)
      fun other hother heq => hnew (heq ▸ hother)
  refine ⟨hspell, ?_, fun other data hother => hchanges.keeps hother,
    hchanges.mono fun _ _ hfalse => hfalse.elim, rfl⟩
  rw [NodeArena.comments?_copyComments (hadded.contains hid) (NodeArena.contains_alloc ..),
    NodeArena.comments?, NodeArena.comments?, hadded.node?_eq id hid not_false]

/-- A name that goes on after no known namespace is left as it is, and so are its parts. -/
theorem run_visitTo_of_longestBelow?_eq_none (h : s.arena.IsChain .name id segments)
    (hsegments : ∀ segment ∈ segments, Dotted.IsSegment segment)
    (hnone : context.namespaces.longestBelow? (Dotted.join segments) = none) (levels : Nat)
    (isCallee : Bool) : (context.visitTo levels id isCallee).run s = (id, s) := by
  induction h generalizing levels isCallee with
  | identifier hdata => exact run_visitTo_of_identifierName hdata levels isCallee
  | @link id before last segments text hdata hbefore hlast ih =>
      obtain ⟨hearlier, htext⟩ := List.forall_mem_append.mp hsegments
      have hlastSegment : Dotted.IsSegment text := List.forall_mem_singleton.mp htext
      rw [Dotted.join_append hbefore.segments_ne_nil (List.cons_ne_nil text []),
        Dotted.join_singleton] at hnone
      have hleft := KnownNamespaces.longestBelow?_left hnone
      have hunknown := KnownNamespaces.contains_left hnone hlastSegment.1
      cases levels with
      | zero => rfl
      | succ levels =>
          rw [context.run_visitTo_qualifiedName hdata, run_visitQualifiedName, hbefore.spell_eq,
            hunknown, hleft]
          split
          · rfl
          · simp only [Bool.false_eq_true, if_false]
            rw [relink_pair _ _ _ _ _ rfl (fun _ _ => rfl) rfl, settle_nothing, PassM.run_bind,
              ih hearlier hleft, PassM.run_bind, run_visitTo_of_identifierName hlast]
            have hsame : s.arena.setData id (.qualifiedName before last) = s.arena :=
              NodeArena.setData_of_data? hdata
            rw [PassM.run_bind, PassM.run_change, hsame]
            rfl

/-! ### The law of shortening -/

/-- A name that is not known is shortened to what the known namespaces leave of it. -/
theorem shortens_of_leaves {text : String} (h : s.arena.IsChain .name id segments)
    (hsegments : ∀ segment ∈ segments, Dotted.IsSegment segment)
    (hunknown : context.namespaces.contains (Dotted.join segments) = false)
    (hleaves : context.namespaces.Leaves (Dotted.join segments) text) (levels : Nat)
    (isCallee : Bool) :
    Shortens s id text ((context.visitTo (levels + 1) id isCallee).run s) := by
  cases hleaves with
  | whole hnone =>
      rw [run_visitTo_of_longestBelow?_eq_none h hsegments
        (KnownNamespaces.longestBelow?_eq_none_iff.mpr hnone), ← h.spell_eq]
      exact .refl s id
  | below hlongest =>
      cases h with
      | @identifier _ segment hdata =>
          rw [Dotted.join_singleton] at hlongest
          have hsegment := hsegments segment (.head _)
          exact absurd hlongest (KnownNamespaces.not_longestBelow_of_isSegment hsegment)
      | @link _ before last earlier segment hdata hbefore hlast =>
          rcases run_visitTo_of_longestBelow hdata hbefore hlast hsegments hlongest hunknown levels
            isCallee with ⟨rfl, hrun⟩ | ⟨between, rfl, hpath, hrun⟩
          · rw [hrun]
            exact shortens_standIn hdata hlast levels
          · rw [hrun]
            exact shortens_requalify hdata hlast hpath levels

/-- A name that is known is left as it is. -/
theorem run_visitTo_of_contains (h : s.arena.IsChain .name id segments)
    (hknown : context.namespaces.contains (s.arena.spell id)) (levels : Nat) (isCallee : Bool) :
    (context.visitTo levels id isCallee).run s = (id, s) := by
  cases h with
  | identifier hdata => exact run_visitTo_of_identifierName hdata levels isCallee
  | @link _ before last _ _ hdata _ _ =>
      cases levels with
      | zero => rfl
      | succ levels =>
          rw [context.run_visitTo_qualifiedName hdata, run_visitQualifiedName, if_pos hknown]

/-- **Qualified names lose the longest known namespace.** Let the segments of a qualified name not
be empty and hold no dots. A visit leaves the name and the state as they are if the text of the name
is known. Otherwise it shortens the name to what the known namespaces leave of the text. It need not
have levels for more than the name itself. -/
theorem shortens_of_visitTo (h : s.arena.IsChain .name id segments)
    (hsegments : ∀ segment ∈ segments, Dotted.IsSegment segment) (levels : Nat) (isCallee : Bool) :
    let visited := (context.visitTo (levels + 1) id isCallee).run s
    (context.namespaces.contains (s.arena.spell id) = true → visited = (id, s)) ∧
    (context.namespaces.contains (s.arena.spell id) = false →
      ∃ text, context.namespaces.Leaves (s.arena.spell id) text ∧ Shortens s id text visited) := by
  intro visited
  refine ⟨fun hknown => run_visitTo_of_contains h hknown (levels + 1) isCallee,
    fun hunknown => ?_⟩
  obtain ⟨text, hleaves⟩ := context.namespaces.exists_leaves (s.arena.spell id)
  refine ⟨text, hleaves, ?_⟩
  rw [h.spell_eq] at hunknown hleaves
  exact shortens_of_leaves h hsegments hunknown hleaves levels isCallee

/-- The name `App.Gen.Tools.X` with a comment. -/
def toolsPath : NodeArena where
  nodes := #[
    { data := .identifierName "App" },
    { data := .identifierName "Gen" },
    { data := .identifierName "Tools" },
    { data := .identifierName "X" },
    { data := .qualifiedName (.ofIndex 0) (.ofIndex 1) },
    { data := .qualifiedName (.ofIndex 4) (.ofIndex 2) },
    { data := .qualifiedName (.ofIndex 5) (.ofIndex 3), leadingComments := ["// tools"] }]

/-- Where `App` and `App.Gen` are known, the name loses the longer one and keeps its comment. A
visit of `App.Gen` alone leaves it as it is. -/
theorem shortens_toolsPath :
    let context := generatedContext ["App", "App.Gen"]
    let s : PassState := { arena := toolsPath }
    let visited := (context.visitTo 4 (.ofIndex 6) false).run s
    (s.arena.IsChain .name (.ofIndex 6) ["App", "Gen", "Tools", "X"] ∧
      context.namespaces.LongestBelow (s.arena.spell (.ofIndex 6)) "App.Gen" "Tools.X") ∧
    visited.2.arena.spell visited.1 = "Tools.X" ∧
    visited.2.arena.comments? visited.1 = some ["// tools"] ∧
    (context.visitTo 4 (.ofIndex 4) false).run s = (.ofIndex 4, s) := by
  intro context s visited
  have hgen : s.arena.IsChain .name (.ofIndex 4) ["App", "Gen"] :=
    .link rfl (.identifier rfl) rfl
  have hname : s.arena.IsChain .name (.ofIndex 6) ["App", "Gen", "Tools", "X"] :=
    .link rfl (.link rfl hgen rfl) rfl
  have hlongest :
      context.namespaces.LongestBelow (s.arena.spell (.ofIndex 6)) "App.Gen" "Tools.X" :=
    KnownNamespaces.longestBelow?_eq_some_iff.mp (by decide +kernel)
  obtain ⟨text, htext, hshortens⟩ : ∃ text,
      context.namespaces.Leaves (s.arena.spell (.ofIndex 6)) text ∧
        Shortens s (.ofIndex 6) text visited :=
    (shortens_of_visitTo hname (by decide +kernel) 3 false).2 (by decide +kernel)
  obtain rfl := KnownNamespaces.Leaves.unique (.below hlongest) htext
  refine ⟨⟨hname, hlongest⟩, hshortens.spell_eq, hshortens.comments?_eq, ?_⟩
  exact (shortens_of_visitTo hgen (by decide +kernel) 3 false).1 (by decide +kernel)

end PassContext

end Portability
