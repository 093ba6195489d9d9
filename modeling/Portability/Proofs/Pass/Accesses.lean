import Portability.Proofs.KnownNamespaces
import Portability.Proofs.Pass.Moves
import Portability.Proofs.Tree.Chains

/-!
# Two ways to shorten a dotted path

A path can stand in a tree as a qualified name or as a chain of member accesses, and a visit
shortens both, each in its own way. A qualified name loses the longest known namespace that it goes
on after (`visitedText_name`). Of a chain of accesses only the innermost one has a bare identifier
in front, so all that it can lose is its first segment (`visitedText_access`). The two agree where
the longest known namespace is that segment, and nowhere else (`shortened_of_visitTo`).
-/

namespace Portability

/-! ### What accesses lose -/

namespace KnownNamespaces

/-- Whether an identifier that names no symbol is left out in front of a member: as a known
namespace or a part of one. -/
def leavesOut (known : KnownNamespaces) (first : String) : Bool :=
  known.contains first || known.containsComponent first

/-- What is left of the segments of a chain of accesses. -/
def afterAccess (known : KnownNamespaces) : List String → List String
  | first :: second :: rest =>
    if known.leavesOut first then second :: rest else first :: second :: rest
  | segments => segments

/-- Where there are two segments already, a third changes nothing about the first. -/
theorem afterAccess_append {known : KnownNamespaces} {segments : List String}
    (h : 2 ≤ segments.length) (last : String) :
    known.afterAccess (segments ++ [last]) = known.afterAccess segments ++ [last] := by
  match segments, h with
  | first :: second :: rest, _ =>
      simp only [List.cons_append, afterAccess]
      split <;> rfl

end KnownNamespaces

namespace PassContext

variable (context : PassContext)

/-- The text of what stands in the place of a node that is visited down to some levels. -/
def visitedText (levels : Nat) (s : PassState) (id : NodeId) (isCallee : Bool) : String :=
  let visited := (context.visitTo levels id isCallee).run s
  visited.2.arena.spell visited.1

variable {context} {s : PassState} {id : NodeId} {segments : List String}

/-- An identifier is left as it is. -/
theorem run_visitTo_of_identifierName {text : String}
    (hdata : s.arena.data? id = some (.identifierName text)) (levels : Nat) (isCallee : Bool) :
    (context.visitTo levels id isCallee).run s = (id, s) := by
  cases levels with
  | zero => rfl
  | succ levels =>
      rw [run_visitTo_of_data? _ hdata,
        run_visitNode_of_isSteady _ _ (context.visitTo_none levels) rfl,
        relink_of_unsupported?_eq_none _ _ rfl, PassM.run_bind]
      have hslots : (visitSlots (context.visitTo levels) id (.identifierName text)).run s =
          ((), s) := by
        have hcalls : (NodeData.identifierName text).calls = [] := rfl
        rw [visitSlots, hcalls, List.mapM_nil, pure_bind, PassM.run_change, NodeData.withSlots,
          NodeArena.setData_of_data? hdata]
      have hcheck : context.checkAfter s.arena id (.identifierName text) isCallee = pure () := rfl
      rw [hslots, hcheck, settle_nothing]
      rfl

/-! ### Chains of accesses -/

/-- What a visit makes of a chain of accesses: the chain of what is left, with nothing below it that
was not below the chain, in an arena that keeps its identifiers. -/
structure VisitsAccess (known : KnownNamespaces) (arena : NodeArena) (id : NodeId)
    (segments : List String) (result : NodeId) (later : NodeArena) : Prop where
  isChain : later.IsChain .access result (known.afterAccess segments)
  reaches : ∀ below, later.Reaches result below → arena.Reaches id below
  size_eq : later.size = arena.size
  identifiers : ∀ other text, arena.data? other = some (.identifierName text) →
    later.data? other = some (.identifierName text)

/-- An identifier is visited as the chain of itself, and nothing changes. -/
theorem VisitsAccess.ofIdentifierName {known : KnownNamespaces} {arena : NodeArena} {text : String}
    (hdata : arena.data? id = some (.identifierName text)) :
    VisitsAccess known arena id [text] id arena :=
  ⟨.identifier hdata, fun _ hbelow => hbelow, rfl, fun _ _ hother => hother⟩

section

variable {before last : NodeId} {text : String}

/-- The access through a first segment that is left out is replaced by the name of the member. -/
theorem VisitsAccess.ofStandIn {known : KnownNamespaces} {arena : NodeArena} {first : String}
    (hdata : arena.data? id = some (.memberAccess before last))
    (hlast : arena.data? last = some (.identifierName text)) (hleaves : known.leavesOut first) :
    VisitsAccess known arena id [first, text] last (arena.copyComments id last) := by
  have hshape := NodeArena.sameShape_copyComments arena id last
  have hlater := (hshape.data?_eq last).trans hlast
  refine ⟨?_, fun below hbelow => ?_, hshape.size_eq, fun other text hother => ?_⟩
  · rw [KnownNamespaces.afterAccess, if_pos hleaves]
    exact .identifier hlater
  · rw [hbelow.eq_of_identifierName hlater]
    exact .child (NodeArena.mem_children_of_data? hdata (.tail _ (.head _)) hlast)
  · exact (hshape.data?_eq other).trans hother

/-- An access that stays in its place is relinked to what its front was shortened to. -/
theorem VisitsAccess.relink {known : KnownNamespaces} {arena middle : NodeArena} {front : NodeId}
    (hchain : arena.IsChain .access id (segments ++ [text]))
    (hdata : arena.data? id = some (.memberAccess before last))
    (hbefore : arena.IsChain .access before segments)
    (hlast : arena.data? last = some (.identifierName text))
    (h : VisitsAccess known arena before segments front middle)
    (hafter : known.afterAccess (segments ++ [text]) = known.afterAccess segments ++ [text]) :
    VisitsAccess known arena id (segments ++ [text]) id
      (middle.setData id (.memberAccess front last)) := by
  obtain ⟨beforeData, hbeforeData, -⟩ := hbefore.exists_data?
  have hbeforeChild := NodeArena.mem_children_of_data? hdata (.head _) hbeforeData
  have hlastChild := NodeArena.mem_children_of_data? hdata (.tail _ (.head _)) hlast
  have hacyclic : ¬ arena.Reaches before id :=
    hchain.fitsIn.isAcyclicBelow id .refl before hbeforeChild
  set later := middle.setData id (.memberAccess front last)
  -- only the access itself is written, and it is neither an identifier nor below its front
  have hkept {other : NodeId} (hne : other ≠ id) : later.data? other = middle.data? other :=
    (NodeArena.data?_setData ..).trans (if_neg hne)
  have hagree : middle.AgreeBelow later front := by
    intro below hbelow
    refine hkept ?_
    rintro rfl
    exact hacyclic (h.reaches below hbelow)
  have hidentifiers (other : NodeId) (text : String)
      (hother : arena.data? other = some (.identifierName text)) :
      later.data? other = some (.identifierName text) := by
    refine (hkept ?_).trans (h.identifiers other text hother)
    rintro rfl
    cases hother.symm.trans hdata
  have hcontains : middle.contains id :=
    NodeArena.contains_of_size_le (Nat.le_of_eq h.size_eq.symm)
      (NodeArena.contains_iff.mpr ⟨_, hdata⟩)
  have hid : later.data? id = some (.memberAccess front last) := by
    obtain ⟨data, hmiddle⟩ := NodeArena.contains_iff.mp hcontains
    exact (NodeArena.data?_setData ..).trans (by rw [if_pos rfl, hmiddle, Option.map_some])
  refine ⟨?_, fun below hbelow => ?_, ?_, hidentifiers⟩
  · rw [hafter]
    exact .link hid (h.isChain.ofAgreeBelow hagree) (hidentifiers last text hlast)
  · rcases hbelow.eq_or_slot hid with rfl | ⟨slot, hslot, hreach⟩
    · exact .refl
    · rcases List.mem_pair.mp hslot with rfl | rfl
      · exact .ofChild hbeforeChild (h.reaches below (hagree.reaches hreach))
      · rw [hreach.eq_of_identifierName (hidentifiers slot text hlast)]
        exact .child hlastChild
  · exact (NodeArena.size_modify ..).trans h.size_eq

end

/-- A visit to an access that names no symbol, whose member is an identifier. -/
theorem run_visitTo_of_memberAccess {before last : NodeId} {text : String} {levels : Nat}
    (hdata : s.arena.data? id = some (.memberAccess before last))
    (hunbound : context.model.symbolOf id = none)
    (hlast : s.arena.data? last = some (.identifierName text))
    (hlater : ((context.visitTo levels before false).run s).2.arena.data? last =
      some (.identifierName text)) (isCallee : Bool) :
    (context.visitTo (levels + 1) id isCallee).run s =
      if context.isNamespaceQualifier s.arena before then
        (last, { s with arena := s.arena.copyComments id last })
      else
        let front := (context.visitTo levels before false).run s
        (id, { front.2 with arena := front.2.arena.setData id (.memberAccess front.1 last) }) := by
  have hcheck (result : NodeId) : context.checkMemberAccess id result isCallee = pure () := by
    rw [checkMemberAccess, hunbound]
  rw [run_visitTo_of_data? _ hdata]
  refine (context.run_visitMemberAccess ..).trans ?_
  cases context.isNamespaceQualifier s.arena before with
  | true =>
      simp only [if_true, standIn, bind_assoc, pure_bind, hcheck, settle_nothing, PassM.run_bind,
        run_visitTo_of_identifierName hlast]
      rfl
  | false =>
      rw [if_neg Bool.false_ne_true, if_neg Bool.false_ne_true, hcheck,
        relink_pair _ _ _ _ _ rfl (fun _ _ => rfl) rfl, settle_nothing, PassM.run_bind,
        PassM.run_bind, run_visitTo_of_identifierName hlater]
      rfl

/-- An identifier that nothing is bound to is a qualifier if its text is left out. -/
theorem isNamespaceQualifier_of_identifierName {arena : NodeArena} {text : String}
    (hdata : arena.data? id = some (.identifierName text))
    (hunbound : context.model.symbolOf id = none) :
    context.isNamespaceQualifier arena id = context.namespaces.leavesOut text := by
  simp only [isNamespaceQualifier, hdata, hunbound, KnownNamespaces.leavesOut, Option.isNone_none,
    Bool.and_true]

/-- A visit to a chain of accesses that names no symbol, with levels enough for all of it. -/
theorem visitsAccess {levels : Nat} (h : s.arena.IsChain .access id segments)
    (hunbound : ∀ below, s.arena.Reaches id below → context.model.symbolOf below = none)
    (hlevels : segments.length ≤ levels) (isCallee : Bool) :
    let visited := (context.visitTo levels id isCallee).run s
    VisitsAccess context.namespaces s.arena id segments visited.1 visited.2.arena := by
  induction h generalizing levels isCallee with
  | identifier hdata =>
      rw [run_visitTo_of_identifierName hdata]
      exact .ofIdentifierName hdata
  | @link id before last segments text hdata hbefore hlast ih =>
      rw [List.length_append, List.length_singleton] at hlevels
      obtain ⟨levels, rfl⟩ : ∃ fewer, levels = fewer + 1 := ⟨levels - 1, by omega⟩
      obtain ⟨beforeData, hbeforeData, hbeforeKind⟩ := hbefore.exists_data?
      have hchild := NodeArena.mem_children_of_data? hdata (.head _) hbeforeData
      have hfront := ih (fun below hbelow => hunbound below (.ofChild hchild hbelow))
        (Nat.le_of_succ_le_succ hlevels) false
      have hrelinks := hfront.relink (.link hdata hbefore hlast) hdata hbefore hlast
      rw [run_visitTo_of_memberAccess hdata (hunbound id .refl) hlast
        (hfront.identifiers last text hlast)]
      cases hbefore with
      | @identifier _ first hfirst =>
          rw [isNamespaceQualifier_of_identifierName hfirst (hunbound before (.child hchild))]
          by_cases hleaves : context.namespaces.leavesOut first
          · rw [if_pos hleaves]
            exact .ofStandIn hdata hlast hleaves
          · rw [if_neg hleaves]
            exact hrelinks (by simp [KnownNamespaces.afterAccess, hleaves])
      | @link _ front middle earlier second hother hearlier hmiddle =>
          -- only an identifier is left out, and this is an access
          have hnot : context.isNamespaceQualifier s.arena before = false := by
            rw [isNamespaceQualifier, hother]
            rfl
          rw [hnot, if_neg Bool.false_ne_true]
          refine hrelinks (KnownNamespaces.afterAccess_append ?_ text)
          obtain ⟨levels, hlength⟩ := hearlier.exists_length_eq
          rw [List.length_append, List.length_singleton]
          omega

/-- A chain of accesses that names no symbol is spelled without its first segment after a visit, if
that segment is left out, and as before if not. -/
theorem visitedText_access {levels : Nat} (h : s.arena.IsChain .access id segments)
    (hunbound : ∀ below, s.arena.Reaches id below → context.model.symbolOf below = none)
    (hlevels : segments.length ≤ levels) (isCallee : Bool) :
    context.visitedText levels s id isCallee =
      Dotted.join (context.namespaces.afterAccess segments) :=
  (visitsAccess h hunbound hlevels isCallee).isChain.spell_eq

/-! ### Qualified names -/

/-- An identifier stands in for a node as it is, with the comments of the node. -/
theorem run_standIn_of_identifierName {last : NodeId} {text : String}
    (hlast : s.arena.data? last = some (.identifierName text)) (levels : Nat) (id : NodeId) :
    (standIn (context.visitTo levels) id last).run s =
      (last, { s with arena := s.arena.copyComments id last }) := by
  simp only [standIn, PassM.run_bind, run_visitTo_of_identifierName hlast]
  rfl

/-- An identifier is put behind another qualifier as it is. -/
theorem run_requalify_of_identifierName {last : NodeId} {text : String}
    (hlast : s.arena.data? last = some (.identifierName text)) (path : String) (levels : Nat)
    (id : NodeId) :
    let built := s.arena.dottedName path
    let added := built.2.alloc (.qualifiedName built.1 last)
    (requalify (context.visitTo levels) id path last).run s =
      (added.1, { s with arena := added.2.copyComments id added.1 }) := by
  have hbuiltLast := (NodeArena.changesOnly_dottedName (fun _ => False) s.arena path).keeps hlast
  obtain ⟨left, built, hbuilt⟩ : ∃ left built, s.arena.dottedName path = (left, built) :=
    ⟨_, _, rfl⟩
  rw [hbuilt] at hbuiltLast ⊢
  have hvisit : (context.visitTo levels last false).run { s with arena := built } =
      (last, { s with arena := built }) := run_visitTo_of_identifierName hbuiltLast levels false
  simp only [requalify, PassM.run_bind, PassM.run_build, hbuilt, hvisit]
  rfl

/-- An identifier that is put behind another qualifier ends the chain of the qualifier's
segments. -/
theorem isChain_requalify {last : NodeId} {text : String} {path : List String}
    (hlast : s.arena.data? last = some (.identifierName text)) (hne : path ≠ [])
    (hpath : ∀ segment ∈ path, Dotted.IsSegment segment) (levels : Nat) (id : NodeId) :
    let visited := (requalify (context.visitTo levels) id (Dotted.join path) last).run s
    visited.2.arena.IsChain .name visited.1 (path ++ [text]) := by
  have hleft := s.arena.isChain_dottedName hne hpath
  have hbuiltLast :=
    (NodeArena.changesOnly_dottedName (fun _ => False) s.arena (Dotted.join path)).keeps hlast
  rw [run_requalify_of_identifierName hlast]
  generalize s.arena.dottedName (Dotted.join path) = built at hleft hbuiltLast ⊢
  let added := built.2.alloc (.qualifiedName built.1 last)
  have hkeeps (other : NodeId) (data : NodeData) (hdata : built.2.data? other = some data) :
      added.2.data? other = some data :=
    (NodeArena.changesOnly_alloc _ built.2 _).keeps hdata
  have hadded : added.2.IsChain .name added.1 (path ++ [text]) :=
    .link ((NodeArena.data?_alloc ..).trans (if_pos rfl)) (hleft.ofKeeps hkeeps)
      (hkeeps last _ hbuiltLast)
  exact hadded.ofKeeps fun other _ hdata =>
    ((NodeArena.sameShape_copyComments ..).data?_eq other).trans hdata

/-- An identifier that stands in for a node is spelled by its text. -/
theorem spell_standIn {last : NodeId} {text : String}
    (hlast : s.arena.data? last = some (.identifierName text)) (levels : Nat) (id : NodeId) :
    let stoodIn := (standIn (context.visitTo levels) id last).run s
    stoodIn.2.arena.spell stoodIn.1 = text := by
  rw [run_standIn_of_identifierName hlast]
  refine NodeArena.spell_of_identifierName ?_
  exact ((NodeArena.sameShape_copyComments s.arena id last).data?_eq last).trans hlast

/-- An identifier that is put behind another qualifier is spelled after it. -/
theorem spell_requalify {last : NodeId} {text path : String}
    (hlast : s.arena.data? last = some (.identifierName text))
    (hpath : ∀ segment ∈ Dotted.pieces path, Dotted.IsSegment segment) (levels : Nat)
    (id : NodeId) :
    let requalified := (requalify (context.visitTo levels) id path last).run s
    requalified.2.arena.spell requalified.1 = path ++ "." ++ text := by
  have hchain := context.isChain_requalify hlast (Dotted.pieces_ne_nil path) hpath levels id
  rw [Dotted.join_pieces] at hchain
  refine hchain.spell_eq.trans ?_
  rw [Dotted.join_append (Dotted.pieces_ne_nil path) (List.cons_ne_nil text []),
    Dotted.join_pieces, Dotted.join_singleton]

/-- The link of a chain of identifiers that goes on after a known namespace and is not known itself:
its last identifier stands in for it, or is put behind what its front goes on with. -/
theorem run_visitTo_of_longestBelow {before last : NodeId} {text name rest : String}
    (hdata : s.arena.data? id = some (.qualifiedName before last))
    (hbefore : s.arena.IsChain .name before segments)
    (hlast : s.arena.data? last = some (.identifierName text))
    (hsegments : ∀ segment ∈ segments ++ [text], Dotted.IsSegment segment)
    (hlongest : context.namespaces.LongestBelow (Dotted.join (segments ++ [text])) name rest)
    (hunknown : context.namespaces.contains (Dotted.join (segments ++ [text])) = false)
    (levels : Nat) (isCallee : Bool) :
    let visited := (context.visitTo (levels + 1) id isCallee).run s
    rest = text ∧ visited = (standIn (context.visitTo levels) id last).run s ∨
      ∃ between, rest = between ++ "." ++ text ∧
        (∀ segment ∈ Dotted.pieces between, Dotted.IsSegment segment) ∧
        visited = (requalify (context.visitTo levels) id between last).run s := by
  intro visited
  obtain ⟨hearlier, htext⟩ := List.forall_mem_append.mp hsegments
  have hpieces : Dotted.pieces (Dotted.join segments) = segments :=
    Dotted.pieces_join hbefore.segments_ne_nil fun segment hmem => (hearlier segment hmem).2
  have hspell : s.arena.spell id = Dotted.join (segments ++ [text]) :=
    (NodeArena.IsChain.link hdata hbefore hlast).spell_eq
  have hrun : visited =
      (context.visitQualifiedName (context.visitTo levels) id before last).run s :=
    context.run_visitTo_qualifiedName hdata levels isCallee
  rw [hrun, run_visitQualifiedName, hspell, hunknown, if_neg Bool.false_ne_true, hbefore.spell_eq]
  rw [Dotted.join_append hbefore.segments_ne_nil (List.cons_ne_nil text []),
    Dotted.join_singleton] at hlongest
  rcases hlongest.qualifier (fun piece hmem => (hearlier piece (hpieces ▸ hmem)).1)
    (List.forall_mem_singleton.mp htext) with ⟨hknown, rfl⟩ | ⟨hknown, between, hbetween, rfl⟩
  · rw [if_pos hknown]
    exact .inl ⟨rfl, rfl⟩
  · have hsplit : segments = Dotted.pieces name ++ Dotted.pieces between := by
      rw [← Dotted.pieces_append_dot, ← hbetween.text_eq, hpieces]
    rw [hknown, if_neg Bool.false_ne_true, KnownNamespaces.longestBelow?_eq_some_iff.mpr hbetween]
    exact .inr ⟨between, rfl, fun segment hmem =>
      hearlier segment (hsplit ▸ List.mem_append_right _ hmem), rfl⟩

/-- A qualified name is spelled by what it goes on with after the longest known namespace, after a
visit. -/
theorem visitedText_name {name rest : String} (h : s.arena.IsChain .name id segments)
    (hsegments : ∀ segment ∈ segments, Dotted.IsSegment segment)
    (hlongest : context.namespaces.LongestBelow (Dotted.join segments) name rest)
    (hunknown : context.namespaces.contains (Dotted.join segments) = false) (levels : Nat)
    (isCallee : Bool) : context.visitedText (levels + 1) s id isCallee = rest := by
  cases h with
  | @identifier _ text hdata =>
      rw [Dotted.join_singleton] at hlongest
      have htext := hsegments text (.head _)
      exact absurd hlongest (KnownNamespaces.not_longestBelow_of_isSegment htext)
  | @link _ before last earlier text hdata hbefore hlast =>
      rw [visitedText]
      rcases run_visitTo_of_longestBelow hdata hbefore hlast hsegments hlongest hunknown levels
        isCallee with ⟨rfl, hrun⟩ | ⟨between, rfl, hpath, hrun⟩
      · rw [hrun]
        exact spell_standIn hlast levels id
      · rw [hrun]
        exact spell_requalify hlast hpath levels id

/-! ### Both ways -/

/-- **A chain of accesses loses its first segment, a qualified name its longest known namespace.**
Let the same path stand in two trees, as a chain of accesses that names no symbol and as a qualified
name, and let it go on after a known namespace and not be known itself. A visit that has levels
enough for the path spells the name by what it goes on with after the longest such namespace, and
the chain without its first segment if that is a known namespace or a part of one, and as before
otherwise. The two are alike exactly where the longest known namespace is the first segment. -/
theorem shortened_of_visitTo {t : PassState} {access name : NodeId} {first : String}
    {others : List String} {levels : Nat}
    (haccess : s.arena.IsChain .access access (first :: others))
    (hname : t.arena.IsChain .name name (first :: others))
    (hsegments : ∀ segment ∈ first :: others, Dotted.IsSegment segment)
    (hunbound : ∀ below, s.arena.Reaches access below → context.model.symbolOf below = none)
    (hlevels : (first :: others).length ≤ levels)
    (hbelow : ∃ ns ∈ context.namespaces.names, ∃ rest, rest ≠ "" ∧
      s.arena.spell access = ns ++ "." ++ rest)
    (hunknown : context.namespaces.contains (s.arena.spell access) = false)
    (isCallee isCalled : Bool) :
    ∃ ns rest, context.namespaces.LongestBelow (s.arena.spell access) ns rest ∧
      context.visitedText levels t name isCalled = rest ∧
      context.visitedText levels s access isCallee =
        (if context.namespaces.leavesOut first then Dotted.join others
          else s.arena.spell access) ∧
      (context.visitedText levels s access isCallee = context.visitedText levels t name isCalled ↔
        ns = first) := by
  obtain ⟨known, hknown, more, hmore, htext⟩ := hbelow
  obtain ⟨ns, rest, hlongest⟩ := KnownNamespaces.exists_longestBelow hknown hmore htext
  rw [haccess.spell_eq] at hlongest hunknown ⊢
  obtain ⟨levels, rfl⟩ : ∃ fewer, levels = fewer + 1 := by
    rw [List.length_cons] at hlevels
    exact ⟨levels - 1, by omega⟩
  have hnameText := visitedText_name hname hsegments hlongest hunknown levels isCalled
  obtain ⟨second, later, rfl⟩ : ∃ second later, others = second :: later := by
    cases others with
    | nil =>
        have hdot := (hsegments first (.head _)).2
        rw [← Dotted.join_singleton first, hlongest.text_eq] at hdot
        simp at hdot
    | cons second later => exact ⟨second, later, rfl⟩
  have haccessText := visitedText_access haccess hunbound hlevels isCallee
  rw [KnownNamespaces.afterAccess, apply_ite Dotted.join] at haccessText
  have hjoin := Dotted.join_cons (List.cons_ne_nil second later) first
  have hsplit : first ++ "." ++ Dotted.join (second :: later) = ns ++ "." ++ rest :=
    hjoin.symm.trans hlongest.text_eq
  refine ⟨ns, rest, hlongest, hnameText, haccessText, ?_⟩
  rw [hnameText, haccessText]
  constructor
  · intro hsame
    split at hsame
    · rw [hsame, String.append_assoc, String.append_assoc] at hsplit
      exact (String.append_left_inj _).mp hsplit.symm
    · -- the name is shorter than the path
      have hlength := congrArg String.length (hsame.symm.trans hlongest.text_eq)
      have hdot : ".".length = 1 := rfl
      simp only [String.length_append] at hlength
      omega
  · rintro rfl
    have hleaves : context.namespaces.leavesOut ns = true := by
      rw [KnownNamespaces.leavesOut, KnownNamespaces.contains,
        List.contains_iff_mem.mpr hlongest.mem, Bool.true_or]
    rw [if_pos hleaves]
    exact (String.append_right_inj _).mp hsplit

/-- The path `App.Gen.X`, as a chain of accesses and as a qualified name. -/
def generatedPath : NodeArena where
  nodes := #[
    { data := .identifierName "App" },
    { data := .identifierName "Gen" },
    { data := .identifierName "X" },
    { data := .memberAccess (.ofIndex 0) (.ofIndex 1) },
    { data := .memberAccess (.ofIndex 3) (.ofIndex 2) },
    { data := .qualifiedName (.ofIndex 0) (.ofIndex 1) },
    { data := .qualifiedName (.ofIndex 5) (.ofIndex 2) }]

/-- A pass in which nothing is bound and the given namespaces below `App` are known. -/
def generatedContext (names : List String) : PassContext where
  file := "Gen.cs"
  model := .ofProgram { assembly := ⟨0⟩, symbols := .empty } {}
  policy := {}
  namespaces := .ofNames "App" names

/-- The access and the name in `generatedPath` are chains of the same segments. -/
theorem isChain_generatedPath :
    generatedPath.IsChain .access (.ofIndex 4) ["App", "Gen", "X"] ∧
      generatedPath.IsChain .name (.ofIndex 6) ["App", "Gen", "X"] :=
  ⟨.link rfl (.link rfl (.identifier rfl) rfl) rfl, .link rfl (.link rfl (.identifier rfl) rfl) rfl⟩

/-- Where only `App` is known, both lose it. -/
theorem shortened_generatedPath :
    let context := generatedContext ["App"]
    let s : PassState := { arena := generatedPath }
    context.namespaces.LongestBelow (s.arena.spell (.ofIndex 4)) "App" "Gen.X" ∧
      context.visitedText maxDepth s (.ofIndex 4) false = "Gen.X" ∧
      context.visitedText maxDepth s (.ofIndex 6) false = "Gen.X" := by
  intro context s
  have hspell : s.arena.spell (.ofIndex 4) = "App.Gen.X" := by decide +kernel
  have hunknown : context.namespaces.contains (s.arena.spell (.ofIndex 4)) = false := by
    rw [hspell]
    decide +kernel
  have happ : context.namespaces.LongestBelow (s.arena.spell (.ofIndex 4)) "App" "Gen.X" :=
    KnownNamespaces.longestBelow?_eq_some_iff.mp (by decide +kernel)
  obtain ⟨ns, rest, hlongest, hname, -, halike⟩ :=
    @shortened_of_visitTo context s s _ _ "App" ["Gen", "X"] maxDepth isChain_generatedPath.1
      isChain_generatedPath.2 (by decide +kernel) (fun _ _ => rfl) (by decide)
      ⟨"App", happ.mem, "Gen.X", happ.rest_ne, hspell⟩ hunknown false false
  obtain ⟨rfl, rfl⟩ := happ.unique hlongest
  exact ⟨happ, (halike.mpr rfl).trans hname, hname⟩

/-- **Accesses are not shortened like names.** Where `App.Gen` is known, too, a qualified name loses
all of it and a chain of accesses still loses only `App`. -/
theorem unalike_generatedPath :
    let context := generatedContext ["App", "App.Gen"]
    let s : PassState := { arena := generatedPath }
    (s.arena.IsChain .access (.ofIndex 4) ["App", "Gen", "X"] ∧
        s.arena.IsChain .name (.ofIndex 6) ["App", "Gen", "X"]) ∧
      (∀ below, context.model.symbolOf below = none) ∧
      context.namespaces.LongestBelow (s.arena.spell (.ofIndex 4)) "App.Gen" "X" ∧
      context.namespaces.contains (s.arena.spell (.ofIndex 4)) = false ∧
      context.visitedText maxDepth s (.ofIndex 4) false = "Gen.X" ∧
      context.visitedText maxDepth s (.ofIndex 6) false = "X" := by
  refine ⟨isChain_generatedPath, fun _ => rfl, ?_, by decide +kernel, by decide +kernel,
    by decide +kernel⟩
  exact KnownNamespaces.longestBelow?_eq_some_iff.mp (by decide +kernel)

end PassContext

end Portability
