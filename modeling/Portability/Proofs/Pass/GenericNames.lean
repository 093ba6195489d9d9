import Portability.Proofs.Pass.QualifiedNames
import Portability.Proofs.Pass.Sparing
import Portability.Proofs.Pass.Visits

/-!
# The shortening of generic names

A name that loses a known namespace may have generic segments, whose type arguments are names in
their own right. The last segment of a name is visited and keeps its kind, with what answers the
visits of its type arguments (`visit_of_isSimpleName`). The segments before it do not: what is left
of them is built anew from their text, as a chain of identifiers (`shortened_of_isSimpleName`).
-/

namespace Portability

/-- A chain of identifiers with texts is one as far as shortening is concerned. -/
theorem NodeArena.IsChain.isNameChain {arena : NodeArena} {id : NodeId} {segments : List String}
    (h : arena.IsChain .name id segments) (hsegments : ∀ segment ∈ segments, segment ≠ "") :
    arena.IsNameChain id := by
  induction h with
  | identifier hdata => exact .identifier hdata (hsegments _ (.head _))
  | link hdata _ hlast ih =>
      obtain ⟨hearlier, htext⟩ := List.forall_mem_append.mp hsegments
      exact .qualified hdata (ih hearlier) hlast (htext _ (.head _))

namespace PassContext

variable {context : PassContext} {s : PassState} {id : NodeId}

/-- Whether a simple name answers in the place of a name, of its kind still and with the given type
arguments. -/
structure StandsIn (last : NodeId) (data : NodeData) (ids : List NodeId)
    (outcome : NodeId × PassState) : Prop where
  answer_eq : outcome.1 = last
  data?_eq : outcome.2.arena.data? last = some (data.withSlots ids)

/-- Whether what answers in the place of a name is a simple name behind a chain of identifiers, the
segments of a path. The simple name is of its kind still and has the given type arguments. -/
structure Requalifies (path : String) (last : NodeId) (data : NodeData) (ids : List NodeId)
    (outcome : NodeId × PassState) : Prop where
  data?_eq : outcome.2.arena.data? last = some (data.withSlots ids)
  exists_qualifier : ∃ qualifier,
    outcome.2.arena.data? outcome.1 = some (.qualifiedName qualifier last) ∧
    (Dotted.segments path = [] ∧ qualifier = .none ∨
      outcome.2.arena.IsChain .name qualifier (Dotted.segments path))

/-- Visits keep a chain of identifiers. -/
theorem isChain_visitTo {segments : List String} (h : s.arena.IsChain .name id segments)
    (hsegments : ∀ segment ∈ segments, segment ≠ "") (levels : Nat) (other : NodeId)
    (isCallee : Bool) :
    ((context.visitTo levels other isCallee).run s).2.arena.IsChain .name id segments := by
  have hrelinks := (context.relinksAt_visitTo levels other isCallee s (.refl _ s.arena)).relinks
  refine h.ofAgreeBelow fun below hbelow => hrelinks.chains below ?_
  exact (h.isNameChain hsegments).ofReaches hbelow

/-- A simple name answers its visit and is of its kind still, with what answers the visits of its
type arguments. -/
theorem visit_of_isSimpleName {data : NodeData} (hdata : s.arena.data? id = some data)
    (hsimple : data.isSimpleName) (levels : Nat) (isCallee : Bool) :
    let arguments := (visitAll (context.visitTo levels) (data.slots.map (·, false))).run s
    StandsIn id data arguments.1 ((context.visitTo (levels + 1) id isCallee).run s) := by
  intro arguments
  obtain ⟨hsteady, hcalls, hconstruct⟩ :
      data.isSteady ∧ data.calls = data.slots.map (·, false) ∧ unsupported? data = none := by
    cases data
    case identifierName | genericName => exact ⟨rfl, rfl, rfl⟩
    all_goals cases hsimple
  have hcontains : ∃ ids, arguments.2.arena.data? id = some (data.withSlots ids) := by
    have hrelinks := (relinks_mapM (fun slot isCallee s =>
      context.relinksAt_visitTo levels slot isCallee s) (.refl _ s.arena)
      (data.slots.map (·, false))).1
    obtain ⟨ids, -, hids⟩ := hrelinks.slots id data hdata
    exact ⟨ids, hids⟩
  rw [run_visitTo_of_data? _ hdata,
    run_visitNode_of_isSteady _ _ (context.visitTo_none levels) hsteady,
    relink_of_unsupported?_eq_none _ _ hconstruct, visitSlots, hcalls]
  refine ⟨rfl, (data?_settle (context.checkAfter s.arena id data isCallee) { arguments.2 with
    arena := arguments.2.arena.setData id (data.withSlots arguments.1) } id).trans ?_⟩
  obtain ⟨ids, hids⟩ := hcontains
  rw [NodeArena.data?_setData, if_pos rfl, hids, Option.map_some]

section

variable {last : NodeId} {data : NodeData} (hlast : s.arena.data? last = some data)
  (hsimple : data.isSimpleName)

include hlast hsimple

/-- A simple name that stands in for a node. -/
theorem standIn_of_isSimpleName (levels : Nat) (id : NodeId) :
    let arguments := (visitAll (context.visitTo levels) (data.slots.map (·, false))).run s
    StandsIn last data arguments.1 ((standIn (context.visitTo (levels + 1)) id last).run s) := by
  intro arguments
  obtain ⟨hanswer, hvisited⟩ := context.visit_of_isSimpleName hlast hsimple levels false
  exact ⟨hanswer, ((NodeArena.sameShape_copyComments ..).data?_eq last).trans hvisited⟩

/-- A simple name that is put behind a qualifier built from a path. -/
theorem requalify_of_isSimpleName (path : String) (levels : Nat) (id : NodeId) :
    let built : PassState := { s with arena := (s.arena.dottedName path).2 }
    let arguments := (visitAll (context.visitTo levels) (data.slots.map (·, false))).run built
    Requalifies path last data arguments.1
      ((requalify (context.visitTo (levels + 1)) id path last).run s) := by
  intro built arguments
  have hbuilt : built.arena.data? last = some data :=
    (NodeArena.changesOnly_dottedName (fun _ => False) s.arena path).keeps hlast
  let visited := (context.visitTo (levels + 1) last false).run built
  let qualifier := (s.arena.dottedName path).1
  let added := visited.2.arena.alloc (.qualifiedName qualifier visited.1)
  let later := added.2.copyComments id added.1
  have hrun : (requalify (context.visitTo (levels + 1)) id path last).run s =
      (added.1, { visited.2 with arena := later }) := rfl
  -- what the visit leaves is kept
  have hshape : NodeArena.SameShape later added.2 := NodeArena.sameShape_copyComments ..
  have hkeeps (other : NodeId) (data : NodeData)
      (hother : visited.2.arena.data? other = some data) : later.data? other = some data :=
    (hshape.data?_eq other).trans ((NodeArena.changesOnly_alloc _ visited.2.arena _).keeps hother)
  have hvisited : StandsIn last data arguments.1 visited :=
    visit_of_isSimpleName hbuilt hsimple levels false
  rw [hrun]
  refine ⟨hkeeps last _ hvisited.data?_eq, qualifier, ?_, ?_⟩
  · rw [← hvisited.answer_eq]
    exact (hshape.data?_eq added.1).trans ((NodeArena.data?_alloc ..).trans (if_pos rfl))
  · by_cases hnil : Dotted.segments path = []
    · refine .inl ⟨hnil, ?_⟩
      simp only [qualifier, NodeArena.dottedName, hnil, NodeArena.dottedNameFrom]
    · have hchain : built.arena.IsChain .name qualifier (Dotted.segments path) :=
        s.arena.isChain_dottedNameFrom_none hnil
      have hsegments : ∀ segment ∈ Dotted.segments path, segment ≠ "" :=
        fun segment hmem => (Dotted.isSegment_of_mem_segments hmem).1
      exact .inr ((isChain_visitTo hchain hsegments (levels + 1) last false).ofKeeps hkeeps)

end

/-- **Shortening keeps the last segment of a name and nothing of the segments before.** Let the last
segment of a qualified name be an identifier or a generic name, and let the name not be known. If
its qualifier is known, the last segment stands in for the name; if the qualifier goes on after a
known namespace, the last segment is put behind what it goes on with. Either way the last segment is
of its kind still and has what answers the visits of its type arguments. The new qualifier is built
from the segments of a text: it is a chain of identifiers, whatever the old one was. -/
theorem shortened_of_isSimpleName {left last : NodeId} {data : NodeData}
    (hdata : s.arena.data? id = some (.qualifiedName left last))
    (hlast : s.arena.data? last = some data) (hsimple : data.isSimpleName)
    (hunknown : context.namespaces.contains (s.arena.spell id) = false) (levels : Nat)
    (isCallee : Bool) :
    let start := (context.opening s id (.qualifiedName left last)).1
    let arguments := (visitAll (context.visitTo levels) (data.slots.map (·, false))).run start
    let visited := (context.visitTo (levels + 2) id isCallee).run s
    (context.namespaces.contains (s.arena.spell left) = true →
      StandsIn last data arguments.1 visited) ∧
    (context.namespaces.contains (s.arena.spell left) = false →
      ∀ ns rest, context.namespaces.LongestBelow (s.arena.spell left) ns rest →
        Requalifies rest last data arguments.1 visited) := by
  intro start arguments visited
  have hrun : visited =
      (context.visitQualifiedName (context.visitTo (levels + 1)) id left last).run s :=
    context.run_visitTo_of_data? hdata (levels + 1) isCallee
  rw [run_visitQualifiedName, hunknown, if_neg Bool.false_ne_true] at hrun
  refine ⟨fun hknown => ?_, fun hleft ns rest hlongest => ?_⟩
  · have hstart : start = s := by
      simp only [start, opening, hunknown, hknown, Bool.false_eq_true, if_false, if_true]
    rw [if_pos hknown] at hrun
    rw [hrun]
    simp only [arguments, hstart]
    exact standIn_of_isSimpleName hlast hsimple levels id
  · have hfound := KnownNamespaces.longestBelow?_eq_some_iff.mpr hlongest
    -- the arguments are visited after the nodes of the new qualifier are added
    have hstart : start = { s with arena := (s.arena.dottedName rest).2 } := by
      simp only [start, opening, hunknown, hleft, hfound, Bool.false_eq_true, if_false]
    rw [hleft, if_neg Bool.false_ne_true, hfound] at hrun
    rw [hrun]
    simp only [arguments, hstart]
    exact requalify_of_isSimpleName hlast hsimple rest levels id

/-- The name `App.Box<App.Tool>.Item`. -/
def itemOfBox : NodeArena where
  nodes := #[
    { data := .identifierName "App" },
    { data := .identifierName "App" },
    { data := .identifierName "Tool" },
    { data := .qualifiedName (.ofIndex 1) (.ofIndex 2) },
    { data := .genericName "Box" [.ofIndex 3] },
    { data := .qualifiedName (.ofIndex 0) (.ofIndex 4) },
    { data := .identifierName "Item" },
    { data := .qualifiedName (.ofIndex 5) (.ofIndex 6) }]

/-- Where `App` is known, `App.Box<App.Tool>` is shortened to the generic name, whose type argument
is shortened, too. In front of `Item` there are two identifiers in its place. -/
theorem shortened_itemOfBox :
    let context := generatedContext ["App"]
    let s : PassState := { arena := itemOfBox }
    let box := (context.visitTo 3 (.ofIndex 5) false).run s
    let item := (context.visitTo 3 (.ofIndex 7) false).run s
    (box.1 = .ofIndex 4 ∧ box.2.arena.data? (.ofIndex 4) = some (.genericName "Box" [.ofIndex 2])) ∧
    context.namespaces.LongestBelow (s.arena.spell (.ofIndex 5)) "App" "Box<App.Tool>" ∧
    ∃ qualifier, item.2.arena.data? item.1 = some (.qualifiedName qualifier (.ofIndex 6)) ∧
      item.2.arena.IsChain .name qualifier ["Box<App", "Tool>"] := by
  intro context s box item
  have hlongest :
      context.namespaces.LongestBelow (s.arena.spell (.ofIndex 5)) "App" "Box<App.Tool>" :=
    KnownNamespaces.longestBelow?_eq_some_iff.mp (by decide +kernel)
  have hbox : StandsIn (.ofIndex 4) (.genericName "Box" [.ofIndex 3]) _ box :=
    (shortened_of_isSimpleName rfl rfl rfl (by decide +kernel) 1 false).1 (by decide +kernel)
  have hitem : Requalifies "Box<App.Tool>" (.ofIndex 6) (.identifierName "Item") _ item :=
    (shortened_of_isSimpleName rfl rfl rfl (by decide +kernel) 1 false).2 (by decide +kernel)
      "App" "Box<App.Tool>" hlongest
  obtain ⟨qualifier, hdata, hqualifier⟩ := hitem.exists_qualifier
  have hsegments : Dotted.segments "Box<App.Tool>" = ["Box<App", "Tool>"] := by decide +kernel
  rw [hsegments] at hqualifier
  refine ⟨⟨hbox.answer_eq, hbox.data?_eq.trans (by decide +kernel)⟩, hlongest, qualifier, hdata, ?_⟩
  exact hqualifier.resolve_left fun hnil => List.cons_ne_nil _ _ hnil.1

/-- **Generic segments before the last are not kept.** Shortening removes `App` and leaves no
generic name: with the text of the qualifier the type argument of `Box` is cut in two, and the known
namespace stands in it still. -/
theorem unkept_itemOfBox :
    let context := generatedContext ["App"]
    let s : PassState := { arena := itemOfBox }
    let item := (context.visitTo maxDepth (.ofIndex 7) false).run s
    s.arena.spell (.ofIndex 7) = "App.Box<App.Tool>.Item" ∧
    item.2.arena.spell item.1 = "Box<App.Tool>.Item" ∧
    item.2.arena.data? (.ofIndex 8) = some (.identifierName "Box<App") ∧
    item.2.arena.data? (.ofIndex 9) = some (.identifierName "Tool>") ∧
    item.2.arena.data? (.ofIndex 10) = some (.qualifiedName (.ofIndex 8) (.ofIndex 9)) ∧
    item.2.arena.data? item.1 = some (.qualifiedName (.ofIndex 10) (.ofIndex 6)) ∧
    ∀ below data, item.2.arena.Reaches item.1 below → item.2.arena.data? below = some data →
      data.kind ≠ .genericName := by
  intro context s item
  let left : List NodeId := [.ofIndex 11, .ofIndex 10, .ofIndex 8, .ofIndex 9, .ofIndex 6]
  have hleft : ∀ below ∈ left, (∀ child ∈ item.2.arena.children below, child ∈ left) ∧
      ∀ data ∈ item.2.arena.data? below, data.kind ≠ .genericName := by decide +kernel
  refine ⟨by decide +kernel, by decide +kernel, by decide +kernel, by decide +kernel,
    by decide +kernel, by decide +kernel, fun below data hbelow hdata => ?_⟩
  have hmem : below ∈ left := hbelow.induction (by decide +kernel)
    fun parent hparent => (hleft parent hparent).1
  exact (hleft below hmem).2 data hdata

end PassContext

end Portability
