import Portability.Proofs.Text.Segments
import Portability.Proofs.Tree.Frame
import Portability.Proofs.Tree.Spelling

/-!
# Chains of identifiers

A dotted path can stand in a tree as a chain of identifiers: each link puts one more identifier
behind what is before it, as a qualified name or as the access to a member. Either way the chain is
spelled by its identifiers with dots between them (`IsChain.spell_eq`), and a dotted name that is
built from a path is the chain of the path's segments (`isChain_dottedName`).
-/

namespace Portability

/-- How the links of a chain are made. -/
inductive LinkKind where
  | access
  | name
  deriving DecidableEq, Repr

/-- A link of a chain: an identifier behind what is before it. -/
def LinkKind.link : LinkKind → NodeId → NodeId → NodeData
  | access => .memberAccess
  | name => .qualifiedName

/-- A link has what is before it and its last part in its slots. -/
theorem LinkKind.slots_link (kind : LinkKind) (before last : NodeId) :
    (kind.link before last).slots = [before, last] := by
  cases kind <;> rfl

namespace NodeArena

variable {arena later : NodeArena} {kind : LinkKind} {id : NodeId} {segments : List String}

/-- Whether a handle names the chain of identifiers with the given texts. -/
inductive IsChain (arena : NodeArena) (kind : LinkKind) : NodeId → List String → Prop
  | identifier {id : NodeId} {text : String}
      (hdata : arena.data? id = some (.identifierName text)) : IsChain arena kind id [text]
  | link {id before last : NodeId} {segments : List String} {text : String}
      (hdata : arena.data? id = some (kind.link before last))
      (hbefore : IsChain arena kind before segments)
      (hlast : arena.data? last = some (.identifierName text)) :
      IsChain arena kind id (segments ++ [text])

/-- An identifier fits in a single level. -/
theorem fitsIn_of_identifierName {text : String}
    (hdata : arena.data? id = some (.identifierName text)) (levels : Nat) :
    arena.FitsIn (levels + 1) id := by
  intro child hchild
  rw [children_eq_of_data? hdata] at hchild
  exact absurd hchild List.not_mem_nil

/-- An identifier has nothing below it. -/
theorem Reaches.eq_of_identifierName {text : String} {below : NodeId}
    (hdata : arena.data? id = some (.identifierName text)) (h : arena.Reaches id below) :
    below = id := by
  rcases h.eq_or_slot hdata with heq | ⟨slot, hslot, -⟩
  · exact heq
  · exact absurd hslot List.not_mem_nil

/-- A link is spelled with a dot between its parts. -/
theorem spellTo_link {before last : NodeId} (hdata : arena.data? id = some (kind.link before last))
    (levels : Nat) : arena.spellTo (levels + 1) id =
      arena.spellTo levels before ++ "." ++ arena.spellTo levels last := by
  rw [spellTo, hdata]
  cases kind <;> rfl

namespace IsChain

/-- A chain has segments. -/
theorem segments_ne_nil (h : arena.IsChain kind id segments) : segments ≠ [] := by
  cases h with
  | identifier => exact List.cons_ne_nil _ _
  | link => exact List.append_ne_nil_of_right_ne_nil _ (List.cons_ne_nil _ _)

/-- A chain has one segment at least. -/
theorem exists_length_eq (h : arena.IsChain kind id segments) :
    ∃ levels, segments.length = levels + 1 :=
  ⟨segments.length - 1, (Nat.sub_add_cancel (List.length_pos_iff.mpr h.segments_ne_nil)).symm⟩

/-- The data of a chain: an identifier or a link. -/
theorem exists_data? (h : arena.IsChain kind id segments) :
    ∃ data, arena.data? id = some data ∧
      ((∃ text, data = .identifierName text) ∨ ∃ before last, data = kind.link before last) := by
  cases h with
  | identifier hdata => exact ⟨_, hdata, .inl ⟨_, rfl⟩⟩
  | link hdata => exact ⟨_, hdata, .inr ⟨_, _, rfl⟩⟩

/-- A chain has as many levels as segments. -/
theorem fitsIn (h : arena.IsChain kind id segments) : arena.FitsIn segments.length id := by
  induction h with
  | identifier hdata => exact fitsIn_of_identifierName hdata 0
  | @link id before last segments text hdata hbefore hlast ih =>
      rw [List.length_append, List.length_singleton]
      intro child hchild
      have hslot := mem_slots_of_mem_children hdata hchild
      rw [kind.slots_link] at hslot
      rcases List.mem_pair.mp hslot with rfl | rfl
      · exact ih
      · obtain ⟨levels, hlevels⟩ := hbefore.exists_length_eq
        rw [hlevels]
        exact fitsIn_of_identifierName hlast levels

/-- A chain is spelled by its identifiers with dots between them. -/
theorem spell_eq (h : arena.IsChain kind id segments) :
    arena.spell id = Dotted.join segments := by
  have hlevels : arena.spellTo segments.length id = Dotted.join segments := by
    induction h with
    | identifier hdata => rw [List.length_singleton, spellTo, hdata, Dotted.join_singleton]
    | @link id before last segments text hdata hbefore hlast ih =>
        obtain ⟨levels, hlength⟩ := hbefore.exists_length_eq
        have hlastSpell : arena.spellTo segments.length last = text := by
          rw [hlength, spellTo, hlast]
        rw [List.length_append, List.length_singleton, spellTo_link hdata, ih, hlastSpell,
          Dotted.join_append hbefore.segments_ne_nil (List.cons_ne_nil text []),
          Dotted.join_singleton]
  have hsize := h.fitsIn.isAcyclicBelow.fitsIn_size
  rw [spell, ← hlevels, ← hsize.spellTo_eq segments.length, Nat.add_comm, h.fitsIn.spellTo_eq]

/-- A chain stays one in an arena that has the data of everything below it. -/
theorem ofAgreeBelow (h : arena.IsChain kind id segments) (hagree : arena.AgreeBelow later id) :
    later.IsChain kind id segments := by
  induction h with
  | identifier hdata => exact .identifier (hagree.data?_eq.trans hdata)
  | @link id before last segments text hdata hbefore hlast ih =>
      have hslot {slot : NodeId} (hslot : slot ∈ [before, last]) : arena.AgreeBelow later slot :=
        hagree.slot hdata (kind.slots_link before last ▸ hslot)
      refine .link (hagree.data?_eq.trans hdata) (ih (hslot (.head _))) ?_
      exact (hslot (.tail _ (.head _))).data?_eq.trans hlast

/-- A chain stays one in an arena that keeps the data of every node. -/
theorem ofKeeps (h : arena.IsChain kind id segments)
    (hkeeps : ∀ other data, arena.data? other = some data → later.data? other = some data) :
    later.IsChain kind id segments := by
  induction h with
  | identifier hdata => exact .identifier (hkeeps _ _ hdata)
  | link hdata _ hlast ih => exact .link (hkeeps _ _ hdata) ih (hkeeps _ _ hlast)

end IsChain

/-! ### Building chains -/

/-- Segments that are added to a chain of names make it longer. -/
theorem isChain_dottedNameFrom {left : NodeId} (h : arena.IsChain .name left segments)
    (more : List String) :
    (arena.dottedNameFrom left more).2.IsChain .name (arena.dottedNameFrom left more).1
      (segments ++ more) := by
  induction more generalizing arena left segments with
  | nil =>
      rw [List.append_nil]
      exact h
  | cons segment rest ih =>
      have hsome : left.isNone = false := by
        obtain ⟨data, hdata, -⟩ := h.exists_data?
        obtain ⟨index, -, rfl⟩ := exists_index_of_data? hdata
        rfl
      have hright := changesOnly_alloc (fun _ => False) arena (.identifierName segment)
      have hqualified := changesOnly_alloc (fun _ => False)
        (arena.alloc (.identifierName segment)).2
        (.qualifiedName left (arena.alloc (.identifierName segment)).1)
      simp only [dottedNameFrom, identifier, hsome]
      rw [← List.singleton_append, ← List.append_assoc]
      have hlast : (arena.alloc (.identifierName segment)).2.data?
          (arena.alloc (.identifierName segment)).1 = some (.identifierName segment) :=
        (data?_alloc _ _ _).trans (if_pos rfl)
      refine ih (.link ((data?_alloc _ _ _).trans (if_pos rfl)) ?_ (hqualified.keeps hlast))
      exact h.ofKeeps fun _ _ hdata => hqualified.keeps (hright.keeps hdata)

/-- Segments that are put below no node make a chain. -/
theorem isChain_dottedNameFrom_none (arena : NodeArena) (hne : segments ≠ []) :
    (arena.dottedNameFrom .none segments).2.IsChain .name
      (arena.dottedNameFrom .none segments).1 segments := by
  cases segments with
  | nil => exact absurd rfl hne
  | cons first rest =>
      have hfirst : (arena.alloc (.identifierName first)).2.IsChain .name
          (arena.alloc (.identifierName first)).1 [first] :=
        .identifier ((data?_alloc _ _ _).trans (if_pos rfl))
      exact isChain_dottedNameFrom hfirst rest

/-- The dotted name of a path is the chain of its segments. -/
theorem isChain_dottedName (arena : NodeArena) (hne : segments ≠ [])
    (h : ∀ segment ∈ segments, Dotted.IsSegment segment) :
    (arena.dottedName (Dotted.join segments)).2.IsChain .name
      (arena.dottedName (Dotted.join segments)).1 segments := by
  rw [dottedName, Dotted.segments_join h]
  exact arena.isChain_dottedNameFrom_none hne

end NodeArena

end Portability
