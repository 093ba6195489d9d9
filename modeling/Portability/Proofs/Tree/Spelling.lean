import Portability.Proofs.Tree.Reach
import Portability.Tree.Spelling

/-!
# What a spelling depends on

A node is spelled by its data and the spellings of what its slots hold (`spellTo_succ_congr`). So
the spelling of a node of a tree only depends on the data below it: it is the same in every arena
that has not fewer nodes and *agrees* with the tree's arena there (`AgreeBelow.spell_eq`).
-/

namespace Portability

namespace NodeArena

/-- Whether the second arena has the data of the first at everything below a handle. -/
def AgreeBelow (arena other : NodeArena) (id : NodeId) : Prop :=
  ∀ below, arena.Reaches id below → other.data? below = arena.data? below

namespace AgreeBelow

variable {arena other : NodeArena} {id : NodeId}

/-- Arenas that agree below a handle have the same data for it. -/
theorem data?_eq (h : arena.AgreeBelow other id) : other.data? id = arena.data? id :=
  h id .refl

/-- Arenas that agree below a handle do so below all that it reaches. -/
theorem ofReaches (h : arena.AgreeBelow other id) {below : NodeId}
    (hbelow : arena.Reaches id below) : arena.AgreeBelow other below :=
  fun last hlast => h last (hbelow.trans hlast)

/-- Arenas that agree below a node do so below its slots. -/
theorem slot (h : arena.AgreeBelow other id) {data : NodeData} (hdata : arena.data? id = some data)
    {slot : NodeId} (hslot : slot ∈ data.slots) : arena.AgreeBelow other slot := by
  rcases eq_none_or_mem_children hdata hslot with rfl | hchild
  · intro below hbelow
    rw [hbelow.eq_of_data?_eq_none data?_none]
    rfl
  · exact h.ofReaches (.child hchild)

/-- Arenas that agree below a handle reach the same from it. -/
theorem reaches (h : arena.AgreeBelow other id) {below : NodeId} (hbelow : other.Reaches id below) :
    arena.Reaches id below := by
  induction hbelow with
  | refl => exact .refl
  | @tail parent child _ hchild ih =>
      have hsame : other.children parent = arena.children parent := by
        rw [children, children, h parent ih]
      exact ih.tail (hsame ▸ hchild)

end AgreeBelow

/-! ### Spellings -/

/-- Two nodes of the same data whose slots are spelled alike are spelled alike. -/
theorem spellTo_succ_congr {arena other : NodeArena} {m n : Nat} {id : NodeId}
    (hdata : other.data? id = arena.data? id)
    (h : ∀ data, arena.data? id = some data → ∀ slot ∈ data.slots,
      other.spellTo m slot = arena.spellTo n slot) :
    other.spellTo (m + 1) id = arena.spellTo (n + 1) id := by
  rw [spellTo, spellTo, hdata]
  cases hid : arena.data? id with
  | none => rfl
  | some data =>
      have hslot := h data hid
      have hslots (ids : List NodeId) (hids : ids ⊆ data.slots) :
          ids.map (other.spellTo m) = ids.map (arena.spellTo n) :=
        List.map_congr_left fun slot hmem => hslot slot (hids hmem)
      cases data
      case genericName text typeArguments => simp only [hslots typeArguments fun _ hmem => hmem]
      case invocation first arguments | objectCreation first arguments =>
        simp only [hslot first List.mem_cons_self,
          hslots arguments fun _ hmem => List.mem_cons_of_mem first hmem]
      case qualifiedName first second | memberAccess first second | cast first second
          | assignment first second =>
        simp only [hslot first List.mem_cons_self,
          hslot second (List.mem_cons_of_mem first List.mem_cons_self)]
      case argument name refKind expression => simp only [hslot expression List.mem_cons_self]
      case typeOf type => simp only [hslot type List.mem_cons_self]
      all_goals rfl

/-- What is no node is spelled by the empty text. -/
theorem spellTo_of_data?_eq_none {arena : NodeArena} {id : NodeId} (h : arena.data? id = none)
    (levels : Nat) : arena.spellTo levels id = "" := by
  cases levels with
  | zero => rfl
  | succ levels => rw [spellTo, h]

/-- A spelling needs no more levels than there are. -/
theorem FitsIn.spellTo_eq {arena : NodeArena} {levels : Nat} {id : NodeId}
    (h : arena.FitsIn levels id) (more : Nat) :
    arena.spellTo (levels + more) id = arena.spellTo levels id := by
  induction levels generalizing id with
  | zero =>
      have hnone : arena.data? id = none := data?_eq_none_iff.mpr h
      rw [spellTo_of_data?_eq_none hnone, spellTo_of_data?_eq_none hnone]
  | succ levels ih =>
      rw [Nat.add_right_comm]
      exact spellTo_succ_congr rfl fun data hdata slot hslot => ih (h.slot hdata hslot)

/-- An identifier is spelled by its text. -/
theorem spell_of_identifierName {arena : NodeArena} {id : NodeId} {text : String}
    (hdata : arena.data? id = some (.identifierName text)) : arena.spell id = text := by
  have hfits : arena.FitsIn 1 id := by
    intro child hchild
    rw [children_eq_of_data? hdata] at hchild
    exact absurd hchild List.not_mem_nil
  rw [spell, ← hfits.isAcyclicBelow.fitsIn_size.spellTo_eq 1, spellTo, hdata]

/-- A qualified name is spelled by its parts with a dot between them. -/
theorem FitsIn.spell_eq_of_qualifiedName {arena : NodeArena} {id left right : NodeId}
    (h : arena.FitsIn arena.size id) (hdata : arena.data? id = some (.qualifiedName left right)) :
    arena.spell id = arena.spell left ++ "." ++ arena.spell right := by
  rw [spell, ← h.spellTo_eq 1, spellTo, hdata]
  rfl

/-- A handle is spelled the same way in arenas that agree below it, at any depth. -/
theorem AgreeBelow.spellTo_eq {arena other : NodeArena} {id : NodeId}
    (h : arena.AgreeBelow other id) (levels : Nat) :
    other.spellTo levels id = arena.spellTo levels id := by
  induction levels generalizing id with
  | zero => rfl
  | succ levels ih =>
      exact spellTo_succ_congr h.data?_eq fun data hdata slot hslot => ih (h.slot hdata hslot)

/-- A node that fits in the levels of its arena is spelled alike in every arena with as many nodes
that agrees below it. -/
theorem AgreeBelow.spell_eq {arena other : NodeArena} {id : NodeId}
    (h : arena.AgreeBelow other id) (hfits : arena.FitsIn arena.size id)
    (hsize : arena.size ≤ other.size) : other.spell id = arena.spell id := by
  obtain ⟨more, hmore⟩ := Nat.exists_eq_add_of_le hsize
  rw [spell, spell, h.spellTo_eq, hmore, hfits.spellTo_eq]

end NodeArena

end Portability
