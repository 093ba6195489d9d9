import Mathlib.Data.List.Flatten
import Portability.Proofs.Tree.Reach

/-!
# Walks through trees

A walk lists a node before the parts of it that it goes on to, in their order. Which parts these are
is up to the walk, but in a tree, where they are slots of the node, no node is listed twice
(`nodup_preorderTo`), and those listed are those that it leads to (`mem_preorderTo_iff`), which
takes fewer steps than the arena has nodes (`Leads.exists_lt_size`). Where no walk goes round in
circles, none takes more (`Leads.lt_size`).
-/

namespace Portability

namespace NodeArena

/-- What a walk goes on to from a node. -/
abbrev Parts := NodeId → NodeData → List NodeId

/-- The nodes of a walk on the given number of levels below and including a handle. -/
def preorderTo (arena : NodeArena) (parts : Parts) : Nat → NodeId → List NodeId
  | 0, _ => []
  | levels + 1, id =>
    match arena.data? id with
    | none => []
    | some data => id :: (parts id data).flatMap (arena.preorderTo parts levels)

/-- Whether a walk leads from one handle to another in the given number of steps. -/
inductive Leads (arena : NodeArena) (parts : Parts) : Nat → NodeId → NodeId → Prop
  | here {id : NodeId} (h : arena.contains id) : Leads arena parts 0 id id
  | step {depth : Nat} {id part below : NodeId} {data : NodeData}
      (hdata : arena.data? id = some data) (hpart : part ∈ parts id data)
      (h : Leads arena parts depth part below) : Leads arena parts (depth + 1) id below

variable {arena : NodeArena} {parts : Parts}

/-- A walk from no node lists nothing. -/
theorem preorderTo_of_data?_eq_none {id : NodeId} (h : arena.data? id = none) (levels : Nat) :
    arena.preorderTo parts levels id = [] := by
  cases levels with
  | zero => rfl
  | succ levels => rw [preorderTo, h]

/-- A walk from a node lists it first and then what is walked from its parts. -/
theorem preorderTo_of_data? {id : NodeId} {data : NodeData} (h : arena.data? id = some data)
    (levels : Nat) :
    arena.preorderTo parts (levels + 1) id =
      id :: (parts id data).flatMap (arena.preorderTo parts levels) := by
  rw [preorderTo, h]

/-- **Membership.** A walk on some levels lists what it leads to in fewer steps. -/
theorem mem_preorderTo_iff {levels : Nat} {id below : NodeId} :
    below ∈ arena.preorderTo parts levels id ↔
      ∃ depth < levels, arena.Leads parts depth id below := by
  constructor
  · intro hmem
    induction levels generalizing id with
    | zero => exact absurd hmem List.not_mem_nil
    | succ levels ih =>
        cases hdata : arena.data? id with
        | none =>
            rw [preorderTo_of_data?_eq_none hdata] at hmem
            exact absurd hmem List.not_mem_nil
        | some data =>
            rw [preorderTo_of_data? hdata] at hmem
            rcases List.mem_cons.mp hmem with rfl | hmem
            · exact ⟨0, Nat.succ_pos levels, .here (contains_iff.mpr ⟨data, hdata⟩)⟩
            · obtain ⟨part, hpart, hbelow⟩ := List.mem_flatMap.mp hmem
              obtain ⟨depth, hdepth, hleads⟩ := ih hbelow
              exact ⟨depth + 1, Nat.succ_lt_succ hdepth, .step hdata hpart hleads⟩
  · rintro ⟨depth, hdepth, hleads⟩
    induction hleads generalizing levels with
    | here h =>
        obtain ⟨levels, rfl⟩ := Nat.exists_eq_add_one.mpr hdepth
        obtain ⟨data, hdata⟩ := contains_iff.mp h
        rw [preorderTo_of_data? hdata]
        exact List.mem_cons_self
    | step hdata hpart _ ih =>
        obtain ⟨levels, rfl⟩ := Nat.exists_eq_add_one.mpr (Nat.zero_lt_of_lt hdepth)
        rw [preorderTo_of_data? hdata]
        exact List.mem_cons_of_mem _
          (List.mem_flatMap.mpr ⟨_, hpart, ih (Nat.lt_of_succ_lt_succ hdepth)⟩)

/-- A walk that goes on to more lists more. -/
theorem preorderTo_sublist {more : Parts} (h : ∀ id data, (parts id data).Sublist (more id data))
    (levels : Nat) (id : NodeId) :
    (arena.preorderTo parts levels id).Sublist (arena.preorderTo more levels id) := by
  induction levels generalizing id with
  | zero => exact List.Sublist.slnil
  | succ levels ih =>
      cases hdata : arena.data? id with
      | none =>
          rw [preorderTo_of_data?_eq_none hdata]
          exact List.nil_sublist _
      | some data =>
          rw [preorderTo_of_data? hdata, preorderTo_of_data? hdata]
          have hmore := (h id data).flatMap (arena.preorderTo parts levels)
          exact (hmore.trans (List.Sublist.flatMap_right _ fun part _ => ih part)).cons_cons id

/-! ### Short walks -/

/-- Whether a walk leads from one handle to another by way of the given nodes, both ends
included. -/
inductive LeadsBy (arena : NodeArena) (parts : Parts) : List NodeId → NodeId → NodeId → Prop
  | here {id : NodeId} (h : arena.contains id) : LeadsBy arena parts [id] id id
  | step {way : List NodeId} {id part below : NodeId} {data : NodeData}
      (hdata : arena.data? id = some data) (hpart : part ∈ parts id data)
      (h : LeadsBy arena parts way part below) : LeadsBy arena parts (id :: way) id below

namespace LeadsBy

variable {way : List NodeId} {id below : NodeId}

/-- A walk goes by nodes of the arena. -/
theorem contains (h : arena.LeadsBy parts way id below) : ∀ node ∈ way, arena.contains node := by
  induction h with
  | here h => exact List.forall_mem_singleton.mpr h
  | step hdata _ _ ih => exact List.forall_mem_cons.mpr ⟨contains_iff.mpr ⟨_, hdata⟩, ih⟩

/-- A walk has a step less than it goes by nodes. -/
theorem leads (h : arena.LeadsBy parts way id below) :
    ∃ depth < way.length, arena.Leads parts depth id below := by
  induction h with
  | here h => exact ⟨0, Nat.one_pos, .here h⟩
  | step hdata hpart _ ih =>
      obtain ⟨depth, hdepth, hleads⟩ := ih
      exact ⟨depth + 1, Nat.succ_lt_succ hdepth, .step hdata hpart hleads⟩

/-- From any node on its way a walk goes the rest of the way. -/
theorem exists_suffix (h : arena.LeadsBy parts way id below) {node : NodeId} (hmem : node ∈ way) :
    ∃ rest, rest <:+ way ∧ arena.LeadsBy parts rest node below := by
  induction h with
  | here h =>
      obtain rfl := List.mem_singleton.mp hmem
      exact ⟨[node], List.suffix_rfl, .here h⟩
  | step hdata hpart h ih =>
      rcases List.mem_cons.mp hmem with rfl | hmem
      · exact ⟨_, List.suffix_rfl, .step hdata hpart h⟩
      · obtain ⟨rest, hsuffix, hrest⟩ := ih hmem
        exact ⟨rest, hsuffix.trans (List.suffix_cons _ _), hrest⟩

end LeadsBy

/-- Leaving out what lies between two visits of one node, a walk passes every node once. -/
theorem Leads.exists_nodup {depth : Nat} {id below : NodeId}
    (h : arena.Leads parts depth id below) :
    ∃ way : List NodeId, way.Nodup ∧ arena.LeadsBy parts way id below := by
  induction h with
  | here h => exact ⟨_, List.nodup_singleton _, .here h⟩
  | @step depth id part below data hdata hpart _ ih =>
      obtain ⟨way, hnodup, hway⟩ := ih
      by_cases hmem : id ∈ way
      · obtain ⟨rest, hsuffix, hrest⟩ := hway.exists_suffix hmem
        exact ⟨rest, hnodup.sublist hsuffix.sublist, hrest⟩
      · exact ⟨id :: way, List.nodup_cons.mpr ⟨hmem, hnodup⟩, .step hdata hpart hway⟩

/-- Where a walk leads it leads in fewer steps than the arena has nodes. -/
theorem Leads.exists_lt_size {depth : Nat} {id below : NodeId}
    (h : arena.Leads parts depth id below) :
    ∃ steps < arena.size, arena.Leads parts steps id below := by
  obtain ⟨way, hnodup, hway⟩ := h.exists_nodup
  obtain ⟨steps, hsteps, hleads⟩ := hway.leads
  exact ⟨steps, Nat.lt_of_lt_of_le hsteps (length_le_size hnodup hway.contains), hleads⟩

/-! ### Walks without cycles -/

/-- Whether no walk leads from a node back to it. -/
def IsAcyclic (arena : NodeArena) (parts : Parts) : Prop :=
  ∀ depth id, ¬ arena.Leads parts (depth + 1) id id

/-- A walk begins at a node of the arena. -/
theorem Leads.contains_start {depth : Nat} {id below : NodeId}
    (h : arena.Leads parts depth id below) : arena.contains id := by
  cases h with
  | here h => exact h
  | step hdata _ _ => exact contains_iff.mpr ⟨_, hdata⟩

/-- A walk goes on to the parts of the node where it ends. -/
theorem Leads.tail {depth : Nat} {id below part : NodeId} {data : NodeData}
    (h : arena.Leads parts depth id below) (hdata : arena.data? below = some data)
    (hpart : part ∈ parts below data) (hcontains : arena.contains part) :
    arena.Leads parts (depth + 1) id part := by
  induction h with
  | here => exact .step hdata hpart (.here hcontains)
  | step hfirst hnext _ ih => exact .step hfirst hnext (ih hdata hpart)

/-- Without cycles a walk is shorter than the arena has nodes besides those above its start. -/
theorem Leads.add_length_lt_size (hacyclic : arena.IsAcyclic parts) {depth : Nat}
    {id below : NodeId} (h : arena.Leads parts depth id below) {above : List NodeId}
    (hnodup : above.Nodup)
    (habove : ∀ other ∈ above, arena.contains other ∧
      ∃ steps, arena.Leads parts (steps + 1) other id) :
    depth + above.length < arena.size := by
  induction h generalizing above with
  | @here id hid =>
      have hself : id ∉ above := fun hmem =>
        (habove id hmem).2.elim fun steps hback => hacyclic steps id hback
      have hlength := length_le_size (List.nodup_cons.mpr ⟨hself, hnodup⟩)
        (List.forall_mem_cons.mpr ⟨hid, fun other hmem => (habove other hmem).1⟩)
      rw [List.length_cons] at hlength
      omega
  | @step depth id part below data hdata hpart hrest ih =>
      have hself : id ∉ above := fun hmem =>
        (habove id hmem).2.elim fun steps hback => hacyclic steps id hback
      have hid : arena.contains id := contains_iff.mpr ⟨data, hdata⟩
      have hnext := ih (List.nodup_cons.mpr ⟨hself, hnodup⟩) (List.forall_mem_cons.mpr
        ⟨⟨hid, 0, .step hdata hpart (.here hrest.contains_start)⟩, fun other hmem => ?_⟩)
      · rw [List.length_cons] at hnext
        omega
      · obtain ⟨hother, steps, hleads⟩ := habove other hmem
        exact ⟨hother, steps + 1, hleads.tail hdata hpart hrest.contains_start⟩

/-- Without cycles every walk is shorter than the arena has nodes. -/
theorem Leads.lt_size (hacyclic : arena.IsAcyclic parts) {depth : Nat} {id below : NodeId}
    (h : arena.Leads parts depth id below) : depth < arena.size :=
  h.add_length_lt_size hacyclic List.nodup_nil (List.forall_mem_nil _)

/-- A walk that only goes on to earlier nodes does not go round in circles. -/
theorem isAcyclic_of_earlier
    (h : ∀ index < arena.size, ∀ data ∈ arena.data? (.ofIndex index),
      ∀ part ∈ parts (.ofIndex index) data, part.toNumber < index) : arena.IsAcyclic parts := by
  have hearlier {depth : Nat} {id below : NodeId} (hleads : arena.Leads parts depth id below) :
      below.toNumber + depth ≤ id.toNumber := by
    induction hleads with
    | here => exact Nat.le_refl _
    | step hdata hpart _ ih =>
        obtain ⟨index, hindex, rfl⟩ := exists_index_of_data? hdata
        have hlt := h index hindex _ hdata _ hpart
        change _ ≤ index
        omega
  intro depth id hback
  have hle := hearlier hback
  omega

/-! ### Walks through slots -/

variable (hparts : ∀ id data, (parts id data).Sublist data.slots)

include hparts

/-- A walk through slots leads to nodes below its start. -/
theorem Leads.place {depth : Nat} {id below : NodeId} (h : arena.Leads parts depth id below) :
    arena.contains below ∧ arena.Reaches id below := by
  induction h with
  | here h => exact ⟨h, .refl⟩
  | step hdata hpart _ ih =>
      obtain ⟨hcontains, hreach⟩ := ih
      exact ⟨hcontains, .ofSlot hdata ((hparts _ _).subset hpart)
        (isSome_of_contains hcontains) hreach⟩

/-- What is listed is a node below the start. -/
theorem place_of_mem_preorderTo {levels : Nat} {id below : NodeId}
    (h : below ∈ arena.preorderTo parts levels id) :
    arena.contains below ∧ arena.Reaches id below := by
  obtain ⟨_, -, hleads⟩ := mem_preorderTo_iff.mp h
  exact hleads.place hparts

/-- **No node twice.** A walk through slots of a tree lists every node at most once. -/
theorem nodup_preorderTo {root : NodeId} (htree : arena.IsTree root) (levels : Nat) {id : NodeId}
    (hid : arena.Reaches root id) : (arena.preorderTo parts levels id).Nodup := by
  induction levels generalizing id with
  | zero => exact List.nodup_nil
  | succ levels ih =>
      cases hdata : arena.data? id with
      | none =>
          rw [preorderTo_of_data?_eq_none hdata]
          exact List.nodup_nil
      | some data =>
          have hslot {part : NodeId} (hpart : part ∈ parts id data) : part ∈ data.slots :=
            (hparts id data).subset hpart
          rw [preorderTo_of_data? hdata, List.nodup_cons, List.nodup_flatMap]
          refine ⟨fun hmem => ?_, fun part hpart => ?_, ?_⟩
          · -- the node is not below itself
            obtain ⟨part, hpart, hbelow⟩ := List.mem_flatMap.mp hmem
            exact htree.not_reaches_of_mem_slots hid hdata (hslot hpart)
              (place_of_mem_preorderTo hparts hbelow).2
          · rcases eq_none_or_mem_children hdata (hslot hpart) with rfl | hchild
            · rw [preorderTo_of_data?_eq_none data?_none]
              exact List.nodup_nil
            · exact ih (hid.tail hchild)
          · -- no node is below two parts
            refine ((htree.pairwise_apart_slots hid hdata).sublist (hparts id data)).imp ?_
            intro first second hapart below hfirst hsecond
            obtain ⟨hcontains, hreach⟩ := place_of_mem_preorderTo hparts hfirst
            exact hapart below hcontains hreach (place_of_mem_preorderTo hparts hsecond).2

end NodeArena

end Portability
