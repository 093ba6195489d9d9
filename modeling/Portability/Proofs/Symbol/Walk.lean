import Mathlib.Data.List.Nodup
import Mathlib.Data.List.Perm.Subperm
import Portability.Symbol.Arena

/-!
# Walks

Naming and classifying a symbol follow one reference after the other: containing types, element
types, parents of namespaces. Such a loop goes from an item to the `next` one until there is none,
and `IsWalk` tells which items it passes; a loop that never ends has no walk.

* `IsWalk.nodup`: a walk passes nothing twice, since it would go round for ever.
* `exists_isWalk_of_acc`: a loop that only goes down in a well-founded order has a walk.
* `IsWalk.restrict`: a loop that stops earlier than another has a walk if the other one has.
-/

namespace Portability

variable {α : Type}

/-- The items that a loop passes which starts with one item and goes on with the `next` one, up to
the last. -/
inductive IsWalk (next : α → Option α) : Option α → List α → Prop
  | stop : IsWalk next none []
  | step {item : α} {rest : List α} :
      IsWalk next (next item) rest → IsWalk next (some item) (item :: rest)

namespace IsWalk

variable {next : α → Option α} {start : Option α} {visited : List α}

/-- A loop has one walk at most. -/
theorem unique {other : List α} (h : IsWalk next start visited) (hother : IsWalk next start other) :
    other = visited := by
  induction h generalizing other with
  | stop => cases hother; rfl
  | step _ ih =>
      cases hother with
      | step hrest => rw [ih hrest]

/-- From any item of a walk on there is a walk, the rest of it. -/
theorem exists_suffix (h : IsWalk next start visited) {item : α} (hitem : item ∈ visited) :
    ∃ rest, IsWalk next (some item) rest ∧ rest <:+ visited := by
  induction h with
  | stop => exact absurd hitem List.not_mem_nil
  | @step first rest hrest ih =>
      rcases List.mem_cons.mp hitem with rfl | hitem
      · exact ⟨item :: rest, .step hrest, List.suffix_refl _⟩
      · obtain ⟨suffix, hwalk, hsuffix⟩ := ih hitem
        exact ⟨suffix, hwalk, hsuffix.trans (List.suffix_cons first rest)⟩

/-- A walk passes nothing twice: an item that came again would have the same walk as before, and a
shorter one. -/
theorem nodup (h : IsWalk next start visited) : visited.Nodup := by
  induction h with
  | stop => exact .nil
  | @step item rest hrest ih =>
      refine List.nodup_cons.mpr ⟨fun hitem => ?_, ih⟩
      obtain ⟨suffix, hwalk, hsuffix⟩ := hrest.exists_suffix hitem
      have hsame : suffix = item :: rest := IsWalk.unique (.step hrest) hwalk
      have hlength := hsuffix.length_le
      rw [hsame, List.length_cons] at hlength
      omega

/-- What holds at the start and passes on to the next item holds on the whole walk. -/
theorem forall_mem {P : α → Prop} (h : IsWalk next start visited)
    (hstart : ∀ item ∈ start, P item) (hnext : ∀ item, P item → ∀ other ∈ next item, P other) :
    ∀ item ∈ visited, P item := by
  induction h with
  | stop => exact fun item hitem => absurd hitem List.not_mem_nil
  | @step first rest _ ih =>
      have hfirst : P first := hstart first rfl
      exact List.forall_mem_cons.mpr ⟨hfirst, ih (hnext first hfirst)⟩

/-- A loop that stops earlier has a walk, which begins like the longer one. -/
theorem restrict (h : IsWalk next start visited) {earlier : α → Option α}
    (hearlier : ∀ item, earlier item = next item ∨ earlier item = none) :
    ∃ passed, IsWalk earlier start passed ∧ passed <+: visited := by
  induction h with
  | stop => exact ⟨[], .stop, List.prefix_refl _⟩
  | @step item rest _ ih =>
      rcases hearlier item with hsame | hstop
      · obtain ⟨passed, hwalk, hprefix⟩ := ih
        refine ⟨item :: passed, .step (hsame ▸ hwalk), ?_⟩
        exact List.cons_prefix_cons.mpr ⟨rfl, hprefix⟩
      · refine ⟨[item], .step (hstop ▸ .stop), ?_⟩
        exact List.cons_prefix_cons.mpr ⟨rfl, List.nil_prefix⟩

/-- What comes before the last item of a walk has a next one, from which the rest is a walk. -/
theorem exists_next {first last : α} {rest : List α}
    (h : IsWalk next start (first :: (rest ++ [last]))) :
    start = some first ∧ ∃ other, next first = some other ∧
      IsWalk next (some other) (rest ++ [last]) := by
  cases h with
  | step hrest =>
      refine ⟨rfl, ?_⟩
      cases hnext : next first with
      | some other => exact ⟨other, rfl, hnext ▸ hrest⟩
      | none =>
          have hnil : rest ++ [last] = [] := IsWalk.unique .stop (hnext ▸ hrest)
          exact absurd hnil (List.concat_ne_nil last rest)

/-- The last item of a walk has no next one. -/
theorem next_getLast (h : IsWalk next start visited) {last : α}
    (hlast : visited.getLast? = some last) : next last = none := by
  induction h with
  | stop => cases hlast
  | @step item rest hrest ih =>
      cases rest with
      | nil =>
          obtain rfl : item = last := Option.some.inj hlast
          generalize hnext : next item = other at hrest
          cases hrest
          rfl
      | cons first others => exact ih (by rwa [List.getLast?_cons_cons] at hlast)

end IsWalk

/-- A loop that only goes down in a well-founded order has a walk. -/
theorem exists_isWalk_of_acc {next : α → Option α} {below : α → α → Prop}
    (hnext : ∀ item, ∀ other ∈ next item, below other item) {item : α} (h : Acc below item) :
    ∃ visited, IsWalk next (some item) visited := by
  induction h with
  | intro item _ ih =>
      cases hother : next item with
      | none => exact ⟨[item], .step (hother ▸ .stop)⟩
      | some other =>
          obtain ⟨rest, hrest⟩ := ih other (hnext item other hother)
          exact ⟨item :: rest, .step (hother ▸ hrest)⟩

/-! ### Bounds -/

/-- Items at different positions below a bound are not more than the bound. -/
theorem length_le_of_nodup {position : α → Nat} (hposition : Function.Injective position)
    {items : List α} (hnodup : items.Nodup) {bound : Nat}
    (h : ∀ item ∈ items, position item < bound) : items.length ≤ bound := by
  have hsubset : items.map position ⊆ List.range bound := by
    intro index hindex
    obtain ⟨item, hitem, rfl⟩ := List.mem_map.mp hindex
    exact List.mem_range.mpr (h item hitem)
  simpa using (List.subperm_of_subset (hnodup.map hposition) hsubset).length_le

namespace SymbolArena

variable {arena : SymbolArena}

/-- The symbols that exist are those at the positions of the arena. -/
theorem isSome_get? {id : SymbolId} : (arena.get? id).isSome ↔ id.index < arena.symbols.size := by
  simp [get?]

/-- The namespaces that exist are those at the positions of the arena. -/
theorem isSome_namespace? {id : NamespaceId} :
    (arena.namespace? id).isSome ↔ id.index < arena.namespaces.size := by
  simp [namespace?]

/-- What has a parent exists. -/
theorem isSome_namespace?_of_parent? {id parent : NamespaceId}
    (h : arena.parent? id = some parent) : (arena.namespace? id).isSome := by
  obtain ⟨ns, hns, -⟩ := Option.bind_eq_some_iff.mp h
  rw [hns]
  rfl

/-- The symbols that are listed are those that exist. -/
theorem mem_symbolIds {id : SymbolId} : id ∈ arena.symbolIds ↔ (arena.get? id).isSome := by
  rw [isSome_get?, symbolIds, List.mem_map]
  constructor
  · rintro ⟨index, hindex, rfl⟩
    exact List.mem_range.mp hindex
  · exact fun hindex => ⟨id.index, List.mem_range.mpr hindex, rfl⟩

/-- The namespaces that are listed are those that exist. -/
theorem mem_namespaceIds {id : NamespaceId} :
    id ∈ arena.namespaceIds ↔ (arena.namespace? id).isSome := by
  rw [isSome_namespace?, namespaceIds, List.mem_map]
  constructor
  · rintro ⟨index, hindex, rfl⟩
    exact List.mem_range.mp hindex
  · exact fun hindex => ⟨id.index, List.mem_range.mpr hindex, rfl⟩

/-- Different handles of symbols are not more than there are symbols. -/
theorem length_le_symbols {ids : List SymbolId} (hnodup : ids.Nodup)
    (h : ∀ id ∈ ids, (arena.get? id).isSome) : ids.length ≤ arena.symbols.size := by
  have hindex : Function.Injective SymbolId.index := fun ⟨_⟩ ⟨_⟩ heq => congrArg SymbolId.mk heq
  exact length_le_of_nodup hindex hnodup fun id hid => isSome_get?.mp (h id hid)

/-- Different handles of namespaces are not more than there are namespaces. -/
theorem length_le_namespaces {ids : List NamespaceId} (hnodup : ids.Nodup)
    (h : ∀ id ∈ ids, (arena.namespace? id).isSome) : ids.length ≤ arena.namespaces.size := by
  have hindex : Function.Injective NamespaceId.index :=
    fun ⟨_⟩ ⟨_⟩ heq => congrArg NamespaceId.mk heq
  exact length_le_of_nodup hindex hnodup fun id hid => isSome_namespace?.mp (h id hid)

end SymbolArena

end Portability
