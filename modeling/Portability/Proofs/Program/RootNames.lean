import Portability.Proofs.KnownNamespaces
import Portability.Proofs.Program.Collecting

/-!
# The namespaces below a root

In a tree of namespaces the names on the way up tell where a namespace stands: it is below another
one exactly if its names end with those of the other (`lists_iff_suffix`). So the known namespaces
of a root that exists are those whose path is the root or goes on after it with a dot
(`mem_names_collect_iff`). A path that only begins with the characters of the root is none of them.
-/

namespace Portability

namespace SymbolArena

variable {arena : SymbolArena} {start id : NamespaceId} {path : String}

namespace IsNamespaceTree

variable (h : arena.IsNamespaceTree)

include h

/-- Namespaces with the same names on the way up are the same. -/
theorem namespaceNames_inj {other : NamespaceId} (hid : (arena.namespace? id).isSome)
    (hother : (arena.namespace? other).isSome)
    (hnames : arena.namespaceNames (some id) = arena.namespaceNames (some other)) : id = other := by
  have hfound := h.foldlM_namespaceNames hid
  rw [hnames, h.foldlM_namespaceNames hother] at hfound
  exact (Option.some.inj hfound).symm

/-- What a path finds exists, and has the segments of the path on the way up. -/
theorem namespaceNames_of_namespaceByPath? (hfound : arena.namespaceByPath? path = some id) :
    (arena.namespace? id).isSome ∧
      arena.namespaceNames (some id) = (Dotted.segments path).reverse := by
  have hadds := h.adds_addNamespacePath path
  rw [addNamespacePath, addNamespaces_of_foldlM hfound] at hadds
  refine ⟨hadds.isSome, hadds.namespaceNames_eq.trans ?_⟩
  rw [h.namespaceNames_global, List.append_nil]

/-- **Below is behind.** A namespace is below another one if its names end with those of the
other. -/
theorem lists_iff_suffix (hstart : (arena.namespace? start).isSome)
    (hid : (arena.namespace? id).isSome) :
    arena.Lists start id ↔
      arena.namespaceNames (some start) <:+ arena.namespaceNames (some id) := by
  constructor
  · intro hlists
    clear hid
    induction hlists with
    | refl => exact List.suffix_rfl
    | @tail parent child _ hchild ih =>
        have hparent := h.listed parent child hchild
        obtain ⟨name, hname, -⟩ :=
          h.named child (isSome_namespace?_of_parent? hparent) (h.ne_global_of_parent? hparent)
        rw [h.namespaceNames_cons hparent hname]
        exact ih.trans (List.suffix_cons _ _)
  · intro hsuffix
    induction id, hid using h.induction with
    | global =>
        -- only the global namespace has no names
        rw [h.namespaceNames_global, List.suffix_nil, ← h.namespaceNames_global] at hsuffix
        rw [h.namespaceNames_inj hstart h.global_exists hsuffix]
        exact .refl
    | child id parent name hid _ hparent _ hmem hname _ ih =>
        rw [h.namespaceNames_cons hparent hname, List.suffix_cons_iff] at hsuffix
        rcases hsuffix with hsame | hsuffix
        · rw [← h.namespaceNames_cons hparent hname] at hsame
          rw [h.namespaceNames_inj hstart hid hsame]
          exact .refl
        · exact .tail (ih hsuffix) hmem

/-- The descendants of a namespace are what is below it. -/
theorem mem_descendants_iff (hstart : (arena.namespace? start).isSome) :
    id ∈ arena.descendants start ↔ arena.Lists start id := by
  have hended := h.listsAgree.length_queueAfter_le hstart
    (exists_isWalk_parent? h.firstCyclicNamespace?_eq_none start)
  rw [descendants_eq_queueAfter hended]
  refine ⟨lists_of_mem_queueAfter, fun hlists => ?_⟩
  obtain ⟨steps, hmem⟩ := exists_mem_queueAfter hlists
  rcases Nat.le_total steps arena.namespaces.size with hle | hle
  · have hearlier : arena.queueAfter start steps <+: arena.queueAfter start _ :=
      queueAfter_prefix hle
    exact hearlier.subset hmem
  · rwa [queueAfter_of_le hended hle] at hmem

/-- The names on the way down to a namespace begin with the segments of a path if the namespace has
the path, or one that goes on after it with a dot. -/
theorem pieces_prefix_iff (hpieces : ∀ piece ∈ Dotted.pieces path, piece ≠ "")
    (hid : (arena.namespace? id).isSome) :
    Dotted.pieces path <+: (arena.namespaceNames (some id)).reverse ↔
      arena.namespacePath id = path ∨ ∃ rest, arena.namespacePath id = path ++ "." ++ rest := by
  constructor
  · rintro ⟨more, hmore⟩
    have hpath : arena.namespacePath id = Dotted.join (Dotted.pieces path ++ more) := by
      rw [namespacePath, hmore]
    rw [hpath]
    cases more with
    | nil => exact .inl (by rw [List.append_nil, Dotted.join_pieces])
    | cons first rest =>
        refine .inr ⟨Dotted.join (first :: rest), ?_⟩
        rw [Dotted.join_append (Dotted.pieces_ne_nil path) (List.cons_ne_nil first rest),
          Dotted.join_pieces]
  · intro hpath
    have hsegments := Dotted.segments_eq_pieces hpieces
    rw [← h.segments_namespacePath hid]
    rcases hpath with hpath | ⟨rest, hpath⟩
    · have hsame : Dotted.segments (arena.namespacePath id) = Dotted.pieces path := by
        rw [hpath, hsegments]
      exact hsame ▸ List.prefix_refl _
    · rw [hpath, Dotted.segments, Dotted.pieces_append_dot, List.filter_append, ← Dotted.segments,
        hsegments]
      exact List.prefix_append _ _

/-- A namespace is below the one that a path without empty pieces finds if its own path is that one
or goes on after it with a dot. -/
theorem lists_iff_path (hpieces : ∀ piece ∈ Dotted.pieces path, piece ≠ "")
    (hfound : arena.namespaceByPath? path = some start) (hid : (arena.namespace? id).isSome) :
    arena.Lists start id ↔
      arena.namespacePath id = path ∨ ∃ rest, arena.namespacePath id = path ++ "." ++ rest := by
  obtain ⟨hstart, hnames⟩ := h.namespaceNames_of_namespaceByPath? hfound
  rw [h.lists_iff_suffix hstart hid, ← h.pieces_prefix_iff hpieces hid, hnames,
    Dotted.segments_eq_pieces hpieces, ← List.reverse_prefix, List.reverse_reverse]

/-- A path leads to a namespace if some namespace has it, or has one that goes on after it. -/
theorem isSome_namespaceByPath? (hpieces : ∀ piece ∈ Dotted.pieces path, piece ≠ "")
    (hid : (arena.namespace? id).isSome)
    (hpath : arena.namespacePath id = path ∨
      ∃ rest, arena.namespacePath id = path ++ "." ++ rest) :
    (arena.namespaceByPath? path).isSome := by
  obtain ⟨more, hmore⟩ := (h.pieces_prefix_iff hpieces hid).mpr hpath
  have hdown := h.foldlM_namespaceNames hid
  rw [← hmore, List.foldlM_append] at hdown
  obtain ⟨found, hfound, -⟩ := Option.bind_eq_some_iff.mp hdown
  rw [namespaceByPath?, Dotted.segments_eq_pieces hpieces, hfound]
  rfl

end IsNamespaceTree

end SymbolArena

namespace KnownNamespaces

/-- **Known namespaces.** A name is collected below a root that exists if a namespace has it as its
path, and it is the root or goes on after it with a dot. -/
theorem mem_names_collect_iff {arena : SymbolArena} (h : arena.IsNamespaceTree) {root : String}
    {start : NamespaceId} (hroot : root ≠ "") (hpieces : ∀ piece ∈ Dotted.pieces root, piece ≠ "")
    (hstart : arena.namespaceByPath? root = some start) (name : String) :
    name ∈ (collect arena root).names ↔
      (∃ id, (arena.namespace? id).isSome ∧ arena.namespacePath id = name) ∧
        (name = root ∨ ∃ rest, name = root ++ "." ++ rest) := by
  have hexists := (h.namespaceNames_of_namespaceByPath? hstart).1
  rw [collect, if_neg hroot, hstart, mem_names_ofNames, List.mem_map]
  constructor
  · rintro ⟨-, id, hid, rfl⟩
    have hlists := (h.mem_descendants_iff hexists).mp hid
    have hsome := h.listsAgree.isSome_of_lists hexists hlists
    exact ⟨⟨id, hsome, rfl⟩, (h.lists_iff_path hpieces hstart hsome).mp hlists⟩
  · rintro ⟨⟨id, hid, rfl⟩, hpath⟩
    exact ⟨Dotted.ne_empty_of_eq_or_below hroot hpath, id, (h.mem_descendants_iff hexists).mpr
      ((h.lists_iff_path hpieces hstart hid).mpr hpath), rfl⟩

end KnownNamespaces

end Portability
