import Portability.Proofs.Program.RootNames

/-!
# Known namespaces as paths

In a tree of namespaces the known ones of a root are the paths of what is below it, each once
(`KnownNamespaces.names_collect`). The queue they are collected from holds every namespace behind
the one that lists it (`SymbolArena.exists_lister_before`), so a path stands behind that of its
parent. `KnownNamespaces.collect_of_isBuilt` says so of the paths themselves, and which of their
segments are components.
-/

namespace Portability

namespace SymbolArena

variable {arena : SymbolArena} {start id : NamespaceId}

/-! ### The queue in order -/

/-- What the queue holds is its start, or it was put there for a namespace before it. -/
theorem exists_lister_before {steps : Nat} {before after : List NamespaceId}
    (h : arena.queueAfter start steps = before ++ id :: after) :
    id = start ∨ ∃ lister ∈ before, id ∈ arena.children lister := by
  induction steps generalizing after with
  | zero =>
      have hmem : id ∈ arena.queueAfter start 0 := h ▸ List.mem_append_right _ List.mem_cons_self
      exact .inl (List.mem_singleton.mp hmem)
  | succ steps ih =>
      rcases arena.queueAfter_succ_cases start steps with ⟨-, hsame⟩ | ⟨lister, hnext, hchildren⟩
      · exact ih (hsame ▸ h)
      · rw [hchildren] at h
        have hlister := List.mem_of_getElem? hnext
        rcases List.append_eq_append_iff.mp h with ⟨more, hbefore, hmore⟩ | ⟨more, hqueue, hmore⟩
        · -- the last step put it into the queue
          refine .inr ⟨lister, ?_, ?_⟩
          · exact hbefore ▸ List.mem_append_left _ hlister
          · exact hmore ▸ List.mem_append_right _ List.mem_cons_self
        · cases more with
          | nil =>
              rw [hqueue, List.append_nil] at hlister
              rw [List.nil_append] at hmore
              exact .inr ⟨lister, hlister, hmore ▸ List.mem_cons_self⟩
          | cons first rest =>
              obtain ⟨rfl, -⟩ := List.cons.inj hmore
              exact ih hqueue

namespace IsNamespaceTree

variable (h : arena.IsNamespaceTree)

include h

/-- Namespaces with the same path are the same. -/
theorem namespacePath_inj {other : NamespaceId} (hid : (arena.namespace? id).isSome)
    (hother : (arena.namespace? other).isSome)
    (hpath : arena.namespacePath id = arena.namespacePath other) : id = other := by
  have hfound := h.namespaceByPath?_namespacePath hid
  rw [hpath, h.namespaceByPath?_namespacePath hother] at hfound
  exact (Option.some.inj hfound).symm

/-- What a path without empty pieces finds has that path. -/
theorem namespacePath_of_namespaceByPath? {path : String}
    (hpieces : ∀ piece ∈ Dotted.pieces path, piece ≠ "")
    (hfound : arena.namespaceByPath? path = some id) : arena.namespacePath id = path := by
  obtain ⟨-, hnames⟩ := h.namespaceNames_of_namespaceByPath? hfound
  rw [namespacePath, hnames, List.reverse_reverse, Dotted.segments_eq_pieces hpieces,
    Dotted.join_pieces]

/-- The path of a namespace has no empty pieces, unless it is empty itself. -/
theorem segments_namespacePath_eq_pieces (hid : (arena.namespace? id).isSome)
    (hne : arena.namespacePath id ≠ "") :
    Dotted.segments (arena.namespacePath id) = Dotted.pieces (arena.namespacePath id) := by
  have hnames : (arena.namespaceNames (some id)).reverse ≠ [] := by
    intro hnil
    rw [namespacePath, hnil] at hne
    exact hne rfl
  rw [h.segments_namespacePath hid, namespacePath, Dotted.pieces_join hnames]
  exact fun segment hsegment =>
    (h.isSegment_of_mem_namespaceNames hid segment (List.mem_reverse.mp hsegment)).2

/-- The descendants of a namespace are all different. -/
theorem nodup_descendants (hstart : (arena.namespace? start).isSome) :
    (arena.descendants start).Nodup := by
  have hends := exists_isWalk_parent? h.firstCyclicNamespace?_eq_none start
  rw [descendants_eq_queueAfter (h.listsAgree.length_queueAfter_le hstart hends)]
  exact (h.listsAgree.isListedTree hends).nodup_queueAfter _

/-- The descendants of a namespace have different paths. -/
theorem nodup_paths (hstart : (arena.namespace? start).isSome) :
    ((arena.descendants start).map arena.namespacePath).Nodup := by
  have hsome : ∀ id ∈ arena.descendants start, (arena.namespace? id).isSome := fun id hid =>
    h.listsAgree.isSome_of_lists hstart ((h.mem_descendants_iff hstart).mp hid)
  refine (h.nodup_descendants hstart).map_on fun id hid other hother => ?_
  exact h.namespacePath_inj (hsome id hid) (hsome other hother)

/-- A descendant of a namespace stands behind its own parent. -/
theorem parent_before_descendant (hstart : (arena.namespace? start).isSome)
    {parent : NamespaceId} {before after : List NamespaceId} (hne : id ≠ start)
    (hparent : arena.parent? id = some parent)
    (hsplit : arena.descendants start = before ++ id :: after) : parent ∈ before := by
  have hends := exists_isWalk_parent? h.firstCyclicNamespace?_eq_none start
  rw [descendants_eq_queueAfter (h.listsAgree.length_queueAfter_le hstart hends)] at hsplit
  rcases exists_lister_before hsplit with hsame | ⟨lister, hlister, hchild⟩
  · exact absurd hsame hne
  · have hlists := h.listed lister id hchild
    rw [hparent] at hlists
    rwa [Option.some.inj hlists]

end IsNamespaceTree

end SymbolArena

namespace KnownNamespaces

variable {arena : SymbolArena} {root : String} {start : NamespaceId}

/-- The known namespaces of a root that exists are the paths of its descendants, in their order. -/
theorem names_collect (h : arena.IsNamespaceTree) (hroot : root ≠ "")
    (hpieces : ∀ piece ∈ Dotted.pieces root, piece ≠ "")
    (hstart : arena.namespaceByPath? root = some start) :
    (collect arena root).names = (arena.descendants start).map arena.namespacePath := by
  have hexists := (h.namespaceNames_of_namespaceByPath? hstart).1
  rw [collect, if_neg hroot, hstart]
  refine names_ofNames (h.nodup_paths hexists) fun name hname => ?_
  obtain ⟨id, hid, rfl⟩ := List.mem_map.mp hname
  have hlists := (h.mem_descendants_iff hexists).mp hid
  have hsome := h.listsAgree.isSome_of_lists hexists hlists
  exact Dotted.ne_empty_of_eq_or_below hroot ((h.lists_iff_path hpieces hstart hsome).mp hlists)

/-- The known namespaces of a tree are different from one another. -/
theorem nodup_names (h : arena.IsNamespaceTree) (hroot : root ≠ "")
    (hpieces : ∀ piece ∈ Dotted.pieces root, piece ≠ "")
    (hstart : arena.namespaceByPath? root = some start) : (collect arena root).names.Nodup := by
  rw [names_collect h hroot hpieces hstart]
  exact h.nodup_paths (h.namespaceNames_of_namespaceByPath? hstart).1

/-- A known path of a root that exists stands behind the path of its parent. -/
theorem parent_before_name (h : arena.IsNamespaceTree) (hroot : root ≠ "")
    (hpieces : ∀ piece ∈ Dotted.pieces root, piece ≠ "")
    (hstart : arena.namespaceByPath? root = some start) {id parent : NamespaceId}
    {before after : List String} (hparent : arena.parent? id = some parent)
    (hne : arena.namespacePath id ≠ root)
    (hsplit : (collect arena root).names = before ++ arena.namespacePath id :: after) :
    arena.namespacePath parent ∈ before := by
  have hexists := (h.namespaceNames_of_namespaceByPath? hstart).1
  rw [names_collect h hroot hpieces hstart] at hsplit
  obtain ⟨ids, rest, hids, rfl, hrest⟩ := List.map_eq_append_iff.mp hsplit
  obtain ⟨other, others, rfl, hpath, -⟩ := List.map_eq_cons_iff.mp hrest
  have hother : other ∈ arena.descendants start :=
    hids ▸ List.mem_append_right _ List.mem_cons_self
  have hsome := h.listsAgree.isSome_of_lists hexists ((h.mem_descendants_iff hexists).mp hother)
  obtain rfl := h.namespacePath_inj hsome (SymbolArena.isSome_namespace?_of_parent? hparent) hpath
  refine List.mem_map_of_mem (h.parent_before_descendant hexists ?_ hparent hids)
  rintro rfl
  exact hne (h.namespacePath_of_namespaceByPath? hpieces hstart)

/-- Where the root leads to no namespace, nothing is known. -/
theorem names_collect_eq_nil (hmissing : arena.namespaceByPath? root = none) :
    (collect arena root).names = [] := by
  rw [collect, hmissing]
  split <;> rfl

/-- A text is known if it is the path of a namespace and is the root or goes on after it, also where
the root does not exist. -/
theorem mem_names_iff (h : arena.IsNamespaceTree) (hroot : root ≠ "")
    (hpieces : ∀ piece ∈ Dotted.pieces root, piece ≠ "") (name : String) :
    name ∈ (collect arena root).names ↔
      (∃ id, (arena.namespace? id).isSome ∧ arena.namespacePath id = name) ∧
        (name = root ∨ ∃ rest, name = root ++ "." ++ rest) := by
  cases hfound : arena.namespaceByPath? root with
  | some start => exact mem_names_collect_iff h hroot hpieces hfound name
  | none =>
      rw [names_collect_eq_nil hfound]
      refine iff_of_false List.not_mem_nil ?_
      rintro ⟨⟨id, hid, rfl⟩, hpath⟩
      have hsome := h.isSome_namespaceByPath? hpieces hid hpath
      rw [hfound] at hsome
      cases hsome

/-! ### Components -/

/-- The components are segments of what is known. -/
theorem mem_components_collect {segment : String} :
    segment ∈ (collect arena root).components ↔
      ∃ name ∈ (collect arena root).names,
        segment ∈ (Dotted.pieces name).drop (depthAbove root) := by
  unfold collect
  split
  · simp
  · split
    · simp
    · simp only [mem_components_ofNames, mem_names_ofNames]
      constructor
      · rintro ⟨name, hname, hne, hsegment⟩
        exact ⟨name, ⟨hne, hname⟩, hsegment⟩
      · rintro ⟨name, ⟨hne, hname⟩, hsegment⟩
        exact ⟨name, hname, hne, hsegment⟩

/-- What stands behind the segments above the root stands at the place of the root's last segment or
at a later one. -/
theorem mem_drop_depthAbove_iff {name segment : String}
    (hpieces : ∀ piece ∈ Dotted.pieces root, piece ≠ "")
    (hname : Dotted.segments name = Dotted.pieces name) :
    segment ∈ (Dotted.pieces name).drop (depthAbove root) ↔
      ∃ place, (Dotted.segments root).length ≤ place + 1 ∧
        (Dotted.segments name)[place]? = some segment := by
  have hlength : (Dotted.segments root).length = depthAbove root + 1 := by
    have hpos := List.length_pos_iff.mpr (Dotted.pieces_ne_nil root)
    rw [Dotted.segments_eq_pieces hpieces, depthAbove]
    omega
  rw [hlength, hname, List.mem_iff_getElem?]
  simp only [List.getElem?_drop]
  constructor
  · rintro ⟨index, hindex⟩
    exact ⟨depthAbove root + index, by omega, hindex⟩
  · rintro ⟨place, hplace, hsegment⟩
    refine ⟨place - depthAbove root, ?_⟩
    rwa [Nat.add_sub_cancel' (Nat.le_of_succ_le_succ hplace)]

/-! ### The root and what lies below it -/

/-- **Known namespaces are the root and what lies below it.** In an arena whose namespaces were
added one by one, and for a root without empty pieces:

* a text is known if and only if it is the path of a namespace and is the root or goes on after the
  root with a dot;
* every path is known once, and every one but the root behind the path of its parent;
* nothing is known if no namespace has the root as its path;
* a text is a component if and only if it is a segment of a known path, at the place of the root's
  last segment or a later one. -/
theorem collect_of_isBuilt (h : arena.IsBuilt)
    (hpieces : ∀ piece ∈ Dotted.pieces root, piece ≠ "") :
    let known := collect arena root
    (∀ name, name ∈ known.names ↔
      (∃ id, (arena.namespace? id).isSome ∧ arena.namespacePath id = name) ∧
        (name = root ∨ ∃ rest, name = root ++ "." ++ rest)) ∧
    known.names.Nodup ∧
    (∀ id parent before after, arena.parent? id = some parent → arena.namespacePath id ≠ root →
      known.names = before ++ arena.namespacePath id :: after →
      arena.namespacePath parent ∈ before) ∧
    ((∀ id, (arena.namespace? id).isSome → arena.namespacePath id ≠ root) → known.names = []) ∧
    (∀ segment, known.containsComponent segment ↔
      ∃ name ∈ known.names, ∃ place, (Dotted.segments root).length ≤ place + 1 ∧
        (Dotted.segments name)[place]? = some segment) := by
  intro known
  have htree := h.isNamespaceTree
  have hroot : root ≠ "" := by
    rintro rfl
    exact hpieces "" List.mem_cons_self rfl
  have hmem := mem_names_iff htree hroot hpieces
  refine ⟨hmem, ?_, fun id parent before after hparent hne hsplit => ?_, fun hmissing => ?_,
    fun segment => ?_⟩
  · cases hfound : arena.namespaceByPath? root with
    | none => exact names_collect_eq_nil hfound ▸ .nil
    | some start => exact nodup_names htree hroot hpieces hfound
  · cases hfound : arena.namespaceByPath? root with
    | none =>
        rw [names_collect_eq_nil hfound] at hsplit
        exact absurd hsplit.symm (List.append_ne_nil_of_right_ne_nil _ (List.cons_ne_nil _ _))
    | some start => exact parent_before_name htree hroot hpieces hfound hparent hne hsplit
  · refine names_collect_eq_nil (Option.eq_none_iff_forall_ne_some.mpr fun start hfound => ?_)
    have hexists := (htree.namespaceNames_of_namespaceByPath? hfound).1
    exact hmissing start hexists (htree.namespacePath_of_namespaceByPath? hpieces hfound)
  · rw [containsComponent, List.contains_iff_mem, mem_components_collect]
    refine exists_congr fun name => and_congr_right fun hname => ?_
    obtain ⟨⟨id, hid, rfl⟩, hpath⟩ := (hmem name).mp hname
    have hne := Dotted.ne_empty_of_eq_or_below hroot hpath
    exact mem_drop_depthAbove_iff hpieces (htree.segments_namespacePath_eq_pieces hid hne)

/-- The namespaces `App.Models.Drafts` and, with a name that only begins like that of its
neighbour, `App.ModelsOld`. -/
def draftsAndOld : SymbolArena :=
  ((SymbolArena.empty.addNamespacePath "App.Models.Drafts").2.addNamespace ⟨1⟩ "ModelsOld").2

/-- Below `App.Models` there are the drafts, whose component is found at the third place of a path.
The old models are not below it, and `App` is no component. -/
theorem collect_draftsAndOld :
    let known := collect draftsAndOld "App.Models"
    draftsAndOld.IsBuilt ∧
    (∀ piece ∈ Dotted.pieces "App.Models", piece ≠ "") ∧
    known.names = ["App.Models"] ++ ["App.Models.Drafts"] ∧
    known.names.Nodup ∧
    draftsAndOld.namespacePath ⟨2⟩ ∈ ["App.Models"] ∧
    draftsAndOld.namespacePath ⟨4⟩ = "App.ModelsOld" ∧ "App.ModelsOld" ∉ known.names ∧
    (∃ name ∈ known.names, ∃ place, (Dotted.segments "App.Models").length ≤ place + 1 ∧
      (Dotted.segments name)[place]? = some "Drafts") ∧
    known.containsComponent "App" = false := by
  have hbuilt : draftsAndOld.IsBuilt :=
    .addNamespace (by decide +kernel) (by decide +kernel)
      (.addNamespacePath "App.Models.Drafts" .empty)
  have hpieces : ∀ piece ∈ Dotted.pieces "App.Models", piece ≠ "" := by decide +kernel
  have hnames : (collect draftsAndOld "App.Models").names =
      ["App.Models"] ++ ["App.Models.Drafts"] := by decide +kernel
  have hdrafts : draftsAndOld.namespacePath ⟨3⟩ = "App.Models.Drafts" := by decide +kernel
  obtain ⟨hmem, hnodup, horder, -, hcomponent⟩ := collect_of_isBuilt hbuilt hpieces
  refine ⟨hbuilt, hpieces, hnames, hnodup, ?_, by decide +kernel, fun hold => ?_,
    (hcomponent "Drafts").mp (by decide +kernel), by decide +kernel⟩
  · exact horder ⟨3⟩ ⟨2⟩ _ [] (by decide +kernel) (by decide +kernel) (hdrafts ▸ hnames)
  · -- what begins with the root goes on with other characters than a dot
    rcases ((hmem "App.ModelsOld").mp hold).2 with hroot | ⟨rest, hrest⟩
    · exact absurd hroot (by decide)
    · have hchars := congrArg (fun text => text.toList[10]?) hrest
      simp at hchars

end KnownNamespaces

end Portability
