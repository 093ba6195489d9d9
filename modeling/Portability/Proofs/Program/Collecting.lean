import Mathlib.Data.List.Nodup
import Mathlib.Data.List.Pairwise
import Mathlib.Logic.Relation
import Portability.KnownNamespaces
import Portability.Proofs.Program.Validation
import Portability.Proofs.Symbol.NamespaceTree

/-!
# Collecting known namespaces

Known namespaces are collected by a walk that keeps a queue: each step looks at the next namespace
of the queue and puts its children at the end (`SymbolArena.queueAfter`). A walk that ends has
collected the descendants of its start, level by level (`SymbolArena.descendants_eq_queueAfter`).

Nothing marks what was in the queue before, so a walk goes by the lists of children alone. It queues
nothing twice if and only if these lists make a tree of what is below the start
(`SymbolArena.nodup_queueAfter_iff`). Validation follows the parents only. It keeps the walk from
going round in circles where the lists agree with the parents (`ProgramDocument.queue_of_validate`),
and accepts lists that do not: `ProgramDocument.endless_selfListing`.
-/

namespace Portability

namespace SymbolArena

variable {arena : SymbolArena} {start : NamespaceId}

/-! ### The queue -/

/-- The queue of the walk below a namespace after some steps. A step looks at the next namespace of
the queue and puts its children at the end. Where none is left, the walk has ended and the queue
stays as it is. -/
def queueAfter (arena : SymbolArena) (start : NamespaceId) : Nat → List NamespaceId
  | 0 => [start]
  | steps + 1 =>
    let queue := arena.queueAfter start steps
    match queue[steps]? with
    | some id => queue ++ arena.children id
    | none => queue

/-- A step with a namespace to look at puts its children at the end. -/
theorem queueAfter_succ_of_getElem? {steps : Nat} {id : NamespaceId}
    (h : (arena.queueAfter start steps)[steps]? = some id) :
    arena.queueAfter start (steps + 1) = arena.queueAfter start steps ++ arena.children id := by
  simp only [queueAfter, h]

/-- A walk that has ended leaves the queue as it is. -/
theorem queueAfter_of_le {steps later : Nat}
    (hended : (arena.queueAfter start steps).length ≤ steps) (hlater : steps ≤ later) :
    arena.queueAfter start later = arena.queueAfter start steps := by
  induction hlater with
  | refl => rfl
  | @step later hle ih =>
      have hnone : (arena.queueAfter start later)[later]? = none := by
        rw [ih]
        exact List.getElem?_eq_none (Nat.le_trans hended hle)
      simp only [queueAfter, hnone]
      exact ih

/-- What a step does: nothing where the walk has ended, and otherwise it puts the children of the
next namespace at the end. -/
theorem queueAfter_succ_cases (arena : SymbolArena) (start : NamespaceId) (steps : Nat) :
    ((arena.queueAfter start steps).length ≤ steps ∧
      arena.queueAfter start (steps + 1) = arena.queueAfter start steps) ∨
    ∃ id, (arena.queueAfter start steps)[steps]? = some id ∧
      arena.queueAfter start (steps + 1) =
        arena.queueAfter start steps ++ arena.children id := by
  cases hnext : (arena.queueAfter start steps)[steps]? with
  | none =>
      have hended := List.getElem?_eq_none_iff.mp hnext
      exact .inl ⟨hended, queueAfter_of_le hended (Nat.le_succ steps)⟩
  | some id => exact .inr ⟨id, rfl, queueAfter_succ_of_getElem? hnext⟩

/-- A step is about what was in the queue before it. -/
theorem take_queueAfter_succ (arena : SymbolArena) (start : NamespaceId) (steps : Nat) :
    (arena.queueAfter start (steps + 1)).take (steps + 1) =
      (arena.queueAfter start steps).take (steps + 1) := by
  rcases arena.queueAfter_succ_cases start steps with ⟨-, hsame⟩ | ⟨id, hnext, hmore⟩
  · rw [hsame]
  · obtain ⟨hlt, -⟩ := List.getElem?_eq_some_iff.mp hnext
    rw [hmore, List.take_append_of_le_length hlt]

/-- What was put into the queue stays in its place. -/
theorem queueAfter_prefix {steps later : Nat} (h : steps ≤ later) :
    arena.queueAfter start steps <+: arena.queueAfter start later := by
  induction h with
  | refl => exact List.prefix_refl _
  | @step later _ ih =>
      refine ih.trans ?_
      rcases arena.queueAfter_succ_cases start later with ⟨-, hsame⟩ | ⟨id, -, hmore⟩
      · exact hsame ▸ List.prefix_refl (arena.queueAfter start later)
      · rw [hmore]
        exact List.prefix_append _ _

/-- The queue holds the start and then the children of what was looked at. -/
theorem queueAfter_eq (arena : SymbolArena) (start : NamespaceId) (steps : Nat) :
    arena.queueAfter start steps =
      start :: ((arena.queueAfter start steps).take steps).flatMap arena.children := by
  induction steps with
  | zero => rfl
  | succ steps ih =>
      rw [take_queueAfter_succ]
      rcases arena.queueAfter_succ_cases start steps with ⟨hended, hsame⟩ | ⟨id, hnext, hmore⟩
      · rw [hsame, List.take_of_length_le (Nat.le_succ_of_le hended)]
        rwa [List.take_of_length_le hended] at ih
      · rw [List.take_add_one, hnext, Option.toList_some, List.flatMap_append,
          List.flatMap_singleton, ← List.cons_append, ← ih, hmore]

/-- What is in the queue has been looked at after some more steps. -/
theorem exists_mem_take {steps : Nat} {id : NamespaceId}
    (h : id ∈ arena.queueAfter start steps) :
    ∃ looked, ∀ later, looked ≤ later → id ∈ (arena.queueAfter start later).take later := by
  obtain ⟨index, hindex⟩ := List.mem_iff_getElem?.mp h
  refine ⟨steps + index + 1, fun later hlater => ?_⟩
  obtain ⟨hlt, -⟩ := List.getElem?_eq_some_iff.mp hindex
  obtain ⟨added, hadded⟩ : arena.queueAfter start steps <+: arena.queueAfter start later :=
    queueAfter_prefix (by omega)
  refine List.mem_iff_getElem?.mpr ⟨index, ?_⟩
  rw [List.getElem?_take_of_lt (by omega), ← hadded, List.getElem?_append_left hlt, hindex]

/-! ### Trees of children -/

/-- Whether a namespace is the other one or is found below it by the lists of children. -/
def Lists (arena : SymbolArena) : NamespaceId → NamespaceId → Prop :=
  Relation.ReflTransGen fun parent child => child ∈ arena.children parent

/-- Whether the lists of children make a tree of what is below a namespace: nothing is listed twice,
and the namespace itself not at all. -/
structure IsListedTree (arena : SymbolArena) (start : NamespaceId) : Prop where
  start_notMem : ∀ id, arena.Lists start id → start ∉ arena.children id
  nodup_children : ∀ id, arena.Lists start id → (arena.children id).Nodup
  lister_unique : ∀ id other, arena.Lists start id → arena.Lists start other →
    ∀ child ∈ arena.children id, child ∈ arena.children other → id = other

/-- What is in the queue is the start, or it was listed below it. -/
theorem lists_of_mem_queueAfter {steps : Nat} {id : NamespaceId}
    (h : id ∈ arena.queueAfter start steps) : arena.Lists start id := by
  induction steps generalizing id with
  | zero =>
      obtain rfl : id = start := List.mem_singleton.mp h
      exact .refl
  | succ steps ih =>
      rcases arena.queueAfter_succ_cases start steps with ⟨-, hsame⟩ | ⟨parent, hnext, hmore⟩
      · exact ih (hsame ▸ h)
      · rw [hmore] at h
        rcases List.mem_append.mp h with hold | hchild
        · exact ih hold
        · exact .tail (ih (List.mem_of_getElem? hnext)) hchild

/-- What is listed below the start comes into the queue. -/
theorem exists_mem_queueAfter {id : NamespaceId} (h : arena.Lists start id) :
    ∃ steps, id ∈ arena.queueAfter start steps := by
  induction h with
  | refl => exact ⟨0, List.mem_singleton_self start⟩
  | @tail parent child _ hchild ih =>
      obtain ⟨steps, hparent⟩ := ih
      obtain ⟨looked, hlooked⟩ := exists_mem_take hparent
      refine ⟨looked, ?_⟩
      rw [queueAfter_eq]
      exact .tail start (List.mem_flatMap.mpr ⟨parent, hlooked looked (Nat.le_refl _), hchild⟩)

/-- What is below the start has been looked at after some steps. -/
theorem exists_looked {id : NamespaceId} (h : arena.Lists start id) :
    ∃ looked, ∀ later, looked ≤ later → id ∈ (arena.queueAfter start later).take later := by
  obtain ⟨steps, hmem⟩ := exists_mem_queueAfter h
  exact exists_mem_take hmem

/-- Where nothing is queued twice, the lists of children make a tree. -/
theorem isListedTree_of_nodup (h : ∀ steps, (arena.queueAfter start steps).Nodup) :
    arena.IsListedTree start := by
  have hqueue (steps : Nat) :
      start ∉ ((arena.queueAfter start steps).take steps).flatMap arena.children ∧
        (((arena.queueAfter start steps).take steps).flatMap arena.children).Nodup := by
    have hnodup := h steps
    rw [queueAfter_eq] at hnodup
    exact List.nodup_cons.mp hnodup
  refine ⟨fun id hid hmem => ?_, fun id hid => ?_, ?_⟩
  · obtain ⟨steps, hlooked⟩ := exists_looked hid
    exact (hqueue steps).1 (List.mem_flatMap.mpr ⟨id, hlooked steps (Nat.le_refl _), hmem⟩)
  · obtain ⟨steps, hlooked⟩ := exists_looked hid
    exact (List.nodup_flatMap.mp (hqueue steps).2).1 id (hlooked steps (Nat.le_refl _))
  · intro id other hid hother child hfirst hsecond
    obtain ⟨first, hlookedFirst⟩ := exists_looked hid
    obtain ⟨second, hlookedSecond⟩ := exists_looked hother
    have hdisjoint := (List.nodup_flatMap.mp (hqueue (first + second)).2).2
    have : Std.Symm (Function.onFun List.Disjoint arena.children) :=
      ⟨fun _ _ hab _ hfirst hsecond => hab hsecond hfirst⟩
    by_contra hne
    exact hdisjoint.forall (hlookedFirst _ (Nat.le_add_right _ _))
      (hlookedSecond _ (Nat.le_add_left _ _)) hne hfirst hsecond

/-- Where the lists of children make a tree, nothing is queued twice. -/
theorem IsListedTree.nodup_queueAfter (h : arena.IsListedTree start) (steps : Nat) :
    (arena.queueAfter start steps).Nodup := by
  induction steps with
  | zero => exact List.nodup_singleton start
  | succ steps ih =>
      rw [queueAfter_eq, take_queueAfter_succ]
      have hlooked : ∀ id ∈ (arena.queueAfter start steps).take (steps + 1), arena.Lists start id :=
        fun id hid => lists_of_mem_queueAfter (List.mem_of_mem_take hid)
      refine List.nodup_cons.mpr ⟨fun hmem => ?_, List.nodup_flatMap.mpr ⟨fun id hid => ?_, ?_⟩⟩
      · obtain ⟨id, hid, hstart⟩ := List.mem_flatMap.mp hmem
        exact h.start_notMem id (hlooked id hid) hstart
      · exact h.nodup_children id (hlooked id hid)
      · refine (ih.sublist (List.take_sublist _ _)).pairwise_of_forall_ne ?_
        intro id hid other hother hne child hfirst hsecond
        have hsame := h.lister_unique id other (hlooked id hid) (hlooked other hother)
        exact hne (hsame child hfirst hsecond)

/-- **A walk queues nothing twice exactly where the lists of children make a tree** of what is below
its start. -/
theorem nodup_queueAfter_iff :
    (∀ steps, (arena.queueAfter start steps).Nodup) ↔ arena.IsListedTree start :=
  ⟨isListedTree_of_nodup, fun h => h.nodup_queueAfter⟩

/-! ### Levels -/

/-- Below no namespaces there are no levels. -/
theorem levelsFrom_nil (levels : Nat) : arena.levelsFrom levels [] = [] := by
  cases levels <;> rfl

/-- The levels below some namespaces are these and the levels below their children. -/
theorem levelsFrom_succ (levels : Nat) (level : List NamespaceId) :
    arena.levelsFrom (levels + 1) level =
      level ++ arena.levelsFrom levels (level.flatMap arena.children) := by
  cases level with
  | nil => rw [levelsFrom_nil, List.flatMap_nil, levelsFrom_nil, List.append_nil]
  | cons id rest => rfl

/-- One level more is the first one and the children of what there was. -/
theorem levelsFrom_succ_eq_children (levels : Nat) (level : List NamespaceId) :
    arena.levelsFrom (levels + 1) level =
      level ++ (arena.levelsFrom levels level).flatMap arena.children := by
  induction levels generalizing level with
  | zero => exact levelsFrom_succ 0 level
  | succ levels ih =>
      rw [levelsFrom_succ (levels + 1), ih, levelsFrom_succ levels, List.flatMap_append]

/-- The namespaces that are a number of levels below one, as often as they are listed. -/
def generation (arena : SymbolArena) : Nat → NamespaceId → List NamespaceId
  | 0, id => [id]
  | levels + 1, id => (arena.children id).flatMap (arena.generation levels)

/-- One level more adds the generation at its depth. -/
theorem levelsFrom_succ_eq_generation (levels : Nat) (level : List NamespaceId) :
    arena.levelsFrom (levels + 1) level =
      arena.levelsFrom levels level ++ level.flatMap (arena.generation levels) := by
  induction levels generalizing level with
  | zero => simp [levelsFrom, generation]
  | succ levels ih =>
      rw [levelsFrom_succ (levels + 1), ih, ← List.append_assoc, ← levelsFrom_succ,
        List.flatMap_assoc]
      rfl

/-- When the walk has looked at some levels, its queue holds one more. -/
theorem queueAfter_length_levelsFrom (levels : Nat) :
    arena.queueAfter start (arena.levelsFrom levels [start]).length =
      arena.levelsFrom (levels + 1) [start] := by
  induction levels with
  | zero => rfl
  | succ levels ih =>
      have hle : (arena.levelsFrom levels [start]).length ≤
          (arena.levelsFrom (levels + 1) [start]).length := by
        rw [levelsFrom_succ_eq_generation, List.length_append]
        exact Nat.le_add_right _ _
      have hprefix : arena.levelsFrom (levels + 1) [start] <+:
          arena.queueAfter start (arena.levelsFrom (levels + 1) [start]).length := by
        conv_lhs => rw [← ih]
        exact queueAfter_prefix hle
      rw [queueAfter_eq, ← List.prefix_iff_eq_take.mp hprefix]
      exact (levelsFrom_succ_eq_children (levels + 1) [start]).symm

/-- A generation with nothing in it has no children. -/
theorem generation_succ_eq_nil {levels : Nat} {id : NamespaceId}
    (h : arena.generation levels id = []) : arena.generation (levels + 1) id = [] := by
  induction levels generalizing id with
  | zero => exact absurd h (List.cons_ne_nil _ _)
  | succ levels ih =>
      exact List.flatMap_eq_nil_iff.mpr fun child hchild =>
        ih (List.flatMap_eq_nil_iff.mp h child hchild)

/-- After a generation with nothing in it come only such. -/
theorem generation_eq_nil_of_le {levels more : Nat} {id : NamespaceId}
    (h : arena.generation levels id = []) (hle : levels ≤ more) :
    arena.generation more id = [] := by
  induction hle with
  | refl => exact h
  | step _ ih => exact generation_succ_eq_nil ih

/-- Below the last generation of a namespace there are as many different namespaces as it is deep:
one of each height. -/
theorem exists_nodup_of_generation {levels : Nat} {id : NamespaceId}
    (hlast : arena.generation levels id ≠ []) (hnone : arena.generation (levels + 1) id = []) :
    ∃ ids : List NamespaceId, ids.length = levels ∧ ids.Nodup ∧
      ∀ other ∈ ids, (arena.namespace? other).isSome ∧
        arena.generation (levels + 1) other = [] := by
  induction levels generalizing id with
  | zero => exact ⟨[], rfl, .nil, List.forall_mem_nil _⟩
  | succ levels ih =>
      obtain ⟨child, hchild, hlower⟩ : ∃ child ∈ arena.children id,
          arena.generation levels child ≠ [] := by
        by_contra hall
        push Not at hall
        exact hlast (List.flatMap_eq_nil_iff.mpr hall)
      have hchildNone := List.flatMap_eq_nil_iff.mp hnone child hchild
      obtain ⟨ids, hlength, hnodup, hids⟩ := ih hlower hchildNone
      have hnew : id ∉ ids := fun hmem => hlast (hids id hmem).2
      have hexists : (arena.namespace? id).isSome := by
        by_contra hmissing
        rw [children, Option.not_isSome_iff_eq_none.mp hmissing] at hchild
        exact List.not_mem_nil hchild
      refine ⟨id :: ids, congrArg Nat.succ hlength, List.nodup_cons.mpr ⟨hnew, hnodup⟩, ?_⟩
      refine List.forall_mem_cons.mpr ⟨⟨hexists, hnone⟩, fun other hother => ?_⟩
      obtain ⟨hsome, hempty⟩ := hids other hother
      exact ⟨hsome, generation_succ_eq_nil hempty⟩

/-- A tree that ends is no deeper than there are namespaces. -/
theorem generation_size_eq_nil {levels : Nat} {id : NamespaceId}
    (h : arena.generation levels id = []) :
    arena.generation (arena.namespaces.size + 1) id = [] := by
  induction levels with
  | zero => exact absurd h (List.cons_ne_nil _ _)
  | succ levels ih =>
      by_cases hlast : arena.generation levels id = []
      · exact ih hlast
      obtain ⟨ids, hlength, hnodup, hids⟩ := exists_nodup_of_generation hlast h
      have hle : levels ≤ arena.namespaces.size :=
        hlength ▸ length_le_namespaces hnodup fun other hother => (hids other hother).1
      exact generation_eq_nil_of_le h (Nat.succ_le_succ hle)

/-- A walk that ends meets a generation with nothing in it. -/
theorem exists_generation_eq_nil {steps : Nat}
    (hended : (arena.queueAfter start steps).length ≤ steps) :
    ∃ levels, arena.generation levels start = [] := by
  by_contra hall
  push Not at hall
  have hlength (levels : Nat) : levels ≤ (arena.levelsFrom levels [start]).length := by
    induction levels with
    | zero => exact Nat.zero_le _
    | succ levels ih =>
        have hpos := List.length_pos_iff.mpr (hall levels)
        rw [levelsFrom_succ_eq_generation, List.length_append, List.flatMap_singleton]
        omega
  have hqueue : arena.queueAfter start steps = arena.levelsFrom (steps + 1) [start] := by
    rw [← queueAfter_of_le hended (hlength steps), queueAfter_length_levelsFrom]
  have hmore := hlength (steps + 1)
  rw [← hqueue] at hmore
  omega

/-- **A walk that ends has collected the descendants** of its start, in their order. -/
theorem descendants_eq_queueAfter {steps : Nat}
    (hended : (arena.queueAfter start steps).length ≤ steps) :
    arena.descendants start = arena.queueAfter start steps := by
  obtain ⟨levels, hlevels⟩ := exists_generation_eq_nil hended
  have hqueue : arena.queueAfter start (arena.descendants start).length =
      arena.descendants start := by
    rw [descendants, queueAfter_length_levelsFrom, levelsFrom_succ_eq_generation,
      List.flatMap_singleton, generation_size_eq_nil hlevels, List.append_nil]
  have hended' : (arena.queueAfter start (arena.descendants start).length).length ≤
      (arena.descendants start).length := Nat.le_of_eq (congrArg List.length hqueue)
  rw [← hqueue]
  rcases Nat.le_total steps (arena.descendants start).length with hle | hle
  · exact queueAfter_of_le hended hle
  · exact (queueAfter_of_le hended' hle).symm

/-! ### Lists that agree with the parents -/

/-- Whether the lists of children agree with the parents: what a namespace lists has it as its
parent, and is listed once. -/
structure ListsAgree (arena : SymbolArena) : Prop where
  parent : ∀ id, ∀ child ∈ arena.children id, arena.parent? child = some id
  nodup : ∀ id, (arena.children id).Nodup

/-- In a tree of namespaces the lists agree with the parents. -/
theorem IsNamespaceTree.listsAgree (h : arena.IsNamespaceTree) : arena.ListsAgree where
  parent := h.listed
  nodup id := (h.distinct id).of_map _

namespace ListsAgree

/-- What is below a namespace by the lists of children has it among its parents. -/
theorem mem_of_isWalk (h : arena.ListsAgree) {id : NamespaceId} (hid : arena.Lists start id)
    {visited : List NamespaceId} (hwalk : IsWalk arena.parent? (some id) visited) :
    start ∈ visited := by
  induction hid generalizing visited with
  | refl =>
      cases hwalk with
      | step _ => exact List.mem_cons_self
  | @tail parent child _ hchild ih =>
      cases hwalk with
      | step hrest =>
          rw [h.parent parent child hchild] at hrest
          exact .tail child (ih hrest)

/-- Lists that agree with parents that end make a tree. -/
theorem isListedTree (h : arena.ListsAgree)
    (hends : ∃ visited, IsWalk arena.parent? (some start) visited) : arena.IsListedTree start where
  start_notMem id hid hmem := by
    obtain ⟨visited, hwalk⟩ := hends
    have hnodup := hwalk.nodup
    cases hwalk with
    | step hrest =>
        rw [h.parent id start hmem] at hrest
        exact (List.nodup_cons.mp hnodup).1 (h.mem_of_isWalk hid hrest)
  nodup_children id _ := h.nodup id
  lister_unique id other _ _ child hfirst hsecond :=
    Option.some.inj ((h.parent id child hfirst).symm.trans (h.parent other child hsecond))

/-- What is listed below a namespace exists if the namespace does. -/
theorem isSome_of_lists (h : arena.ListsAgree) (hstart : (arena.namespace? start).isSome)
    {id : NamespaceId} (hid : arena.Lists start id) : (arena.namespace? id).isSome := by
  cases hid with
  | refl => exact hstart
  | tail _ hchild => exact isSome_namespace?_of_parent? (h.parent _ _ hchild)

/-- Where lists agree with parents that end, a walk has ended after as many steps as there are
namespaces. -/
theorem length_queueAfter_le (h : arena.ListsAgree) (hstart : (arena.namespace? start).isSome)
    (hends : ∃ visited, IsWalk arena.parent? (some start) visited) :
    (arena.queueAfter start arena.namespaces.size).length ≤ arena.namespaces.size :=
  length_le_namespaces ((h.isListedTree hends).nodup_queueAfter _) fun _ hid =>
    h.isSome_of_lists hstart (lists_of_mem_queueAfter hid)

end ListsAgree

end SymbolArena

namespace KnownNamespaces

/-- Where the walk below a root ends, the known namespaces are the names of what it has queued. -/
theorem collect_eq_of_ended {arena : SymbolArena} {root : String} {start : NamespaceId}
    (hroot : root ≠ "") (hstart : arena.namespaceByPath? root = some start) {steps : Nat}
    (hended : (arena.queueAfter start steps).length ≤ steps) :
    collect arena root =
      .ofNames root ((arena.queueAfter start steps).map arena.namespacePath) := by
  rw [collect, if_neg hroot, hstart]
  exact congrArg (fun ids => ofNames root (ids.map arena.namespacePath))
    (SymbolArena.descendants_eq_queueAfter hended)

end KnownNamespaces

namespace ProgramDocument

variable {program : ProgramDocument} {root : String} {start : NamespaceId}

/-- In a valid program the walk that collects the known namespaces

* queues nothing twice if and only if the lists of children make a tree of what is below the root;
* has queued the known namespaces when it ends;
* queues nothing twice and ends after at most as many steps as there are namespaces, where the lists
  of children agree with the parents, which is what validation follows. -/
theorem queue_of_validate (hvalid : program.validate = .ok ()) (hroot : root ≠ "")
    (hstart : program.symbols.namespaceByPath? root = some start) :
    let symbols := program.symbols
    ((∀ steps, (symbols.queueAfter start steps).Nodup) ↔ symbols.IsListedTree start) ∧
    (∀ steps, (symbols.queueAfter start steps).length ≤ steps →
      KnownNamespaces.collect symbols root =
        .ofNames root ((symbols.queueAfter start steps).map symbols.namespacePath)) ∧
    ((symbols.namespace? start).isSome → symbols.ListsAgree →
      (∀ steps, (symbols.queueAfter start steps).Nodup) ∧
      (symbols.queueAfter start symbols.namespaces.size).length ≤ symbols.namespaces.size) := by
  intro symbols
  refine ⟨SymbolArena.nodup_queueAfter_iff, fun steps => ?_, ?_⟩
  · exact KnownNamespaces.collect_eq_of_ended hroot hstart
  intro hexists hagree
  have hends := (isWellformed_of_validate hvalid).parents_end start
  exact ⟨(hagree.isListedTree hends).nodup_queueAfter, hagree.length_queueAfter_le hexists hends⟩

/-- A program whose namespaces were added one by one. -/
def addedNamespaces : ProgramDocument where
  assembly := ⟨0⟩
  symbols := SymbolArena.modelsAndViews

/-- Below `App` of `addedNamespaces` the walk queues the two children. -/
theorem queue_addedNamespaces :
    let symbols := addedNamespaces.symbols
    addedNamespaces.validate = .ok () ∧
    symbols.namespaceByPath? "App" = some ⟨1⟩ ∧
    symbols.IsListedTree ⟨1⟩ ∧
    (symbols.queueAfter ⟨1⟩ symbols.namespaces.size).length ≤ symbols.namespaces.size ∧
    KnownNamespaces.collect symbols "App" =
      .ofNames "App" ((symbols.queueAfter ⟨1⟩ symbols.namespaces.size).map
        symbols.namespacePath) := by
  have hvalid : addedNamespaces.validate = .ok () := by rfl
  have hstart : addedNamespaces.symbols.namespaceByPath? "App" = some ⟨1⟩ := by decide +kernel
  have hbuilt : SymbolArena.modelsAndViews.IsBuilt :=
    .addNamespace (by decide +kernel) (by decide +kernel) (.addNamespacePath "App..Models" .empty)
  obtain ⟨htree, hcollect, hends⟩ := queue_of_validate hvalid (by decide) hstart
  obtain ⟨hnodup, hlength⟩ := hends (by decide +kernel) hbuilt.isNamespaceTree.listsAgree
  exact ⟨hvalid, hstart, htree.mp hnodup, hlength, hcollect _ hlength⟩

example : SymbolArena.modelsAndViews.queueAfter ⟨1⟩ 3 = [⟨1⟩, ⟨2⟩, ⟨3⟩] := by decide +kernel

/-- A program with a namespace that is listed, twice, among its own children. The global namespace
is its parent. -/
def selfListing : ProgramDocument where
  assembly := ⟨0⟩
  symbols :=
    { assemblies := #["Game"]
      namespaces := #[
        { name := "", children := [⟨1⟩] },
        { name := "App", parent := some ⟨0⟩, children := [⟨1⟩, ⟨1⟩] }] }

/-- Each step finds the namespace of `selfListing` and queues it two times more. -/
theorem queueAfter_selfListing (steps : Nat) :
    selfListing.symbols.queueAfter ⟨1⟩ steps = List.replicate (2 * steps + 1) ⟨1⟩ := by
  induction steps with
  | zero => rfl
  | succ steps ih =>
      have hnext : (selfListing.symbols.queueAfter ⟨1⟩ steps)[steps]? = some ⟨1⟩ := by
        rw [ih, List.getElem?_replicate_of_lt (by omega)]
      have hchildren : selfListing.symbols.children ⟨1⟩ = List.replicate 2 ⟨1⟩ := by rfl
      rw [SymbolArena.queueAfter_succ_of_getElem? hnext, ih, hchildren,
        List.replicate_append_replicate]
      rfl

/-- Validation accepts a program in which the walk queues the root again and does not end: after
any number of steps there are more namespaces in the queue than were looked at. What is collected
is cut off at the depth that a tree would have, and repeats the root, too. -/
theorem endless_selfListing :
    let symbols := selfListing.symbols
    selfListing.validate = .ok () ∧
    symbols.namespaceByPath? "App" = some ⟨1⟩ ∧
    ¬ (symbols.queueAfter ⟨1⟩ 1).Nodup ∧
    (∀ steps, steps < (symbols.queueAfter ⟨1⟩ steps).length) ∧
    ¬ (symbols.descendants ⟨1⟩).Nodup := by
  refine ⟨by rfl, by decide +kernel, by decide +kernel, fun steps => ?_, by decide +kernel⟩
  rw [queueAfter_selfListing, List.length_replicate]
  omega

end ProgramDocument

end Portability
