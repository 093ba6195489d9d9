import Portability.Proofs.KnownNamespaces
import Portability.Proofs.Pass.Moves
import Portability.Proofs.Tree.Names
import Portability.Proofs.Tree.Notes
import Portability.Proofs.Tree.Spelling

/-!
# Relinked arenas

A visit leaves most nodes in their place. Of names it *spares* chains of identifiers that are known
namespaces or go on after none (`KnownNamespaces.Spares`); steady nodes and spared names *stay*, and
`KnownNamespaces.Relinks` says what this comes to for a whole arena, whether or not it is a tree:
slots hold other handles only where what they held does not stay, and the links of chains are as
they were.

So a spared name is spelled as before, and namespaces and imports with spared names are dissolved
and dropped just as they would have been before (`Relinks.isDissolved`, `Relinks.importsFrom`).
-/

namespace Portability

open NodeArena (ChangesOnly SameShape)

namespace NodeData

/-- What was put into the slots before does not matter. -/
theorem withSlots_withSlots {data : NodeData} {first : List NodeId}
    (h : first.length = data.slots.length) (second : List NodeId) :
    (data.withSlots first).withSlots second = data.withSlots second := by
  cases data
  case compilationUnit | namespaceDeclaration | switchSection | joinClause =>
    simp only [slots, List.length_append, List.length_cons] at h
    simp (disch := omega) only [withSlots, List.length_take, List.length_drop, List.length_tail,
      Nat.min_eq_left]
  all_goals rfl

/-- Whether a node is steady does not depend on what is in its slots. -/
theorem isSteady_withSlots (data : NodeData) (ids : List NodeId) :
    (data.withSlots ids).isSteady = data.isSteady := by
  cases data <;> rfl

/-- Whether a node is a namespace does not depend on what is in its slots. -/
theorem isNamespace_withSlots (data : NodeData) (ids : List NodeId) :
    (data.withSlots ids).isNamespace = data.isNamespace := by
  cases data <;> rfl

/-- Namespaces are steady. -/
theorem isSteady_of_isNamespace {data : NodeData} (h : data.isNamespace) : data.isSteady := by
  cases data
  case namespaceDeclaration => rfl
  all_goals cases h

variable {R : NodeId → NodeId → Prop} {externs usings attributeLists members ids : List NodeId}

/-- The members of a unit are relinked one by one. -/
theorem exists_withSlots_compilationUnit
    (h : List.Forall₂ R (compilationUnit externs usings attributeLists members).slots ids) :
    ∃ externs' usings' attributeLists' members',
      (compilationUnit externs usings attributeLists members).withSlots ids =
        compilationUnit externs' usings' attributeLists' members' ∧
      List.Forall₂ R members members' := by
  refine ⟨_, _, _, _, rfl, ?_⟩
  rw [slots, List.append_assoc, List.append_assoc] at h
  have hmembers := List.forall₂_drop attributeLists.length
    (List.forall₂_drop usings.length (List.forall₂_drop externs.length h))
  simpa only [List.drop_left] using hmembers

/-- The name and the members of a namespace are relinked one by one. -/
theorem exists_withSlots_namespaceDeclaration {name : NodeId}
    (h : List.Forall₂ R (namespaceDeclaration name externs usings members).slots ids) :
    ∃ name' externs' usings' members',
      (namespaceDeclaration name externs usings members).withSlots ids =
        namespaceDeclaration name' externs' usings' members' ∧
      R name name' ∧ List.Forall₂ R members members' := by
  cases h with
  | cons hname hlists =>
      refine ⟨_, _, _, _, rfl, hname, ?_⟩
      have hmembers := List.forall₂_drop usings.length (List.forall₂_drop externs.length hlists)
      simpa only [List.append_assoc, List.drop_left, List.tail_cons] using hmembers

end NodeData

/-! ### Names that are spared -/

namespace KnownNamespaces

/-- Whether shortening spares a name: a chain of identifiers that is a known namespace or goes on
after none. -/
structure Spares (known : KnownNamespaces) (arena : NodeArena) (id : NodeId) : Prop where
  chain : arena.IsNameChain id
  spared : known.contains (arena.spell id) ∨ known.longestBelow? (arena.spell id) = none

/-- Whether a node answers its own visit: it is steady or a spared name. -/
def Stays (known : KnownNamespaces) (arena : NodeArena) (id : NodeId) : Prop :=
  (∃ data, arena.data? id = some data ∧ data.isSteady) ∨ known.Spares arena id

/-- Whether the name of a node, if it is an import or a namespace, is spared. -/
def SparesNameOf (known : KnownNamespaces) (arena : NodeArena) (id : NodeId) : Prop :=
  ∀ data, arena.data? id = some data → ∀ name ∈ data.nameSlots, known.Spares arena name

/-- Namespaces stay. -/
theorem Stays.ofNamespace {known : KnownNamespaces} {arena : NodeArena} {id : NodeId}
    (h : arena.isNamespace id) : known.Stays arena id := by
  obtain ⟨data, hdata⟩ := NodeArena.contains_iff.mp (NodeArena.contains_of_isNamespace h)
  rw [NodeArena.isNamespace, hdata] at h
  exact .inl ⟨data, hdata, NodeData.isSteady_of_isNamespace h⟩

/-- Whether a handle may stand where another one did. -/
def Follows (known : KnownNamespaces) (arena : NodeArena) (id answer : NodeId) : Prop :=
  known.Stays arena id → answer = id

variable {known : KnownNamespaces} {arena later : NodeArena} {id left right : NodeId}

/-- What may stand for what stands for a handle may stand for the handle. -/
theorem forall₂_follows_trans {first second third : List NodeId}
    (h : List.Forall₂ (known.Follows arena) first second)
    (hnext : List.Forall₂ (known.Follows arena) second third) :
    List.Forall₂ (known.Follows arena) first third := by
  induction h generalizing third with
  | nil => exact hnext
  | cons hhead _ ih =>
      cases hnext with
      | cons hnext hrest =>
          refine .cons (fun hstays => ?_) (ih hrest)
          obtain rfl := hhead hstays
          exact hnext hstays

/-- What stays is still there in any list that may stand where one with it did. -/
theorem mem_of_stays {before after : List NodeId}
    (h : List.Forall₂ (known.Follows arena) before after) (hmem : id ∈ before)
    (hstays : known.Stays arena id) : id ∈ after := by
  induction h with
  | nil => exact hmem
  | cons hhead _ ih =>
      rcases List.mem_cons.mp hmem with rfl | hmem
      · exact hhead hstays ▸ List.mem_cons_self
      · exact List.mem_cons_of_mem _ (ih hmem)

/-- Where all slots stay, they are as they were. -/
theorem eq_of_stays {before after : List NodeId}
    (h : List.Forall₂ (known.Follows arena) before after)
    (hstays : ∀ slot ∈ before, known.Stays arena slot) : after = before := by
  induction h with
  | nil => rfl
  | cons hhead _ ih =>
      obtain ⟨hfirst, hrest⟩ := List.forall_mem_cons.mp hstays
      rw [hhead hfirst, ih hrest]

/-- The qualifier of a spared name that is not known itself is neither known nor goes on after a
known namespace. -/
theorem Spares.qualifier (h : known.Spares arena id)
    (hdata : arena.data? id = some (.qualifiedName left right))
    (hunknown : known.contains (arena.spell id) = false) :
    known.contains (arena.spell left) = false ∧ known.longestBelow? (arena.spell left) = none := by
  have hnone : known.longestBelow? (arena.spell id) = none :=
    h.spared.resolve_left (by simp [hunknown])
  rw [h.chain.fitsIn_size.spell_eq_of_qualifiedName hdata] at hnone
  refine ⟨contains_left hnone ?_, longestBelow?_left hnone⟩
  obtain ⟨-, text, htext, hright⟩ := h.chain.parts hdata
  rwa [NodeArena.spell_of_identifierName hright]

/-- What relinking and adding nodes can make of an arena: the nodes of chains are as they were, and
slots hold other handles only where what they held does not stay. -/
structure Relinks (known : KnownNamespaces) (arena later : NodeArena) : Prop where
  size_le : arena.size ≤ later.size
  chains : ∀ id, arena.IsNameChain id → later.data? id = arena.data? id
  slots : ∀ id data, arena.data? id = some data →
    ∃ ids, List.Forall₂ (known.Follows arena) data.slots ids ∧
      later.data? id = some (data.withSlots ids)

namespace Relinks

/-- An arena as it is was relinked in a trivial way. -/
theorem refl (known : KnownNamespaces) (arena : NodeArena) : known.Relinks arena arena where
  size_le := Nat.le_refl _
  chains := fun _ _ => rfl
  slots := fun _ data hdata => ⟨data.slots, List.forall₂_same.mpr fun _ _ _ => rfl,
    hdata.trans (congrArg some data.withSlots_slots.symm)⟩

variable (h : known.Relinks arena later)

include h

/-- What keeps the data of all nodes keeps how they are linked. -/
theorem keep {last : NodeArena} (hsize : later.size ≤ last.size)
    (hdata : ∀ id, later.contains id → last.data? id = later.data? id) :
    known.Relinks arena last where
  size_le := Nat.le_trans h.size_le hsize
  chains := by
    intro id hchain
    obtain ⟨data, hid, -⟩ := hchain.exists_data?
    have hlater := h.chains id hchain
    rw [hdata id (NodeArena.contains_iff.mpr ⟨data, hlater.trans hid⟩), hlater]
  slots := by
    intro id data hid
    obtain ⟨ids, hids, hlater⟩ := h.slots id data hid
    exact ⟨ids, hids, (hdata id (NodeArena.contains_iff.mpr ⟨_, hlater⟩)).trans hlater⟩

/-- Comments make no difference to how an arena was relinked. -/
theorem ofSameShape {last : NodeArena} (hshape : SameShape last later) :
    known.Relinks arena last :=
  h.keep (Nat.le_of_eq hshape.size_eq.symm) fun id _ => hshape.data?_eq id

/-- Nodes that are added make no difference to how an arena was relinked. -/
theorem ofChanges {last : NodeArena} (hchanges : ChangesOnly (fun _ => False) later last) :
    known.Relinks arena last :=
  h.keep hchanges.size_le fun _ hcontains => hchanges.data?_eq hcontains fun hfalse => hfalse

/-- Putting other handles into the slots of a node, where none that stays is left out, is a way to
relink. -/
theorem setData {s : NodeArena} (hbefore : known.Relinks arena s) {data : NodeData}
    (hdata : s.data? id = some data) {ids : List NodeId}
    (hids : List.Forall₂ (known.Follows arena) data.slots ids)
    (hchain : arena.IsNameChain id → ids = data.slots) :
    known.Relinks arena (later.setData id (data.withSlots ids)) where
  size_le := by
    rw [NodeArena.setData, NodeArena.size_modify]
    exact h.size_le
  chains := by
    intro other hother
    rw [NodeArena.data?_setData]
    split
    · next heq =>
        subst heq
        have hsame := hbefore.chains other hother
        rw [hchain hother, data.withSlots_slots, h.chains other hother, ← hsame, hdata,
          Option.map_some]
    · exact h.chains other hother
  slots := by
    intro other first hfirst
    rw [NodeArena.data?_setData]
    split
    · next heq =>
        subst heq
        obtain ⟨before, hfollows, hsome⟩ := hbefore.slots other first hfirst
        obtain ⟨_, -, hlater⟩ := h.slots other first hfirst
        obtain rfl : data = first.withSlots before := Option.some.inj (hdata ▸ hsome)
        have hlength := hfollows.length_eq.symm
        rw [NodeData.slots_withSlots hlength] at hids
        refine ⟨ids, forall₂_follows_trans hfollows hids, ?_⟩
        rw [hlater, NodeData.withSlots_withSlots hlength, Option.map_some]
    · exact h.slots other first hfirst
/-- A chain is spelled as it was. -/
theorem spell_eq (hchain : arena.IsNameChain id) : later.spell id = arena.spell id := by
  have hagree : arena.AgreeBelow later id := fun below hbelow =>
    h.chains below (hchain.ofReaches hbelow)
  exact hagree.spell_eq hchain.fitsIn_size h.size_le

/-- Chains are identifiers and qualified names still. -/
theorem isName_of_chain (hchain : arena.IsNameChain id) {data : NodeData}
    (hdata : later.data? id = some data) :
    (∃ text, data = .identifierName text) ∨ ∃ left right, data = .qualifiedName left right := by
  obtain ⟨first, hfirst, hname⟩ := hchain.exists_data?
  obtain rfl : data = first :=
    Option.some.inj (hdata.symm.trans ((h.chains id hchain).trans hfirst))
  exact hname

/-- What stays is steady, or else a qualified name that is spared. -/
theorem isSteady_or_spares (hstays : known.Stays arena id) {data : NodeData}
    (hdata : later.data? id = some data) :
    data.isSteady ∨ known.Spares arena id ∧ ∃ left right, data = .qualifiedName left right := by
  rcases hstays with ⟨first, hfirst, hsteady⟩ | hspares
  · obtain ⟨ids, -, hlater⟩ := h.slots id first hfirst
    obtain rfl : data = first.withSlots ids := Option.some.inj (hdata ▸ hlater)
    exact .inl ((first.isSteady_withSlots ids).trans hsteady)
  · rcases h.isName_of_chain hspares.chain hdata with ⟨text, rfl⟩ | hqualified
    · exact .inl rfl
    · exact .inr ⟨hspares, hqualified⟩

/-- A namespace is one still, with a name and members in the places of those before. -/
theorem exists_namespaceDeclaration {name : NodeId} {externs usings members : List NodeId}
    (hdata : arena.data? id = some (.namespaceDeclaration name externs usings members)) :
    ∃ name' externs' usings' members',
      later.data? id = some (.namespaceDeclaration name' externs' usings' members') ∧
      known.Follows arena name name' ∧ List.Forall₂ (known.Follows arena) members members' := by
  obtain ⟨ids, hids, hlater⟩ := h.slots id _ hdata
  obtain ⟨name', externs', usings', members', heq, hname, hmembers⟩ :=
    NodeData.exists_withSlots_namespaceDeclaration hids
  exact ⟨name', externs', usings', members', heq ▸ hlater, hname, hmembers⟩

/-! #### Namespaces and imports -/

/-- A namespace with a spared name is dissolved after relinking if it was before. -/
theorem isDissolved {root : String} (hspares : known.SparesNameOf arena id)
    (hdissolved : arena.isDissolved root id) : later.isDissolved root id := by
  rw [NodeArena.isDissolved] at hdissolved
  split at hdissolved
  · next name _ _ _ hdata =>
      have hname := hspares _ hdata name List.mem_cons_self
      obtain ⟨name', _, _, _, hlater, hfollows, -⟩ := h.exists_namespaceDeclaration hdata
      obtain rfl := hfollows (.inr hname)
      rw [NodeArena.isDissolved, hlater]
      exact (congrArg (Dotted.startsWith · root) (h.spell_eq hname.chain)).trans hdissolved
  · exact absurd hdissolved Bool.false_ne_true

/-- An import of a spared name is dropped after relinking if it was before. -/
theorem importsFrom {root : String} (hspares : known.SparesNameOf arena id)
    (himports : arena.importsFrom root id) : later.importsFrom root id := by
  rw [NodeArena.importsFrom] at himports
  split at himports
  · next aliasName name hdata =>
      have hname := hspares _ hdata name List.mem_cons_self
      obtain ⟨ids, hids, hlater⟩ := h.slots id _ hdata
      obtain ⟨name', hfollows, rfl⟩ : ∃ name', known.Follows arena name name' ∧ ids = [name'] := by
        cases hids with
        | cons hhead hrest => exact ⟨_, hhead, by rw [List.forall₂_nil_left_iff.mp hrest]⟩
      obtain rfl := hfollows (.inr hname)
      rw [NodeArena.importsFrom, hlater]
      exact (congrArg (Dotted.startsWith · root) (h.spell_eq hname.chain)).trans himports
  · exact absurd himports Bool.false_ne_true

/-- Steady nodes stay what they are. -/
theorem isNamespace_eq {data : NodeData} (hdata : arena.data? id = some data) :
    later.isNamespace id = arena.isNamespace id := by
  obtain ⟨ids, -, hlater⟩ := h.slots id data hdata
  rw [NodeArena.isNamespace, NodeArena.isNamespace, hlater, hdata]
  exact data.isNamespace_withSlots ids

/-- Namespaces stay nested as they are. -/
theorem nests {outer inner : NodeId} (hnests : arena.Nests outer inner) :
    later.Nests outer inner := by
  obtain ⟨depth, hleads⟩ := hnests
  refine ⟨depth, ?_⟩
  induction hleads with
  | here hcontains => exact .here (NodeArena.contains_of_size_le h.size_le hcontains)
  | @step depth id part below data hdata hpart _ ih =>
      have hnamespace := NodeArena.isNamespace_of_mem_nestedNamespaces hpart
      obtain ⟨other, hother⟩ :=
        NodeArena.contains_iff.mp (NodeArena.contains_of_isNamespace hnamespace)
      cases data
      case namespaceDeclaration =>
        obtain ⟨_, _, _, members', hlater, -, hmembers⟩ := h.exists_namespaceDeclaration hdata
        refine .step hlater (List.mem_filter.mpr ⟨?_, ?_⟩) ih
        · exact mem_of_stays hmembers (List.mem_filter.mp hpart).1 (.ofNamespace hnamespace)
        · exact (h.isNamespace_eq hother).trans hnamespace
      all_goals exact absurd hpart List.not_mem_nil

/-- A steady node that a namespace holds is held by it still. -/
theorem holdsMember {outer item : NodeId} (hholds : arena.HoldsMember outer item) {data : NodeData}
    (hitem : arena.data? item = some data) (hsteady : data.isSteady) :
    later.HoldsMember outer item := by
  obtain ⟨hnamespace, inner, name, externs, usings, members, hnests, hinner, hmember⟩ := hholds
  obtain ⟨_, _, _, members', hlater, -, hmembers⟩ := h.exists_namespaceDeclaration hinner
  refine ⟨(h.isNamespace_eq hitem).trans hnamespace, inner, _, _, _, members', h.nests hnests,
    hlater, ?_⟩
  exact mem_of_stays hmembers hmember (.inl ⟨data, hitem, hsteady⟩)

end Relinks

end KnownNamespaces

end Portability
