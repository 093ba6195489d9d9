import Portability.Proofs.Tree.Frame
import Portability.Proofs.Tree.Preorder

/-!
# What dissolving brings to a unit

Dissolving a namespace goes through the namespaces nested in it, which are members of members. It
needs no more levels than the arena has nodes, so what it brings to the unit is what those
namespaces hold: `mem_part_dissolve`. What a flattened unit has of each part is
`mem_part_dissolveUnit`. In particular, the unit has no dissolved namespace any more but whatever is
held by it (`HoldsMember`), and none of the imports that are dropped.
-/

namespace Portability

namespace Dissolved

/-- Whether a part of what dissolving brings adds up. -/
structure IsPart (part : Dissolved → List NodeId) : Prop where
  empty : part {} = []
  append : ∀ first second, part (first ++ second) = part first ++ part second

/-- The external aliases are a part. -/
theorem isPart_externs : IsPart externs := ⟨rfl, fun _ _ => rfl⟩

/-- The imports are a part. -/
theorem isPart_usings : IsPart usings := ⟨rfl, fun _ _ => rfl⟩

/-- The members are a part. -/
theorem isPart_members : IsPart members := ⟨rfl, fun _ _ => rfl⟩

/-- A part of several units, put together, is that part of each of them. -/
theorem IsPart.concat {part : Dissolved → List NodeId} (h : IsPart part)
    (parts : List Dissolved) : part (concat parts) = parts.flatMap part := by
  have hfold (first : Dissolved) :
      part (parts.foldl Dissolved.append first) = part first ++ parts.flatMap part := by
    induction parts generalizing first with
    | nil => simp
    | cons next rest ih =>
        rw [List.foldl_cons, ih, List.flatMap_cons, ← List.append_assoc]
        exact congrArg (· ++ _) (h.append first next)
  rw [Dissolved.concat, hfold, h.empty, List.nil_append]

/-- Put together, dissolved namespaces have the parts of all of them. -/
theorem concat_eq (parts : List Dissolved) :
    concat parts =
      { externs := parts.flatMap externs
        usings := parts.flatMap usings
        members := parts.flatMap members } := by
  rw [← isPart_externs.concat, ← isPart_usings.concat, ← isPart_members.concat]

/-- The first of several dissolved namespaces comes before the others. -/
theorem concat_cons (first : Dissolved) (rest : List Dissolved) :
    concat (first :: rest) = first ++ concat rest := by
  rw [concat_eq, concat_eq]
  rfl

/-- Members add up one by one. -/
theorem IsPart.mk_members {part : Dissolved → List NodeId} (h : IsPart part)
    (externs usings members : List NodeId) :
    part { externs, usings, members } =
      part { externs, usings } ++ members.flatMap fun item => part { members := [item] } := by
  have hmembers : part { members } = members.flatMap fun item => part { members := [item] } := by
    induction members with
    | nil => exact h.empty
    | cons item rest ih =>
        rw [List.flatMap_cons, ← ih]
        exact h.append { members := [item] } { members := rest }
  have hsplit : ({ externs, usings, members } : Dissolved) =
      { externs, usings } ++ { members } := by
    change _ = Dissolved.append _ _
    simp [Dissolved.append]
  rw [hsplit, h.append, hmembers]

/-- Members of which some are opened bring what is inside of these, and the others themselves. -/
theorem IsPart.mem_concat_opened {part : Dissolved → List NodeId} (h : IsPart part)
    {opens : NodeId → Bool} {inside : NodeId → Dissolved} {members : List NodeId} {item : NodeId} :
    item ∈ part (Dissolved.concat (members.map fun member =>
        if opens member then inside member else { members := [member] })) ↔
      (∃ member ∈ members, opens member = false ∧ item ∈ part { members := [member] }) ∨
        ∃ member ∈ members, opens member = true ∧ item ∈ part (inside member) := by
  rw [h.concat, List.flatMap_map, List.mem_flatMap, ← exists_or]
  refine exists_congr fun member => ?_
  cases opens member <;> simp

end Dissolved

namespace NodeArena

/-- The namespaces among the members of a namespace. -/
def nestedNamespaces (arena : NodeArena) : Parts := fun _ data =>
  match data with
  | .namespaceDeclaration _ _ _ members => members.filter arena.isNamespace
  | _ => []

/-- What a namespace itself brings to its unit. -/
def ownParts (arena : NodeArena) (root : String) (id : NodeId) : Dissolved :=
  match arena.data? id with
  | some (.namespaceDeclaration _ externs usings members) =>
    { externs
      usings := usings.filter fun item => !arena.importsFrom root item
      members := members.filter fun item => !arena.isNamespace item }
  | _ => {}

/-- Whether a namespace is the other one or nested in it. -/
def Nests (arena : NodeArena) (outer inner : NodeId) : Prop :=
  ∃ depth, arena.Leads arena.nestedNamespaces depth outer inner

variable {arena : NodeArena}

/-- What is dissolved is a namespace. -/
theorem isNamespace_of_isDissolved {root : String} {id : NodeId}
    (h : arena.isDissolved root id) : arena.isNamespace id := by
  rw [isDissolved] at h
  rw [isNamespace]
  split at h
  · next hdata => rw [hdata]; rfl
  · exact absurd h Bool.false_ne_true

/-- A namespace has a name, external aliases, imports and members. -/
theorem exists_data?_of_isNamespace {id : NodeId} (h : arena.isNamespace id) :
    ∃ name externs usings members,
      arena.data? id = some (.namespaceDeclaration name externs usings members) := by
  unfold isNamespace at h
  split at h
  next data hdata =>
    cases data
    case namespaceDeclaration => exact ⟨_, _, _, _, hdata⟩
    all_goals exact absurd h Bool.false_ne_true
  next => exact absurd h Bool.false_ne_true

/-- A namespace is a node of the arena. -/
theorem contains_of_isNamespace {id : NodeId} (h : arena.isNamespace id) : arena.contains id := by
  obtain ⟨_, _, _, _, hdata⟩ := exists_data?_of_isNamespace h
  exact contains_iff.mpr ⟨_, hdata⟩

/-- The namespaces that are nested in a node are namespaces. -/
theorem isNamespace_of_mem_nestedNamespaces {id part : NodeId} {data : NodeData}
    (h : part ∈ arena.nestedNamespaces id data) : arena.isNamespace part := by
  cases data
  case namespaceDeclaration => exact (List.mem_filter.mp h).2
  all_goals exact absurd h List.not_mem_nil

/-- What a namespace brings of its own: all but nested namespaces, and all but imports of the
root. -/
theorem ownParts_of_data? {id name : NodeId} {externs usings members : List NodeId}
    (h : arena.data? id = some (.namespaceDeclaration name externs usings members))
    (root : String) :
    arena.ownParts root id =
      { externs
        usings := usings.filter fun item => !arena.importsFrom root item
        members := members.filter fun item => !arena.isNamespace item } := by
  rw [ownParts, h]

/-- Of its own, a namespace brings no namespaces. -/
theorem mem_members_ownParts {root : String} {id item : NodeId}
    (h : item ∈ (arena.ownParts root id).members) : arena.isNamespace item = false := by
  unfold ownParts at h
  split at h
  · simpa using (List.mem_filter.mp h).2
  · exact absurd h List.not_mem_nil

/-- Of its own, a namespace brings no imports of the root. -/
theorem mem_usings_ownParts {root : String} {id item : NodeId}
    (h : item ∈ (arena.ownParts root id).usings) : arena.importsFrom root item = false := by
  unfold ownParts at h
  split at h
  · simpa using (List.mem_filter.mp h).2
  · exact absurd h List.not_mem_nil

/-- A namespace itself brings its aliases and its imports, and its members that are none. -/
theorem mem_part_ownParts {part : Dissolved → List NodeId} (hpart : Dissolved.IsPart part)
    {id name : NodeId} {externs usings members : List NodeId}
    (h : arena.data? id = some (.namespaceDeclaration name externs usings members))
    (root : String) {item : NodeId} :
    item ∈ part (arena.ownParts root id) ↔
      item ∈ part { externs, usings := usings.filter fun item => !arena.importsFrom root item } ∨
        ∃ member ∈ members, arena.isNamespace member = false ∧
          item ∈ part { members := [member] } := by
  rw [ownParts_of_data? h, hpart.mk_members, List.mem_append, List.mem_flatMap]
  simp [List.mem_filter, and_assoc]

/-- On some levels a namespace is dissolved to what the namespaces nested in it on these levels
hold. -/
theorem mem_part_dissolveTo {part : Dissolved → List NodeId} (hpart : Dissolved.IsPart part)
    (root : String) (depth : Nat) {id item : NodeId} :
    item ∈ part (arena.dissolveTo root depth id) ↔
      ∃ inner ∈ arena.preorderTo arena.nestedNamespaces depth id,
        item ∈ part (arena.ownParts root inner) := by
  induction depth generalizing id with
  | zero => simp [dissolveTo, hpart.empty, preorderTo]
  | succ depth ih =>
      cases hdata : arena.data? id with
      | none => simp [dissolveTo, hdata, hpart.empty, preorderTo]
      | some data =>
          rw [preorderTo_of_data? hdata, dissolveTo, hdata]
          cases data
          case namespaceDeclaration name externs usings members =>
            have hnested : (∃ inner ∈ (arena.nestedNamespaces id
                  (.namespaceDeclaration name externs usings members)).flatMap
                    (arena.preorderTo arena.nestedNamespaces depth),
                  item ∈ part (arena.ownParts root inner)) ↔
                ∃ member ∈ members, arena.isNamespace member = true ∧
                  item ∈ part (arena.dissolveTo root depth member) := by
              simp only [ih, nestedNamespaces, List.mem_flatMap, List.mem_filter]
              constructor
              · rintro ⟨inner, ⟨member, ⟨hmember, hnamespace⟩, hinner⟩, hitem⟩
                exact ⟨member, hmember, hnamespace, inner, hinner, hitem⟩
              · rintro ⟨member, hmember, hnamespace, inner, hinner, hitem⟩
                exact ⟨inner, ⟨member, ⟨hmember, hnamespace⟩, hinner⟩, hitem⟩
            rw [hpart.append, List.mem_append, hpart.mem_concat_opened, List.exists_mem_cons_iff,
              mem_part_ownParts hpart hdata, hnested, or_assoc]
          all_goals simp [hpart.empty, nestedNamespaces, ownParts, hdata]

/-- A namespace is dissolved to what the namespaces nested in it hold. -/
theorem mem_part_dissolve {part : Dissolved → List NodeId} (hpart : Dissolved.IsPart part)
    (root : String) {id item : NodeId} :
    item ∈ part (arena.dissolve root id) ↔
      ∃ inner, arena.Nests id inner ∧ item ∈ part (arena.ownParts root inner) := by
  rw [dissolve, mem_part_dissolveTo hpart]
  refine exists_congr fun inner => and_congr_left' (mem_preorderTo_iff.trans ⟨?_, ?_⟩)
  · rintro ⟨depth, -, hleads⟩
    exact ⟨depth, hleads⟩
  · rintro ⟨depth, hleads⟩
    exact hleads.exists_lt_size

/-- What a flattened unit has of a part: what the unit has but for namespaces that are dissolved,
and what these are dissolved to. -/
theorem mem_part_dissolveUnit {part : Dissolved → List NodeId} (hpart : Dissolved.IsPart part)
    (root : String) (externs usings members : List NodeId) {item : NodeId} :
    item ∈ part (arena.dissolveUnit root externs usings members) ↔
      item ∈ part { externs, usings := usings.filter fun item => !arena.importsFrom root item } ∨
        (∃ member ∈ members, arena.isDissolved root member = false ∧
          item ∈ part { members := [member] }) ∨
        ∃ member ∈ members, arena.isDissolved root member ∧
          ∃ inner, arena.Nests member inner ∧ item ∈ part (arena.ownParts root inner) := by
  rw [dissolveUnit, hpart.append, List.mem_append, hpart.mem_concat_opened]
  simp only [mem_part_dissolve hpart]

/-! ### What a flattened unit has -/

/-- Whether a node other than a namespace is a member of a namespace or of one nested in it. -/
def HoldsMember (arena : NodeArena) (outer item : NodeId) : Prop :=
  arena.isNamespace item = false ∧ ∃ inner name externs usings members, arena.Nests outer inner ∧
    arena.data? inner = some (.namespaceDeclaration name externs usings members) ∧ item ∈ members

/-- What a dissolved namespace holds is a member of the unit. -/
theorem HoldsMember.mem_dissolveUnit {outer item : NodeId} (h : arena.HoldsMember outer item)
    {root : String} (hdissolved : arena.isDissolved root outer) {members : List NodeId}
    (hmember : outer ∈ members) (externs usings : List NodeId) :
    item ∈ (arena.dissolveUnit root externs usings members).members := by
  obtain ⟨hnamespace, inner, name, _, _, _, hnests, hdata, hitem⟩ := h
  refine (mem_part_dissolveUnit Dissolved.isPart_members root _ _ _).mpr
    (.inr (.inr ⟨outer, hmember, hdissolved, inner, hnests, ?_⟩))
  rw [ownParts_of_data? hdata]
  exact List.mem_filter.mpr ⟨hitem, by simp [hnamespace]⟩

/-- A namespace that is dissolved is no member of the unit. -/
theorem notMem_members_dissolveUnit {root : String} {item : NodeId}
    (hdissolved : arena.isDissolved root item) (externs usings members : List NodeId) :
    item ∉ (arena.dissolveUnit root externs usings members).members := by
  intro hmem
  rcases (mem_part_dissolveUnit Dissolved.isPart_members root _ _ _).mp hmem with
    hmem | ⟨member, -, hnot, hmem⟩ | ⟨member, -, -, inner, -, hmem⟩
  · exact absurd hmem List.not_mem_nil
  · obtain rfl := List.mem_singleton.mp hmem
    exact Bool.false_ne_true (hnot.symm.trans hdissolved)
  · have hnot := mem_members_ownParts hmem
    exact Bool.false_ne_true (hnot.symm.trans (isNamespace_of_isDissolved hdissolved))

/-- A member that a flattened unit has no more is dissolved. -/
theorem isDissolved_of_notMem {root : String} {item : NodeId}
    {externs usings members : List NodeId} (hmember : item ∈ members)
    (hgone : item ∉ (arena.dissolveUnit root externs usings members).members) :
    arena.isDissolved root item := by
  by_contra hkept
  exact hgone ((mem_part_dissolveUnit Dissolved.isPart_members root _ _ _).mpr
    (.inr (.inl ⟨item, hmember, Bool.eq_false_iff.mpr hkept, List.mem_singleton_self item⟩)))

/-- An import that is dropped is none of the unit's. -/
theorem notMem_usings_dissolveUnit {root : String} {item : NodeId}
    (himports : arena.importsFrom root item) (externs usings members : List NodeId) :
    item ∉ (arena.dissolveUnit root externs usings members).usings := by
  intro hmem
  rcases (mem_part_dissolveUnit Dissolved.isPart_usings root _ _ _).mp hmem with
    hmem | ⟨member, -, -, hmem⟩ | ⟨member, -, -, inner, -, hmem⟩
  · exact absurd (List.mem_filter.mp hmem).2 (by simp [himports])
  · exact absurd hmem List.not_mem_nil
  · exact Bool.false_ne_true ((mem_usings_ownParts hmem).symm.trans himports)

section

variable {unit : NodeId} {externs usings attributeLists members : List NodeId}
  (hunit : arena.data? unit = some (.compilationUnit externs usings attributeLists members))
  (root : String)

include hunit

/-- Flattening adds no namespace. -/
theorem isNamespace_flatten (id : NodeId) :
    (arena.flatten unit root).2.isNamespace id = arena.isNamespace id := by
  rw [isNamespace, isNamespace, data?_flatten hunit]
  by_cases hid : id = (arena.flatten unit root).1
  · rw [if_pos hid, hid, data?_fst_flatten hunit]
    rfl
  · rw [if_neg hid]

/-- What a namespace holds after flattening it held before. -/
theorem HoldsMember.of_flatten {outer item : NodeId}
    (h : (arena.flatten unit root).2.HoldsMember outer item) (houter : arena.contains outer) :
    arena.HoldsMember outer item := by
  have hdata {id : NodeId} (hid : arena.contains id) :
      (arena.flatten unit root).2.data? id = arena.data? id :=
    (changesOnly_flatten (fun _ => False) arena unit root).data?_eq hid fun hfalse => hfalse
  obtain ⟨hnamespace, inner, name, externs, usings, members, ⟨depth, hleads⟩, hinner, hitem⟩ := h
  rw [isNamespace_flatten hunit] at hnamespace
  refine ⟨hnamespace, inner, name, externs, usings, members, ?_⟩
  clear hnamespace
  induction hleads with
  | here => exact ⟨⟨0, .here houter⟩, (hdata houter).symm.trans hinner, hitem⟩
  | @step depth id part below data hsome hpart _ ih =>
      have hnested : part ∈ arena.nestedNamespaces id data := by
        cases data
        case namespaceDeclaration =>
          obtain ⟨hmember, hpart⟩ := List.mem_filter.mp hpart
          rw [isNamespace_flatten hunit] at hpart
          exact List.mem_filter.mpr ⟨hmember, hpart⟩
        all_goals exact hpart
      have hcontains := contains_of_isNamespace (isNamespace_of_mem_nestedNamespaces hnested)
      obtain ⟨⟨depth, hleads⟩, hmember⟩ := ih hcontains hinner
      exact ⟨⟨depth + 1, .step ((hdata houter).symm.trans hsome) hnested hleads⟩, hmember⟩

end

end NodeArena

end Portability
