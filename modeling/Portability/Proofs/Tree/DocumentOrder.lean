import Portability.Proofs.Tree.Dissolve
import Portability.Proofs.Tree.Spelling

/-!
# Flattened units in document order

Going through members in the order of the document, and into each namespace among them at its place,
one meets namespaces and other members: `Unfolds` lists both. Where no namespace is nested in itself
there is such an order, and dissolving follows it (`exists_dissolveUnit_eq`). So the members, the
aliases and the imports of a flattened unit are told in their order and number
(`flatten_inDocumentOrder`).

A flattened unit is left as it is when it is flattened again (`data?_flatten_flatten`), if the names
in it are still spelled as they were. They are not where a name holds the handle that the new unit
is given, which named no node before (`flatten_flatten_importOfNothing`).
-/

namespace Portability

namespace NodeArena

/-! ### Document order -/

/-- The aliases that a namespace declares. -/
def externsOf (arena : NodeArena) (id : NodeId) : List NodeId :=
  match arena.data? id with
  | some (.namespaceDeclaration _ externs _ _) => externs
  | _ => []

/-- The imports of a namespace. -/
def usingsOf (arena : NodeArena) (id : NodeId) : List NodeId :=
  match arena.data? id with
  | some (.namespaceDeclaration _ _ usings _) => usings
  | _ => []

/-- The namespaces and the other members that one meets in some members, in the order of the
document. Going into a namespace, which is done for those that are to be opened, one goes into every
namespace in it. -/
inductive Unfolds (arena : NodeArena) :
    (NodeId → Bool) → List NodeId → List NodeId → List NodeId → Prop
  | nil {opens : NodeId → Bool} : Unfolds arena opens [] [] []
  | kept {opens : NodeId → Bool} {item : NodeId} {rest namespaces leaves : List NodeId}
      (hitem : opens item = false) (hrest : Unfolds arena opens rest namespaces leaves) :
      Unfolds arena opens (item :: rest) namespaces (item :: leaves)
  | opened {opens : NodeId → Bool} {item name : NodeId}
      {externs usings members rest inner innerLeaves namespaces leaves : List NodeId}
      (hitem : opens item)
      (hdata : arena.data? item = some (.namespaceDeclaration name externs usings members))
      (hmembers : Unfolds arena arena.isNamespace members inner innerLeaves)
      (hrest : Unfolds arena opens rest namespaces leaves) :
      Unfolds arena opens (item :: rest) (item :: (inner ++ namespaces)) (innerLeaves ++ leaves)

variable {arena : NodeArena} {opens : NodeId → Bool} {root : String}
  {members namespaces leaves : List NodeId}

/-- There is only one document order. -/
theorem Unfolds.unique (h : arena.Unfolds opens members namespaces leaves)
    {others otherLeaves : List NodeId}
    (hother : arena.Unfolds opens members others otherLeaves) :
    others = namespaces ∧ otherLeaves = leaves := by
  induction h generalizing others otherLeaves with
  | nil =>
      cases hother
      exact ⟨rfl, rfl⟩
  | kept hitem _ ih =>
      cases hother with
      | kept _ hrest =>
          obtain ⟨rfl, rfl⟩ := ih hrest
          exact ⟨rfl, rfl⟩
      | opened hopened => exact absurd (hitem.symm.trans hopened) Bool.false_ne_true
  | opened hitem hdata _ _ ihMembers ihRest =>
      cases hother with
      | kept hkept => exact absurd (hkept.symm.trans hitem) Bool.false_ne_true
      | opened _ hsame hmembers hrest =>
          obtain ⟨⟩ := Option.some.inj (hdata.symm.trans hsame)
          obtain ⟨rfl, rfl⟩ := ihMembers hmembers
          obtain ⟨rfl, rfl⟩ := ihRest hrest
          exact ⟨rfl, rfl⟩

/-! ### Dissolving in document order -/

/-- What namespaces and other members bring to a unit. -/
def gathered (arena : NodeArena) (root : String) (namespaces members : List NodeId) :
    Dissolved where
  externs := namespaces.flatMap arena.externsOf
  usings := (namespaces.flatMap arena.usingsOf).filter fun item => !arena.importsFrom root item
  members := members

/-- What is gathered from more namespaces and members comes behind the rest. -/
theorem gathered_append (root : String) (namespaces more members others : List NodeId) :
    arena.gathered root (namespaces ++ more) (members ++ others) =
      arena.gathered root namespaces members ++ arena.gathered root more others := by
  change _ = Dissolved.append _ _
  simp [gathered, Dissolved.append]

/-- Whether a part is what a namespace brings to a unit when it is opened. -/
def BringsOpened (arena : NodeArena) (root : String) (item : NodeId) (part : Dissolved) : Prop :=
  ∃ name externs usings members inner leaves,
    arena.data? item = some (.namespaceDeclaration name externs usings members) ∧
    arena.Unfolds arena.isNamespace members inner leaves ∧
    part = arena.gathered root (item :: inner) leaves

/-- Members bring what is met in them, if each that is to be opened does. -/
theorem exists_unfolds_of_bringsOpened (root : String) (members : List NodeId)
    (opens : NodeId → Bool) (part : NodeId → Dissolved)
    (h : ∀ item ∈ members, opens item → arena.BringsOpened root item (part item)) :
    ∃ namespaces leaves, arena.Unfolds opens members namespaces leaves ∧
      Dissolved.concat (members.map fun item =>
        if opens item then part item else { members := [item] }) =
          arena.gathered root namespaces leaves := by
  induction members with
  | nil => exact ⟨[], [], .nil, rfl⟩
  | cons item rest ih =>
      obtain ⟨hfirst, hrest⟩ := List.forall_mem_cons.mp h
      obtain ⟨namespaces, leaves, hunfolds, hconcat⟩ := ih hrest
      rw [List.map_cons, Dissolved.concat_cons, hconcat]
      cases hitem : opens item with
      | false =>
          rw [if_neg Bool.false_ne_true]
          exact ⟨namespaces, item :: leaves, .kept hitem hunfolds,
            (gathered_append root [] namespaces [item] leaves).symm⟩
      | true =>
          obtain ⟨_, _, _, _, inner, innerLeaves, hdata, hmembers, hpart⟩ := hfirst hitem
          rw [if_pos rfl, hpart]
          exact ⟨item :: (inner ++ namespaces), innerLeaves ++ leaves,
            .opened hitem hdata hmembers hunfolds,
            (gathered_append root (item :: inner) namespaces innerLeaves leaves).symm⟩

/-- On as many levels as namespaces are nested below it, a namespace is dissolved in document
order. -/
theorem bringsOpened_dissolveTo (root : String) {depth : Nat} {id : NodeId}
    (hid : arena.isNamespace id)
    (hdepth : ∀ steps below, arena.Leads arena.nestedNamespaces steps id below → steps < depth) :
    arena.BringsOpened root id (arena.dissolveTo root depth id) := by
  obtain ⟨name, externs, usings, members, hdata⟩ := exists_data?_of_isNamespace hid
  -- the levels that are left are more than the namespaces on any way down
  induction depth generalizing id name externs usings members with
  | zero => exact absurd (hdepth 0 id (.here (contains_of_isNamespace hid))) (Nat.not_lt_zero 0)
  | succ depth ih =>
      obtain ⟨inner, leaves, hunfolds, hconcat⟩ := exists_unfolds_of_bringsOpened root members
        arena.isNamespace (arena.dissolveTo root depth) fun item hitem hnamespace => by
          obtain ⟨_, _, _, _, hinner⟩ := exists_data?_of_isNamespace hnamespace
          refine ih hnamespace (fun steps below hleads => ?_) _ _ _ _ hinner
          exact Nat.lt_of_succ_lt_succ (hdepth (steps + 1) below
            (.step hdata (List.mem_filter.mpr ⟨hitem, hnamespace⟩) hleads))
      refine ⟨name, externs, usings, members, inner, leaves, hdata, hunfolds, ?_⟩
      have hown : arena.gathered root [id] [] =
          { externs, usings := usings.filter fun item => !arena.importsFrom root item } := by
        simp [gathered, externsOf, usingsOf, hdata]
      rw [dissolveTo, hdata]
      simp only
      rw [hconcat, ← hown, ← gathered_append]
      rfl

/-- **Document order.** Where no namespace is nested in itself, a flattened unit has what the unit
has and what is met in its members, in this order. -/
theorem exists_dissolveUnit_eq (hacyclic : arena.IsAcyclic arena.nestedNamespaces) (root : String)
    (externs usings members : List NodeId) :
    ∃ namespaces leaves, arena.Unfolds (arena.isDissolved root) members namespaces leaves ∧
      arena.dissolveUnit root externs usings members =
        { externs := externs ++ namespaces.flatMap arena.externsOf
          usings := (usings ++ namespaces.flatMap arena.usingsOf).filter fun item =>
            !arena.importsFrom root item
          members := leaves } := by
  obtain ⟨namespaces, leaves, hunfolds, hconcat⟩ := exists_unfolds_of_bringsOpened root members
    (arena.isDissolved root) (arena.dissolve root) fun item _ hdissolved =>
      bringsOpened_dissolveTo root (isNamespace_of_isDissolved hdissolved) fun _ _ hleads =>
        hleads.lt_size hacyclic
  refine ⟨namespaces, leaves, hunfolds, ?_⟩
  rw [dissolveUnit, hconcat, List.filter_append]
  rfl

/-- Where nothing is to be dropped or dissolved, a unit keeps its parts. -/
theorem dissolveUnit_of_kept {usings : List NodeId}
    (husings : ∀ item ∈ usings, arena.importsFrom root item = false)
    (hmembers : ∀ item ∈ members, arena.isDissolved root item = false) (externs : List NodeId) :
    arena.dissolveUnit root externs usings members = { externs, usings, members } := by
  have hparts : members.map (fun item =>
      if arena.isDissolved root item then arena.dissolve root item else { members := [item] }) =
        members.map fun item => { members := [item] } :=
    List.map_congr_left fun item hitem => by rw [hmembers item hitem, if_neg Bool.false_ne_true]
  have hkept : usings.filter (fun item => !arena.importsFrom root item) = usings :=
    List.filter_eq_self.mpr fun item hitem => by rw [husings item hitem]; rfl
  rw [dissolveUnit, hparts, hkept, Dissolved.concat_eq]
  change Dissolved.append _ _ = _
  simp [Dissolved.append, List.flatMap_map]

/-! ### Flattened units -/

/-- The handle of the name that an import or a namespace is told by. -/
def declaredName? (arena : NodeArena) (id : NodeId) : Option NodeId :=
  match arena.data? id with
  | some (.usingDirective _ name) => some name
  | some (.namespaceDeclaration name _ _ _) => some name
  | _ => none

section

variable {unit : NodeId} {externs usings attributeLists : List NodeId}
  (hunit : arena.data? unit = some (.compilationUnit externs usings attributeLists members))
  (root : String)

include hunit

/-- A name that holds neither the new unit nor itself is spelled as before. -/
theorem spell_flatten {name : NodeId} (hfinite : arena.IsAcyclicBelow name)
    (hnot : ¬ arena.Reaches name (arena.flatten unit root).1) :
    (arena.flatten unit root).2.spell name = arena.spell name := by
  have hagree : arena.AgreeBelow (arena.flatten unit root).2 name := by
    intro below hbelow
    rw [data?_flatten hunit, if_neg]
    rintro rfl
    exact hnot hbelow
  exact hagree.spell_eq hfinite.fitsIn_size (changesOnly_flatten (fun _ => False) ..).size_le

/-- What the name of an import or a namespace decides is decided as before, if it is spelled as
before. -/
theorem importsFrom_flatten {item : NodeId}
    (hname : ∀ name ∈ arena.declaredName? item,
      (arena.flatten unit root).2.spell name = arena.spell name) :
    (arena.flatten unit root).2.importsFrom root item = arena.importsFrom root item ∧
      (arena.flatten unit root).2.isDissolved root item = arena.isDissolved root item := by
  rw [importsFrom, importsFrom, isDissolved, isDissolved, data?_flatten hunit]
  by_cases hnew : item = (arena.flatten unit root).1
  · rw [if_pos hnew, hnew, data?_fst_flatten hunit]
    exact ⟨rfl, rfl⟩
  · rw [if_neg hnew]
    cases hdata : arena.data? item with
    | none => exact ⟨rfl, rfl⟩
    | some data =>
        cases data
        case usingDirective _ name =>
          rw [declaredName?, hdata] at hname
          exact ⟨congrArg (Dotted.startsWith · root) (hname name rfl), rfl⟩
        case namespaceDeclaration name _ _ _ =>
          rw [declaredName?, hdata] at hname
          exact ⟨rfl, congrArg (Dotted.startsWith · root) (hname name rfl)⟩
        all_goals exact ⟨rfl, rfl⟩

/-- A flattened unit is left as it is when it is flattened again, if no name in it goes on without
an end or by way of the new unit's handle. -/
theorem data?_flatten_flatten
    (hnames : ∀ item ∈ (arena.dissolveUnit root externs usings members).usings ++
        (arena.dissolveUnit root externs usings members).members,
      ∀ name ∈ arena.declaredName? item,
        arena.IsAcyclicBelow name ∧ ¬ arena.Reaches name (arena.flatten unit root).1) :
    ((arena.flatten unit root).2.flatten (arena.flatten unit root).1 root).2.data?
        ((arena.flatten unit root).2.flatten (arena.flatten unit root).1 root).1 =
      (arena.flatten unit root).2.data? (arena.flatten unit root).1 := by
  have hsame {item : NodeId} (hitem : item ∈ (arena.dissolveUnit root externs usings members).usings
      ++ (arena.dissolveUnit root externs usings members).members) :=
    importsFrom_flatten hunit root fun name hname =>
      spell_flatten hunit root (hnames item hitem name hname).1 (hnames item hitem name hname).2
  have hflat := data?_flatten hunit root (arena.flatten unit root).1
  rw [if_pos rfl, flatUnit] at hflat
  rw [data?_flatten hflat, if_pos rfl, hflat, flatUnit, dissolveUnit_of_kept]
  · intro item hitem
    rw [(hsame (List.mem_append_left _ hitem)).1]
    exact Bool.eq_false_iff.mpr fun himports =>
      notMem_usings_dissolveUnit himports externs usings members hitem
  · intro item hitem
    rw [(hsame (List.mem_append_right _ hitem)).2]
    exact Bool.eq_false_iff.mpr fun hdissolved =>
      notMem_members_dissolveUnit hdissolved externs usings members hitem

/-- **What a flattened unit is.** Where no namespace is nested in itself, it has the aliases of the
unit and of the namespaces that are met in document order, their imports but for those that start
with the root, and the other members; its attributes and comments are the unit's. It is the only new
node. Flattening it again changes nothing, if no name in it goes on without an end or by way of the
new unit's handle. -/
theorem flatten_inDocumentOrder (hacyclic : arena.IsAcyclic arena.nestedNamespaces) :
    ∃ namespaces leaves, arena.Unfolds (arena.isDissolved root) members namespaces leaves ∧
      let kept := (usings ++ namespaces.flatMap arena.usingsOf).filter fun item =>
        !arena.importsFrom root item
      let flat := (arena.flatten unit root).1
      let later := (arena.flatten unit root).2
      later.data? flat = some (.compilationUnit (externs ++ namespaces.flatMap arena.externsOf)
        kept attributeLists leaves) ∧
      later.comments? flat = arena.comments? unit ∧
      flat = .ofIndex arena.size ∧ later.size = arena.size + 1 ∧
      (∀ id, arena.contains id → later.node? id = arena.node? id) ∧
      ((∀ item ∈ kept ++ leaves, ∀ name ∈ arena.declaredName? item,
          arena.IsAcyclicBelow name ∧ ¬ arena.Reaches name flat) →
        (later.flatten flat root).2.data? (later.flatten flat root).1 = later.data? flat) := by
  obtain ⟨namespaces, leaves, hunfolds, hparts⟩ :=
    exists_dissolveUnit_eq hacyclic root externs usings members
  have hflat := data?_flatten hunit root (arena.flatten unit root).1
  have hagain := data?_flatten_flatten hunit root
  rw [if_pos rfl, flatUnit, hparts] at hflat
  rw [hparts] at hagain
  exact ⟨namespaces, leaves, hunfolds, hflat, comments?_flatten hunit root, fst_flatten hunit root,
    size_flatten hunit root, fun id hid =>
      (changesOnly_flatten (fun _ => False) arena unit root).node?_eq id hid not_false, hagain⟩

end

/-- A unit with the namespace `App`, which holds an import, a namespace with a class and a class. -/
def nestedUnit : NodeArena where
  nodes := #[
    { data := .identifierName "System" },
    { data := .usingDirective none (.ofIndex 0) },
    { data := .typeDeclaration "class" "A" [] },
    { data := .typeDeclaration "class" "B" [] },
    { data := .identifierName "Inner" },
    { data := .namespaceDeclaration (.ofIndex 4) [] [] [.ofIndex 3] },
    { data := .identifierName "App" },
    { data := .namespaceDeclaration (.ofIndex 6) [] [.ofIndex 1] [.ofIndex 5, .ofIndex 2] },
    { data := .compilationUnit [] [] [] [.ofIndex 7], leadingComments := ["// App"] }]

/-- The class of the inner namespace comes first, as that namespace does. -/
theorem flatten_nestedUnit :
    let flat := (nestedUnit.flatten (.ofIndex 8) "App").1
    let later := (nestedUnit.flatten (.ofIndex 8) "App").2
    nestedUnit.IsAcyclic nestedUnit.nestedNamespaces ∧
      nestedUnit.data? (.ofIndex 8) = some (.compilationUnit [] [] [] [.ofIndex 7]) ∧
      later.data? flat = some (.compilationUnit [] [.ofIndex 1] [] [.ofIndex 3, .ofIndex 2]) ∧
      later.comments? flat = some ["// App"] ∧ flat = .ofIndex 9 ∧ later.size = 10 ∧
      (later.flatten flat "App").2.data? (later.flatten flat "App").1 = later.data? flat := by
  intro flat later
  have hacyclic : nestedUnit.IsAcyclic nestedUnit.nestedNamespaces :=
    isAcyclic_of_earlier (by decide +kernel)
  have hunit : nestedUnit.data? (.ofIndex 8) = some (.compilationUnit [] [] [] [.ofIndex 7]) := rfl
  have horder : nestedUnit.Unfolds (nestedUnit.isDissolved "App") [.ofIndex 7]
      [.ofIndex 7, .ofIndex 5] [.ofIndex 3, .ofIndex 2] :=
    .opened (by decide +kernel) rfl (.opened rfl rfl (.kept rfl .nil) (.kept rfl .nil)) .nil
  obtain ⟨namespaces, leaves, hunfolds, hdata, hcomments, hfst, hsize, -, hagain⟩ :=
    flatten_inDocumentOrder hunit "App" hacyclic
  obtain ⟨rfl, rfl⟩ := horder.unique hunfolds
  have hkept : ([] ++ List.flatMap nestedUnit.usingsOf [.ofIndex 7, .ofIndex 5]).filter (fun item =>
      !nestedUnit.importsFrom "App" item) = [.ofIndex 1] := by decide +kernel
  rw [hkept] at hdata hagain
  refine ⟨hacyclic, hunit, hdata, hcomments, hfst, hsize, hagain fun item hitem name hname => ?_⟩
  have hsystem : ∀ item ∈ [.ofIndex 1] ++ [.ofIndex 3, .ofIndex 2],
      ∀ name ∈ nestedUnit.declaredName? item, name = .ofIndex 0 := by decide +kernel
  obtain rfl := hsystem item hitem name hname
  have hfits : nestedUnit.FitsIn 1 (.ofIndex 0) := fun _ hchild => absurd hchild List.not_mem_nil
  have hidentifier : nestedUnit.data? (.ofIndex 0) = some (.identifierName "System") := rfl
  refine ⟨hfits.isAcyclicBelow, fun hreach => ?_⟩
  rcases hreach.eq_or_slot hidentifier with heq | ⟨_, hslot, _⟩
  · exact absurd heq (by decide +kernel)
  · exact List.not_mem_nil hslot

/-- A unit with an import whose name is the handle that the next node will get. -/
def importOfNothing : NodeArena where
  nodes := #[
    { data := .usingDirective none (.ofIndex 2) },
    { data := .compilationUnit [] [.ofIndex 0] [] [] }]

/-- The import is kept first, since a missing name is spelled by nothing. Then its handle names the
flattened unit, which is spelled by its kind, and the import is dropped. -/
theorem flatten_flatten_importOfNothing :
    let once := importOfNothing.flatten (.ofIndex 1) "C"
    let twice := once.2.flatten once.1 "C"
    importOfNothing.IsAcyclic importOfNothing.nestedNamespaces ∧
      importOfNothing.data? (.ofIndex 1) = some (.compilationUnit [] [.ofIndex 0] [] []) ∧
      once.2.data? once.1 = some (.compilationUnit [] [.ofIndex 0] [] []) ∧
      twice.2.data? twice.1 = some (.compilationUnit [] [] [] []) :=
  ⟨isAcyclic_of_earlier (by decide +kernel), rfl, by decide +kernel, by decide +kernel⟩

end NodeArena

end Portability
