import Portability.Proofs.Symbol.Json
import Portability.Tree.Json

/-!
# Syntax trees survive documents

An arena of nodes that is written to a document is read back as it was (`NodeArena.read_toJson`),
whatever the nodes are and whichever of their slots are empty: the number that spells an empty slot
is no position of a node.
-/

namespace Portability

/-- The kinds of nodes have different names. -/
instance : LawfulNamed NodeKind where
  ofName?_name kind := by cases kind <;> rfl

/-! ### Handles -/

namespace NodeId

/-- Whether a handle has 32 bits. The largest number of 32 bits stands for no node. -/
def IsStorable : NodeId → Prop
  | none => True
  | ofIndex index => index < noneNumber

/-- Decides whether a handle is storable. -/
instance : (node : NodeId) → Decidable node.IsStorable
  | none => inferInstanceAs (Decidable True)
  | ofIndex index => inferInstanceAs (Decidable (index < noneNumber))

/-- A storable handle is read back. -/
theorem read_toJson {node : NodeId} (h : node.IsStorable) : read node.toJson = .ok node := by
  have hbits : node.toNumber < twoTo 32 := by
    cases node with
    | none => decide
    | ofIndex index => exact Nat.lt_of_lt_of_le h (Nat.sub_le _ _)
  have hnumber : node ≠ ofIndex noneNumber := by
    rintro rfl
    exact Nat.lt_irrefl _ h
  rw [read, toJson, Json.readNatOfBits_nat hbits, Except.map, ofNumber_toNumber hnumber]

/-- Whether all handles of a list have 32 bits. -/
def AreStorable (ids : List NodeId) : Prop :=
  ∀ id ∈ ids, id.IsStorable
  deriving Decidable

/-- No handles are storable. -/
@[simp]
theorem areStorable_nil : AreStorable [] :=
  List.forall_mem_nil _

/-- Handles are storable if the first one and the others are. -/
@[simp]
theorem areStorable_cons {id : NodeId} {ids : List NodeId} :
    AreStorable (id :: ids) ↔ id.IsStorable ∧ AreStorable ids :=
  List.forall_mem_cons

/-- Two lists of handles are storable together if each of them is. -/
@[simp]
theorem areStorable_append {ids others : List NodeId} :
    AreStorable (ids ++ others) ↔ AreStorable ids ∧ AreStorable others :=
  List.forall_mem_append

/-- A list of storable handles is read back. -/
theorem readList_list {ids : List NodeId} (h : AreStorable ids) :
    Json.readList read (NodeData.idsToJson ids) = .ok ids :=
  Json.readList_list fun id hid => read_toJson (h id hid)

/-- Handles are readable. -/
@[simp]
theorem isReadable_toJson (node : NodeId) : node.toJson.isReadable :=
  (rfl)

end NodeId

/-! ### Nodes -/

namespace NodeData

/-- A text that may be missing is read back. -/
theorem readOption_text (text? : Option String) :
    Json.readOption Json.readText (Json.option .string text?) = .ok text? :=
  Json.readOption_option (fun _ => nofun) fun _ _ => rfl

/-- A node has as many fields as its kind has names for. -/
theorem length_fieldValues (data : NodeData) :
    data.fieldValues.length = data.kind.fieldNames.length := by
  cases data <;> rfl

/-- The fields of nodes are readable. -/
theorem isReadable_of_mem_fieldValues {data : NodeData} {value : Json}
    (h : value ∈ data.fieldValues) : value.isReadable := by
  revert value
  cases data <;> simp [fieldValues, idsToJson]

/-- The data of a node is read from its fields. -/
theorem ofRecord_fieldValues {data : NodeData} (h : NodeId.AreStorable data.slots) :
    ofRecord data.kind ⟨data.kind.fieldNames.zip data.fieldValues⟩ = .ok data := by
  cases data <;>
    simp only [slots, NodeId.areStorable_cons, NodeId.areStorable_append, NodeId.areStorable_nil,
      and_true] at h <;>
    simp [ofRecord, kind, NodeKind.fieldNames, fieldValues, Json.Record.list, Json.Record.optional,
      Json.readText, NodeId.read_toJson, NodeId.readList_list, readOption_text,
      Named.readInTagged_toJson, h]

/-- A node with storable handles is read back, whatever its kind. -/
theorem read_toJson {data : NodeData} (h : NodeId.AreStorable data.slots) :
    read data.toJson = .ok data := by
  let fields := data.kind.fieldNames.zip data.fieldValues
  have hnames : fields.map Prod.fst = data.kind.fieldNames :=
    List.map_fst_zip (Nat.le_of_eq data.length_fieldValues.symm)
  have htagged : Json.readTagged "kind" data.toJson =
      .ok (Named.name data.kind, .object fields) := by
    refine Json.readTagged_object ?_ fun field hfield => ?_
    · rw [hnames]
      cases data.kind <;> decide
    · exact isReadable_of_mem_fieldValues (List.of_mem_zip hfield).2
  have hrecord : Json.readRecord data.kind.fieldNames (.object fields) = .ok ⟨fields⟩ := by
    refine Json.readRecord_object ?_
    rw [hnames]
    cases data.kind <;> decide
  rw [read, htagged, Json.ok_bind]
  simp only [LawfulNamed.ofName?_name, hrecord, Json.ok_bind]
  exact ofRecord_fieldValues h

end NodeData

/-- A node is read back as it was, with its comments if it has any. -/
theorem Node.read_toJson {node : Node} (h : NodeId.AreStorable node.data.slots) :
    read node.toJson = .ok node := by
  rw [read, toJson]
  by_cases hcomments : node.leadingComments = []
  · rw [hcomments, List.isEmpty_nil, if_pos rfl, Json.readRecord_object (by simp)]
    simp [Json.Record.list, NodeData.read_toJson h, ← hcomments]
  · rw [if_neg (by simpa using hcomments), Json.readRecord_object (by simp)]
    simp [Json.Record.list, Json.readList_strings, NodeData.read_toJson h]

namespace NodeArena

/-- Whether the handles in all slots have 32 bits. -/
def IsStorable (arena : NodeArena) : Prop :=
  ∀ node ∈ arena.nodes.toList, NodeId.AreStorable node.data.slots
  deriving Decidable

/-- An arena of nodes is read back as it was. -/
theorem read_toJson {arena : NodeArena} (h : arena.IsStorable) :
    read arena.toJson = .ok arena := by
  have hnodes : Json.readList Node.read (Json.list Node.toJson arena.nodes.toList) =
      .ok arena.nodes.toList :=
    Json.readList_list fun node hnode => Node.read_toJson (h node hnode)
  rw [read, toJson, Json.readRecord_object (by simp)]
  simp [hnodes]

end NodeArena

end Portability
