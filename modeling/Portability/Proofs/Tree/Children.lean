import Portability.Tree.Json

/-!
# Children and fields

The children of a node are what its fields hold, in the order in which the fields are declared:
`NodeData.fields` spells a node out as its fields, and `NodeData.fieldValues_eq` says that these
are the fields that documents hold, in that order. Kind and fields determine a node
(`NodeData.ext_fields`), so what relinking does to a node is told by what it does to its fields:

* `NodeData.mapChildrenM_eq`: relinking with effects asks for the children one after the other,
  each once, and does nothing else,
* `NodeData.fields_mapChildren`: relinking changes the handles in the fields and nothing else,
* `NodeData.mapChildren_exact`: both together, with what follows for two passes.
-/

namespace Portability

/-! ### Fields -/

/-- What a field of a node holds. -/
inductive NodeField where
  | text (value : String)
  | optionalText (value : Option String)
  | passing (refKind : RefKind)
  /-- One slot, which may be empty. -/
  | slot (id : NodeId)
  /-- A list of slots. -/
  | slots (ids : List NodeId)
  deriving DecidableEq, Repr

namespace NodeField

/-- The slots of a field, empty ones included. -/
def handles : NodeField → List NodeId
  | slot id => [id]
  | slots ids => ids
  | text _ | optionalText _ | passing _ => []

/-- The same field with `f` applied to every handle. -/
def map (f : NodeId → NodeId) : NodeField → NodeField
  | slot id => slot (f id)
  | slots ids => slots (ids.map f)
  | text value => text value
  | optionalText value => optionalText value
  | passing refKind => passing refKind

/-- A field as documents hold it. -/
def toJson : NodeField → Json
  | text value => .string value
  | optionalText value => Json.option .string value
  | passing refKind => Named.toJson refKind
  | slot id => id.toJson
  | slots ids => NodeData.idsToJson ids

/-- Mapping a field twice is mapping it once by both functions. -/
theorem map_map (f g : NodeId → NodeId) (field : NodeField) :
    (field.map f).map g = field.map (g ∘ f) := by
  cases field <;> simp [map]

/-- Functions that agree on the handles of a field map it to the same one. -/
theorem map_congr {f g : NodeId → NodeId} {field : NodeField}
    (h : ∀ id ∈ field.handles, f id = g id) : field.map f = field.map g := by
  cases field <;> simp_all [map, handles]

end NodeField

namespace NodeData

/-- The fields of a node in the order of their declaration. -/
def fields : NodeData → List NodeField
  | compilationUnit externs usings attributeLists members =>
    [.slots externs, .slots usings, .slots attributeLists, .slots members]
  | externAlias name => [.text name]
  | usingDirective aliasName name => [.optionalText aliasName, .slot name]
  | namespaceDeclaration name externs usings members =>
    [.slot name, .slots externs, .slots usings, .slots members]
  | typeDeclaration keyword name members => [.text keyword, .text name, .slots members]
  | methodDeclaration name body | localFunction name body => [.text name, .slots body]
  | block statements => [.slots statements]
  | variableDeclaration type declarators => [.slot type, .slots declarators]
  | variableDeclarator name initializer => [.text name, .slot initializer]
  | expressionStatement expression | returnStatement expression => [.slot expression]
  | switchStatement expression sections => [.slot expression, .slots sections]
  | switchSection labels statements => [.slots labels, .slots statements]
  | caseLabel value => [.slot value]
  | casePatternLabel pattern => [.slot pattern]
  | identifierName text | literal text => [.text text]
  | genericName text typeArguments => [.text text, .slots typeArguments]
  | qualifiedName left right | assignment left right => [.slot left, .slot right]
  | predefinedType keyword => [.text keyword]
  | memberAccess expression name => [.slot expression, .slot name]
  | invocation expression arguments => [.slot expression, .slots arguments]
  | argument name refKind expression => [.optionalText name, .passing refKind, .slot expression]
  | objectCreation type arguments => [.slot type, .slots arguments]
  | typeOf type => [.slot type]
  | cast type expression => [.slot type, .slot expression]
  | isPattern expression pattern => [.slot expression, .slot pattern]
  | queryExpression clauses => [.slots clauses]
  | queryClause keyword expressions => [.text keyword, .slots expressions]
  | joinClause identifier expressions into => [.text identifier, .slots expressions, .slot into]
  | joinIntoClause identifier => [.text identifier]
  | groupClause group key => [.slot group, .slot key]
  | queryContinuation identifier clauses => [.text identifier, .slots clauses]
  | verbatim text children => [.text text, .slots children]

/-- Documents hold the same fields in the same order. -/
theorem fieldValues_eq (data : NodeData) : data.fieldValues = data.fields.map NodeField.toJson := by
  cases data <;> rfl

/-- A node is determined by its kind and its fields. -/
theorem ext_fields {first second : NodeData} (hkind : first.kind = second.kind)
    (hfields : first.fields = second.fields) : first = second := by
  cases first <;> cases second <;> cases hkind <;> simpa [fields] using hfields

/-- The slots of a node are the handles of its fields, one field after the other. -/
theorem slots_eq (data : NodeData) : data.slots = data.fields.flatMap NodeField.handles := by
  cases data <;> simp [slots, fields, NodeField.handles]

/-- Other handles in the slots leave the kind of a node. -/
theorem kind_withSlots (data : NodeData) (ids : List NodeId) :
    (data.withSlots ids).kind = data.kind := by
  cases data <;> rfl

/-- Other handles in the slots are other handles in the fields. -/
theorem fields_withSlots_map (data : NodeData) (f : NodeId → NodeId) :
    (data.withSlots (data.slots.map f)).fields = data.fields.map (NodeField.map f) := by
  cases data <;> simp [slots, withSlots, fields, NodeField.map]

/-! ### Relinking -/

/-- What relinking does to a slot. -/
def relinkSlot (f : NodeId → NodeId) (slot : NodeId) : NodeId :=
  if slot.isNone then slot else f slot

/-- A slot that holds a node is relinked by the function. -/
theorem relinkSlot_of_isSome {slot : NodeId} (f : NodeId → NodeId) (h : slot.isSome) :
    relinkSlot f slot = f slot := by
  cases slot with
  | none => cases h
  | ofIndex index => rfl

/-- Relinking keeps the kind of a node. -/
theorem kind_mapChildren (f : NodeId → NodeId) (data : NodeData) :
    (data.mapChildren f).kind = data.kind :=
  data.kind_withSlots _

/-- Relinking changes the slots in the fields of a node and nothing else. -/
theorem fields_mapChildren (f : NodeId → NodeId) (data : NodeData) :
    (data.mapChildren f).fields = data.fields.map (NodeField.map (relinkSlot f)) :=
  data.fields_withSlots_map (relinkSlot f)

/-- The slots are relinked one by one, and empty ones stay empty. -/
theorem slots_mapChildren (f : NodeId → NodeId) (data : NodeData) :
    (data.mapChildren f).slots = data.slots.map (relinkSlot f) :=
  slots_withSlots (List.length_map _)

/-- The children are what slots hold that are not empty. -/
theorem mem_children {data : NodeData} {id : NodeId} :
    id ∈ data.children ↔ id ∈ data.slots ∧ id.isSome :=
  List.mem_filter

/-- Where no child is answered by an empty slot, the children are replaced one by one. -/
theorem children_mapChildren {f : NodeId → NodeId} {data : NodeData}
    (h : ∀ child ∈ data.children, (f child).isSome) :
    (data.mapChildren f).children = data.children.map f := by
  have hkept : ∀ slot ∈ data.slots, (NodeId.isSome ∘ relinkSlot f) slot = slot.isSome := by
    intro slot hslot
    cases slot with
    | none => rfl
    | ofIndex index => exact h _ (mem_children.mpr ⟨hslot, rfl⟩)
  calc (data.mapChildren f).children
      = (data.slots.map (relinkSlot f)).filter NodeId.isSome := by
        rw [children, slots_mapChildren]
    _ = (data.slots.filter (NodeId.isSome ∘ relinkSlot f)).map (relinkSlot f) := List.filter_map
    _ = data.children.map (relinkSlot f) := by
        rw [children, List.filter_congr hkept]
    _ = data.children.map f :=
        List.map_congr_left fun child hchild =>
          relinkSlot_of_isSome f (mem_children.mp hchild).2

/-- Two passes that follow each other are one, where the first leaves no slot empty that was not. -/
theorem mapChildren_mapChildren {f : NodeId → NodeId} {data : NodeData} (g : NodeId → NodeId)
    (h : ∀ child ∈ data.children, (f child).isSome) :
    (data.mapChildren f).mapChildren g = data.mapChildren (g ∘ f) := by
  refine ext_fields ?_ ?_
  · rw [kind_mapChildren, kind_mapChildren, kind_mapChildren]
  · rw [fields_mapChildren, fields_mapChildren, fields_mapChildren, List.map_map]
    refine List.map_congr_left fun field hfield => ?_
    rw [Function.comp_apply, NodeField.map_map]
    refine NodeField.map_congr fun slot hslot => ?_
    have hmem : slot ∈ data.slots := by
      rw [slots_eq]
      exact List.mem_flatMap_of_mem hfield hslot
    cases slot with
    | none => rfl
    | ofIndex index => exact relinkSlot_of_isSome g (h _ (mem_children.mpr ⟨hmem, rfl⟩))

/-! ### Relinking with effects -/

section Effects

variable {m : Type → Type} [Monad m]

/-- Visits a slot unless it is empty. -/
def visitSlot (visit : NodeId → m NodeId) (slot : NodeId) : m NodeId :=
  if slot.isNone then pure slot else visit slot

/-- The same node with every child replaced by the answer of `visit`; empty slots stay empty. -/
def mapChildrenM (visit : NodeId → m NodeId) (data : NodeData) : m NodeData := do
  let ids ← data.slots.mapM (visitSlot visit)
  return data.withSlots ids

/-- Slots with the given handles in those that are not empty, in their order. -/
def refill : List NodeId → List NodeId → List NodeId
  | [], _ => []
  | slot :: rest, ids =>
    if slot.isNone then slot :: refill rest ids else ids.headD .none :: refill rest ids.tail

variable [LawfulMonad m]

/-- Empty slots are passed over, and the other ones are visited one after the other. -/
theorem mapM_visitSlot (visit : NodeId → m NodeId) (slots : List NodeId) :
    slots.mapM (visitSlot visit) =
      refill slots <$> (slots.filter NodeId.isSome).mapM visit := by
  induction slots with
  | nil => simp [refill]
  | cons slot rest ih =>
      rw [List.mapM_cons, ih]
      cases slot with
      | none => simp [visitSlot, refill, NodeId.isNone, NodeId.isSome]
      | ofIndex index => simp [visitSlot, refill, NodeId.isNone, NodeId.isSome]

/-- **Relinking asks for the children one after the other**, each once, and does nothing else. -/
theorem mapChildrenM_eq (visit : NodeId → m NodeId) (data : NodeData) :
    data.mapChildrenM visit =
      (fun ids => data.withSlots (refill data.slots ids)) <$> data.children.mapM visit := by
  rw [mapChildrenM, mapM_visitSlot, children]
  simp

end Effects

/-- The children that are mapped go back to the slots that they came from. -/
theorem refill_map (f : NodeId → NodeId) (slots : List NodeId) :
    refill slots ((slots.filter NodeId.isSome).map f) = slots.map (relinkSlot f) := by
  induction slots with
  | nil => rfl
  | cons slot rest ih =>
      cases slot with
      | none => exact congrArg (NodeId.none :: ·) ih
      | ofIndex index => exact congrArg (f (.ofIndex index) :: ·) ih

/-- Applies a function and notes what it is applied to. -/
def noting (f : NodeId → NodeId) (id : NodeId) : StateM (List NodeId) NodeId := do
  modify (· ++ [id])
  return f id

/-- A function that notes what it is applied to maps a list and has noted it in order. -/
theorem run_mapM_noting (f : NodeId → NodeId) (ids calls : List NodeId) :
    (ids.mapM (noting f)).run calls = (ids.map f, calls ++ ids) := by
  induction ids generalizing calls with
  | nil => exact congrArg (([], ·)) (List.append_nil calls).symm
  | cons id rest ih =>
      have hrun : ((id :: rest).mapM (noting f)).run calls =
          (f id :: ((rest.mapM (noting f)).run (calls ++ [id])).1,
            ((rest.mapM (noting f)).run (calls ++ [id])).2) := by
        rw [List.mapM_cons]
        rfl
      rw [hrun, ih, List.append_assoc, List.singleton_append, List.map_cons]

/-- Relinking with a function applies it to the children and to nothing else. -/
theorem run_mapChildrenM_noting (f : NodeId → NodeId) (data : NodeData) (calls : List NodeId) :
    (data.mapChildrenM (noting f)).run calls = (data.mapChildren f, calls ++ data.children) := by
  have hrun : (data.mapChildrenM (noting f)).run calls =
      (data.withSlots (refill data.slots ((data.children.mapM (noting f)).run calls).1),
        ((data.children.mapM (noting f)).run calls).2) := by
    rw [mapChildrenM_eq]
    rfl
  rw [hrun, run_mapM_noting, children, refill_map]
  rfl

/-! ### All together -/

/-- **Relinking is complete and exact.** The children of a node are the handles of its fields but
for the empty slots. Relinking with a function applies it once to each of them, in the order of the
fields. The new node is of the same kind and has the same fields, in which what the function
answers stands in place of each child. If no answer is an empty slot, the children of the new node
are the answers, and relinking it with another function is relinking with both at once. -/
theorem mapChildren_exact (data : NodeData) (f : NodeId → NodeId) :
    data.children = (data.fields.flatMap NodeField.handles).filter NodeId.isSome ∧
    (data.mapChildrenM (noting f)).run [] = (data.mapChildren f, data.children) ∧
    (data.mapChildren f).kind = data.kind ∧
    (data.mapChildren f).fields =
      data.fields.map (NodeField.map fun id => if id.isNone then id else f id) ∧
    ((∀ child ∈ data.children, (f child).isSome) →
      (data.mapChildren f).children = data.children.map f ∧
      ∀ g, (data.mapChildren f).mapChildren g = data.mapChildren (g ∘ f)) := by
  refine ⟨?_, data.run_mapChildrenM_noting f [], kind_mapChildren f data,
    fields_mapChildren f data, fun h => ⟨children_mapChildren h, fun g => ?_⟩⟩
  · rw [children, slots_eq]
  · exact mapChildren_mapChildren g h

/-- A clause `join x in a on b equals c into g` without its second expression. -/
def joinWithGap : NodeData :=
  .joinClause "x" [.ofIndex 4, .none, .ofIndex 2] (.ofIndex 7)

/-- Handles of a tree that stands ten nodes further on. -/
def tenFurther : NodeId → NodeId
  | .none => .none
  | .ofIndex index => .ofIndex (index + 10)

/-- The fields of `joinWithGap` are relinked in order, the empty slot apart, and two passes are one
by both functions. -/
theorem mapChildren_exact_joinWithGap :
    (joinWithGap.mapChildrenM (noting tenFurther)).run [] =
      (.joinClause "x" [.ofIndex 14, .none, .ofIndex 12] (.ofIndex 17),
        [.ofIndex 4, .ofIndex 2, .ofIndex 7]) ∧
    (∀ child ∈ joinWithGap.children, (tenFurther child).isSome) ∧
    (joinWithGap.mapChildren tenFurther).children = [.ofIndex 14, .ofIndex 12, .ofIndex 17] ∧
    (joinWithGap.mapChildren tenFurther).mapChildren tenFurther =
      joinWithGap.mapChildren (tenFurther ∘ tenFurther) := by
  obtain ⟨-, hrun, -, -, hpasses⟩ := joinWithGap.mapChildren_exact tenFurther
  have hsome : ∀ child ∈ joinWithGap.children, (tenFurther child).isSome := by decide
  obtain ⟨hchildren, htwice⟩ := hpasses hsome
  exact ⟨hrun, hsome, hchildren, htwice tenFurther⟩

end NodeData

end Portability
