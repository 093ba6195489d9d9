import Mathlib.Tactic.MkIffOfInductiveProp
import Portability.Proofs.Json.Record
import Portability.Symbol.Json

/-!
# Symbols survive documents

An arena of symbols that is written to a document is read back as it was. Documents hold handles of
32 bits and integers of 64 bits; a float is written as the nearest decimal that JSON has for it, so
constants that are floats are left out (`Constant.IsStorable`).

Every part of a symbol has a lemma `read_toJson`; parts of tagged values are also written readably,
`isReadable_toJson`. Arenas are put together from them: `Symbol.read_toJson`,
`SymbolArena.read_toJson`.
-/

namespace Portability

/-! ### Names -/

/-- The kinds of constants have different names. -/
instance : LawfulNamed ConstantKind where
  ofName?_name kind := by cases kind <;> rfl

/-- The ways to pass a value have different names. -/
instance : LawfulNamed RefKind where
  ofName?_name kind := by cases kind <;> rfl

/-- The kinds of types have different names. -/
instance : LawfulNamed TypeKind where
  ofName?_name kind := by cases kind <;> rfl

/-- The special types have different names. -/
instance : LawfulNamed SpecialType where
  ofName?_name special := by cases special <;> rfl

/-- The kinds of methods have different names. -/
instance : LawfulNamed MethodKind where
  ofName?_name kind := by cases kind <;> rfl

/-- The kinds of symbols have different names. -/
instance : LawfulNamed SymbolKind where
  ofName?_name kind := by cases kind <;> rfl

/-! ### Handles -/

/-- Whether a handle has 32 bits. -/
def SymbolId.IsStorable (id : SymbolId) : Prop :=
  id.index < twoTo 32
  deriving Decidable

/-- Whether a handle has 32 bits. -/
def NamespaceId.IsStorable (id : NamespaceId) : Prop :=
  id.index < twoTo 32
  deriving Decidable

/-- Whether a handle has 32 bits. -/
def AssemblyId.IsStorable (id : AssemblyId) : Prop :=
  id.index < twoTo 32
  deriving Decidable

/-- A symbol's handle is read back if it fits in its bits. -/
theorem SymbolId.read_toJson {id : SymbolId} (h : id.IsStorable) : read id.toJson = .ok id := by
  rw [read, toJson, Json.readNatOfBits_nat h]
  rfl

/-- A namespace's handle is read back if it fits in its bits. -/
theorem NamespaceId.read_toJson {id : NamespaceId} (h : id.IsStorable) :
    read id.toJson = .ok id := by
  rw [read, toJson, Json.readNatOfBits_nat h]
  rfl

/-- An assembly's handle is read back if it fits in its bits. -/
theorem AssemblyId.read_toJson {id : AssemblyId} (h : id.IsStorable) :
    read id.toJson = .ok id := by
  rw [read, toJson, Json.readNatOfBits_nat h]
  rfl

/-- Handles of symbols are readable. -/
@[simp]
theorem SymbolId.isReadable_toJson (id : SymbolId) : id.toJson.isReadable :=
  (rfl)

/-- Handles of namespaces are readable. -/
@[simp]
theorem NamespaceId.isReadable_toJson (id : NamespaceId) : id.toJson.isReadable :=
  (rfl)

/-- Handles of assemblies are readable. -/
@[simp]
theorem AssemblyId.isReadable_toJson (id : AssemblyId) : id.toJson.isReadable :=
  (rfl)

namespace SymbolId

/-- A list of storable handles is read back. -/
theorem readList_list {ids : List SymbolId} (h : ∀ id ∈ ids, id.IsStorable) :
    Json.readList read (Json.list toJson ids) = .ok ids :=
  Json.readList_list fun id hid => read_toJson (h id hid)

/-- A storable handle that may be missing is read back. -/
theorem readOption_option {id? : Option SymbolId} (h : ∀ id ∈ id?, id.IsStorable) :
    Json.readOption read (Json.option toJson id?) = .ok id? :=
  Json.readOption_option (fun _ => nofun) fun id hid => read_toJson (h id hid)

end SymbolId

namespace NamespaceId

/-- A list of storable handles of namespaces is read back. -/
theorem readList_list {ids : List NamespaceId} (h : ∀ id ∈ ids, id.IsStorable) :
    Json.readList read (Json.list toJson ids) = .ok ids :=
  Json.readList_list fun id hid => read_toJson (h id hid)

/-- A storable handle of a namespace that may be missing is read back. -/
theorem readOption_option {id? : Option NamespaceId} (h : ∀ id ∈ id?, id.IsStorable) :
    Json.readOption read (Json.option toJson id?) = .ok id? :=
  Json.readOption_option (fun _ => nofun) fun id hid => read_toJson (h id hid)

end NamespaceId

/-! ### Constants and parameters -/

namespace Constant

/-- Whether a constant is read back as it is written: an integer of 64 bits, or anything else that
is no float. -/
def IsStorable : Constant → Prop
  | int i => -twoTo 63 ≤ i ∧ i < twoTo 63
  | float _ => False
  | _ => True

/-- Decides whether a constant is storable. -/
instance : (constant : Constant) → Decidable constant.IsStorable
  | int i => inferInstanceAs (Decidable (-twoTo 63 ≤ i ∧ i < twoTo 63))
  | float _ => inferInstanceAs (Decidable False)
  | null | bool _ | char _ | text _ => inferInstanceAs (Decidable True)

/-- The value of a storable constant is read back by its kind. -/
theorem readValue_value? {constant : Constant} (h : constant.IsStorable) :
    readValue constant.kind constant.value? = .ok constant := by
  cases constant with
  | null | bool | text => rfl
  | char c =>
      rw [kind, value?, readValue, Json.readChar_string]
      rfl
  | int i =>
      rw [kind, value?, readValue, Json.readIntBetween_integer h.1 h.2]
      rfl
  | float d => exact h.elim

/-- A storable constant is read back inside a tagged value. -/
theorem readInTagged_toJson {constant : Constant} (h : constant.IsStorable) :
    readInTagged constant.toJson = .ok constant := by
  let fields := ("kind", Named.toJson constant.kind) ::
    (constant.value?.map fun value => ("value", value)).toList
  have hrecord : Json.readRecord ["kind", "value"] constant.toJson = .ok ⟨fields⟩ :=
    Json.readRecord_object (by cases constant <;> simp [value?])
  have hvalue : Json.Record.field? ⟨fields⟩ "value" = constant.value? := by
    cases constant <;> rfl
  have hkind : Json.Record.required ⟨fields⟩ "kind" Named.readInTagged = .ok constant.kind := by
    rw [Json.Record.required_cons_self, Named.readInTagged_toJson]
  calc readInTagged constant.toJson
      = (do
          let record ← Json.readRecord ["kind", "value"] constant.toJson
          let kind ← record.required "kind" Named.readInTagged
          readValue kind (record.field? "value")) := rfl
    _ = readValue constant.kind constant.value? := by
      simp only [hrecord, bind, Except.bind, hkind, hvalue]
    _ = .ok constant := readValue_value? h

/-- Constants are readable, also those that are not read back. -/
@[simp]
theorem isReadable_toJson (constant : Constant) : constant.toJson.isReadable := by
  cases constant <;> rfl

end Constant

namespace Parameter

/-- Whether the handles of a parameter have 32 bits and its default value is storable. -/
def IsStorable (parameter : Parameter) : Prop :=
  parameter.type.IsStorable ∧ ∀ constant ∈ parameter.defaultValue, constant.IsStorable

/-- A storable parameter is read back. -/
theorem read_toJson {parameter : Parameter} (h : parameter.IsStorable) :
    read parameter.toJson = .ok parameter := by
  have htype := SymbolId.read_toJson h.1
  have hdefault : Json.readOption Constant.readInTagged
      (Json.option Constant.toJson parameter.defaultValue) = .ok parameter.defaultValue :=
    Json.readOption_option (fun _ => nofun) fun constant hconstant =>
      Constant.readInTagged_toJson (h.2 constant hconstant)
  rw [read, toJson, Json.readRecord_object (by simp)]
  simp [Json.Record.optional, Json.readText, Json.readBool, Named.readInTagged_toJson, htype,
    hdefault]

/-- Parameters are readable. -/
@[simp]
theorem isReadable_toJson (parameter : Parameter) : parameter.toJson.isReadable := by
  rw [toJson, Json.isReadable, Json.areEntriesReadable_iff]
  simp

end Parameter

/-! ### Symbols -/

/-- The parameters of a method; other symbols have none. -/
def Symbol.parameters : Symbol → List Parameter
  | method m => m.parameters
  | _ => []

/-- Whether the handles of a symbol have 32 bits and the default values of its parameters are
storable. -/
@[mk_iff]
structure Symbol.IsStorable (symbol : Symbol) : Prop where
  assembly : symbol.assembly.IsStorable
  declaredNamespace : ∀ ns ∈ symbol.declaredNamespace, ns.IsStorable
  references : ∀ id ∈ symbol.references, id.IsStorable
  defaultValues : ∀ parameter ∈ symbol.parameters, ∀ constant ∈ parameter.defaultValue,
    constant.IsStorable

/-- Decides whether a symbol is storable, field by field. -/
instance (symbol : Symbol) : Decidable symbol.IsStorable :=
  decidable_of_iff' _ symbol.isStorable_iff

/-- A storable type is made again from its fields. -/
theorem TypeSymbol.ofRecord_fields {type : TypeSymbol} (h : (Symbol.type type).IsStorable) :
    ofRecord ⟨type.fields⟩ = .ok type := by
  have hassembly : type.assembly.IsStorable := h.assembly
  have hnamespace : ∀ ns ∈ type.namespaceId, ns.IsStorable := h.declaredNamespace
  have hreferences := h.references
  simp only [Symbol.references, List.forall_mem_append, Option.mem_toList] at hreferences
  obtain ⟨⟨⟨hcontaining, helement⟩, harguments⟩, hinterfaces⟩ := hreferences
  simp [ofRecord, fields, Json.Record.optional, Json.Record.list, Json.readText,
    Json.readList_strings, Named.readInTagged_toJson, AssemblyId.read_toJson hassembly,
    NamespaceId.readOption_option hnamespace, SymbolId.readOption_option hcontaining,
    SymbolId.readOption_option helement, SymbolId.readList_list harguments,
    SymbolId.readList_list hinterfaces]

/-- A storable method is made again from its fields. -/
theorem MethodSymbol.ofRecord_fields {method : MethodSymbol}
    (h : (Symbol.method method).IsStorable) : ofRecord ⟨method.fields⟩ = .ok method := by
  have hassembly : method.assembly.IsStorable := h.assembly
  have hreferences := h.references
  simp only [Symbol.references, List.cons_append, List.forall_mem_cons, List.forall_mem_append,
    Option.mem_toList, List.forall_mem_map] at hreferences
  obtain ⟨hcontaining, ⟨hreturn, harguments⟩, hparameters⟩ := hreferences
  have hparametersRead : Json.readList Parameter.read
      (Json.list Parameter.toJson method.parameters) = .ok method.parameters :=
    Json.readList_list fun parameter hmem =>
      Parameter.read_toJson ⟨hparameters parameter hmem, h.defaultValues parameter hmem⟩
  simp [ofRecord, fields, Json.Record.optional, Json.Record.list, Json.readText, Json.readBool,
    Json.readList_strings, Named.readInTagged_toJson, AssemblyId.read_toJson hassembly,
    SymbolId.read_toJson hcontaining, SymbolId.readOption_option hreturn,
    SymbolId.readList_list harguments, hparametersRead]

/-- Fields, properties and events are written alike. -/
theorem MemberSymbol.ofRecord_fields {member : MemberSymbol}
    (h : (Symbol.field member).IsStorable) : ofRecord ⟨member.fields⟩ = .ok member := by
  have hassembly : member.assembly.IsStorable := h.assembly
  obtain ⟨hcontaining, hrest⟩ := List.forall_mem_cons.mp h.references
  have htype : member.type.IsStorable := List.forall_mem_singleton.mp hrest
  simp [ofRecord, fields, Json.readText, AssemblyId.read_toJson hassembly,
    SymbolId.read_toJson hcontaining, SymbolId.read_toJson htype]

/-- Any other storable symbol is made again from its fields. -/
theorem OtherSymbol.ofRecord_fields {other : OtherSymbol} (h : (Symbol.other other).IsStorable) :
    ofRecord ⟨other.fields⟩ = .ok other := by
  have hassembly : other.assembly.IsStorable := h.assembly
  have htype : ∀ id ∈ other.type, id.IsStorable := fun id hid =>
    h.references id (Option.mem_toList.mpr hid)
  simp [ofRecord, fields, Json.Record.optional, Json.readText, AssemblyId.read_toJson hassembly,
    SymbolId.readOption_option htype]

namespace Symbol

/-- The alternative of a symbol is read from its fields. -/
theorem ofRecord_fields {symbol : Symbol} (h : symbol.IsStorable) :
    ofRecord symbol.kind ⟨symbol.fields⟩ = .ok symbol := by
  cases symbol with
  | type type =>
      rw [kind, fields, ofRecord, TypeSymbol.ofRecord_fields h]
      rfl
  | method method =>
      rw [kind, fields, ofRecord, MethodSymbol.ofRecord_fields h]
      rfl
  | other other =>
      rw [kind, fields, ofRecord, OtherSymbol.ofRecord_fields h]
      rfl
  | field member | property member | event member =>
      rw [kind, fields, ofRecord,
        MemberSymbol.ofRecord_fields
          ⟨h.assembly, h.declaredNamespace, h.references, h.defaultValues⟩]
      rfl

/-- The fields of a symbol have the names that its kind has in documents. -/
theorem map_fst_fields (symbol : Symbol) : symbol.fields.map Prod.fst = symbol.kind.fieldNames := by
  cases symbol <;> rfl

/-- The fields of symbols are readable. -/
theorem isReadable_of_mem_fields {symbol : Symbol} {field : String × Json}
    (h : field ∈ symbol.fields) : field.2.isReadable := by
  revert field
  cases symbol <;>
    simp [fields, TypeSymbol.fields, MethodSymbol.fields, MemberSymbol.fields, OtherSymbol.fields]

/-- A storable symbol is read back, whatever its kind. -/
theorem read_toJson {symbol : Symbol} (h : symbol.IsStorable) :
    read symbol.toJson = .ok symbol := by
  have hnames := symbol.map_fst_fields
  have htagged : Json.readTagged "symbol" symbol.toJson =
      .ok (Named.name symbol.kind, .object symbol.fields) := by
    refine Json.readTagged_object ?_ fun _ => isReadable_of_mem_fields
    rw [hnames]
    cases symbol.kind <;> decide
  have hrecord : Json.readRecord symbol.kind.fieldNames (.object symbol.fields) =
      .ok ⟨symbol.fields⟩ := by
    refine Json.readRecord_object ?_
    rw [hnames]
    cases symbol.kind <;> decide
  rw [read, htagged, Json.ok_bind]
  simp only [LawfulNamed.ofName?_name, hrecord, Json.ok_bind, ofRecord_fields h]

end Symbol

/-! ### Arenas -/

/-- Whether the handles of a namespace have 32 bits. -/
@[mk_iff]
structure Namespace.IsStorable (ns : Namespace) : Prop where
  parent : ∀ id ∈ ns.parent, id.IsStorable
  children : ∀ id ∈ ns.children, id.IsStorable

/-- Decides whether a namespace is storable, handle by handle. -/
instance (ns : Namespace) : Decidable ns.IsStorable :=
  decidable_of_iff' _ ns.isStorable_iff

/-- A storable namespace is read back. -/
theorem Namespace.read_toJson {ns : Namespace} (h : ns.IsStorable) : read ns.toJson = .ok ns := by
  rw [read, toJson, Json.readRecord_object (by simp)]
  simp [Json.Record.optional, Json.Record.list, Json.readText,
    NamespaceId.readOption_option h.parent, NamespaceId.readList_list h.children]

/-- Whether everything in an arena is storable. -/
@[mk_iff]
structure SymbolArena.IsStorable (arena : SymbolArena) : Prop where
  namespaces : ∀ ns ∈ arena.namespaces.toList, ns.IsStorable
  symbols : ∀ symbol ∈ arena.symbols.toList, symbol.IsStorable

/-- Decides whether an arena is storable, entry by entry. -/
instance (arena : SymbolArena) : Decidable arena.IsStorable :=
  decidable_of_iff' _ arena.isStorable_iff

/-- An arena of symbols is read back as it was. -/
theorem SymbolArena.read_toJson {arena : SymbolArena} (h : arena.IsStorable) :
    read arena.toJson = .ok arena := by
  have hnamespaces : Json.readList Namespace.read
      (Json.list Namespace.toJson arena.namespaces.toList) = .ok arena.namespaces.toList :=
    Json.readList_list fun ns hns => Namespace.read_toJson (h.namespaces ns hns)
  have hsymbols : Json.readList Symbol.read
      (Json.list Symbol.toJson arena.symbols.toList) = .ok arena.symbols.toList :=
    Json.readList_list fun symbol hsymbol => Symbol.read_toJson (h.symbols symbol hsymbol)
  rw [read, toJson, Json.readRecord_object (by simp)]
  simp [Json.Record.list, Json.readList_strings, hnamespaces, hsymbols]

end Portability
