import Portability.Program.Document
import Portability.Proofs.Tree.Json

/-!
# Programs survive documents

A program that is written to a document is read back as it was (`ProgramDocument.read_back`): every
kind of symbol and of node, with any of its fields absent, empty or at its default.

`IsStorable` asks for no more than that numbers fit the types that documents give them and that no
constant is a float.
-/

namespace Portability

/-! ### Default values and bindings -/

namespace ResolvedExpression

/-- Whether the handle of a resolved expression has 32 bits. -/
def IsStorable (expression : ResolvedExpression) : Prop :=
  ∀ id ∈ expression.type, id.IsStorable
  deriving Decidable

/-- A storable expression is read back. -/
theorem read_toJson {expression : ResolvedExpression} (h : expression.IsStorable) :
    read expression.toJson = .ok expression := by
  rw [read, toJson, Json.readRecord_object (by simp)]
  simp [Json.Record.optional, Json.readText, SymbolId.readOption_option h]

end ResolvedExpression

namespace DefaultValue

/-- Whether the handles of a default value have 32 bits and its position has 64. -/
@[mk_iff]
structure IsStorable (value : DefaultValue) : Prop where
  method : value.method.IsStorable
  parameter : value.parameter < twoTo 64
  resolved : ∀ expression ∈ value.resolved, expression.IsStorable

/-- Decides whether a default value is storable. -/
instance (value : DefaultValue) : Decidable value.IsStorable :=
  decidable_of_iff' _ (isStorable_iff value)

/-- A storable default value is read back. -/
theorem read_toJson {value : DefaultValue} (h : value.IsStorable) :
    read value.toJson = .ok value := by
  have hresolved : Json.readOption ResolvedExpression.read
      (Json.option ResolvedExpression.toJson value.resolved) = .ok value.resolved :=
    Json.readOption_option (fun _ => nofun) fun expression hexpression =>
      ResolvedExpression.read_toJson (h.resolved expression hexpression)
  rw [read, toJson, Json.readRecord_object (by simp)]
  simp [Json.Record.optional, Json.readText, SymbolId.read_toJson h.method,
    Json.readNatOfBits_nat h.parameter, hresolved]

end DefaultValue

namespace NodeBinding

/-- Whether the handles of a binding have 32 bits. -/
@[mk_iff]
structure IsStorable (binding : NodeBinding) : Prop where
  node : binding.node.IsStorable
  symbol : ∀ id ∈ binding.symbol, id.IsStorable
  type : ∀ id ∈ binding.type, id.IsStorable

/-- Decides whether a binding is storable. -/
instance (binding : NodeBinding) : Decidable binding.IsStorable :=
  decidable_of_iff' _ (isStorable_iff binding)

/-- A storable binding is read back. -/
theorem read_toJson {binding : NodeBinding} (h : binding.IsStorable) :
    read binding.toJson = .ok binding := by
  rw [read, toJson, Json.readRecord_object (by simp)]
  simp [Json.Record.optional, NodeId.read_toJson h.node, SymbolId.readOption_option h.symbol,
    SymbolId.readOption_option h.type]

end NodeBinding

/-! ### Units and programs -/

namespace UnitDocument

/-- Whether everything in a unit is storable. -/
@[mk_iff]
structure IsStorable (unit : UnitDocument) : Prop where
  arena : unit.arena.IsStorable
  root : unit.root.IsStorable
  bindings : ∀ binding ∈ unit.bindings, binding.IsStorable

/-- Decides whether a unit is storable. -/
instance (unit : UnitDocument) : Decidable unit.IsStorable :=
  decidable_of_iff' _ (isStorable_iff unit)

/-- A storable unit is read back. -/
theorem read_toJson {unit : UnitDocument} (h : unit.IsStorable) :
    read unit.toJson = .ok unit := by
  have hbindings : Json.readList NodeBinding.read
      (Json.list NodeBinding.toJson unit.bindings) = .ok unit.bindings :=
    Json.readList_list fun binding hbinding => NodeBinding.read_toJson (h.bindings binding hbinding)
  rw [read, toJson, Json.readRecord_object (by simp)]
  simp [Json.Record.list, Json.readText, NodeArena.read_toJson h.arena,
    NodeId.read_toJson h.root, hbindings]

end UnitDocument

namespace ProgramDocument

/-- Whether everything in a program is storable: handles of 32 bits, integer constants and positions
of 64, and no constants that are floats. -/
@[mk_iff]
structure IsStorable (program : ProgramDocument) : Prop where
  assembly : program.assembly.IsStorable
  symbols : program.symbols.IsStorable
  defaultValues : ∀ value ∈ program.defaultValues, value.IsStorable
  units : ∀ unit ∈ program.units, unit.IsStorable

/-- Decides whether a program is storable. -/
instance (program : ProgramDocument) : Decidable program.IsStorable :=
  decidable_of_iff' _ (isStorable_iff program)

/-- A storable program is read back. -/
theorem read_toJson {program : ProgramDocument} (h : program.IsStorable) :
    read program.toJson = .ok program := by
  have hdefaultValues : Json.readList DefaultValue.read
      (Json.list DefaultValue.toJson program.defaultValues) = .ok program.defaultValues :=
    Json.readList_list fun value hvalue => DefaultValue.read_toJson (h.defaultValues value hvalue)
  have hunits : Json.readList UnitDocument.read
      (Json.list UnitDocument.toJson program.units) = .ok program.units :=
    Json.readList_list fun unit hunit => UnitDocument.read_toJson (h.units unit hunit)
  rw [read, toJson, Json.readRecord_object (by simp)]
  simp [Json.Record.list, AssemblyId.read_toJson h.assembly,
    SymbolArena.read_toJson h.symbols, hdefaultValues, hunits]

/-- **Programs survive documents.** A program is read back from the document written for it, and so
are its symbols and the nodes of each of its units on their own. -/
theorem read_back {program : ProgramDocument} (h : program.IsStorable) :
    read program.toJson = .ok program ∧
      SymbolArena.read program.symbols.toJson = .ok program.symbols ∧
      ∀ unit ∈ program.units, NodeArena.read unit.arena.toJson = .ok unit.arena :=
  ⟨read_toJson h, SymbolArena.read_toJson h.symbols,
    fun unit hunit => NodeArena.read_toJson (h.units unit hunit).arena⟩

/-- A program with symbols of every alternative, default values, empty slots and comments. -/
def manyKinds : ProgramDocument where
  assembly := ⟨0⟩
  symbols :=
    { assemblies := #["Game", "Library"]
      namespaces := #[{ name := "", children := [⟨1⟩] }, { name := "App", parent := some .global }]
      symbols :=
        #[.type { name := "Int32", kind := .struct, assembly := ⟨1⟩ },
          .type { name := "List", kind := .classType, assembly := ⟨1⟩, namespaceId := some ⟨1⟩,
                  typeParameters := ["T"], typeArguments := [⟨0⟩], interfaces := [⟨0⟩] },
          .type { name := "", kind := .array, assembly := ⟨1⟩, elementType := some ⟨1⟩,
                  special := .object },
          .method { name := "Add", containingType := ⟨1⟩, assembly := ⟨1⟩, isExtension := true,
                    returnType := some ⟨0⟩,
                    parameters :=
                      [{ name := "item", type := ⟨0⟩, refKind := .out, isParams := true },
                       { name := "at", type := ⟨0⟩, defaultValue := some (.int (-twoTo 63)) },
                       { name := "mark", type := ⟨0⟩, defaultValue := some (.char '\'') },
                       { name := "more", type := ⟨1⟩, defaultValue := some .null },
                       { name := "why", type := ⟨2⟩, defaultValue := some (.text "null") },
                       { name := "try", type := ⟨2⟩, defaultValue := some (.bool false) }] },
          .field { name := "size", containingType := ⟨1⟩, assembly := ⟨1⟩, type := ⟨0⟩ },
          .property { name := "Count", containingType := ⟨1⟩, assembly := ⟨1⟩, type := ⟨0⟩ },
          .event { name := "Grown", containingType := ⟨1⟩, assembly := ⟨1⟩, type := ⟨0⟩ },
          .other { name := "local", assembly := ⟨0⟩ }] }
  defaultValues :=
    [{ method := ⟨3⟩, parameter := 1, text := "0", resolved := some { text := "0" } }]
  units :=
    [{ file := "A.cs"
       arena :=
        { nodes :=
            #[{ data := .identifierName "x", leadingComments := ["", "// two"] },
              { data := .variableDeclarator "y" .none },
              { data := .argument none .ref (.ofIndex 0) },
              { data := .usingDirective (some "") .none },
              { data := .compilationUnit [] [.ofIndex 3, .none] [] [.ofIndex 7] }] }
       root := .ofIndex 4
       bindings := [{ node := .none }, { node := .ofIndex 0, symbol := some ⟨twoTo 32 - 1⟩ }] }]

/-- The program `manyKinds` is read back, as are its symbols and the nodes of its unit. -/
theorem read_back_manyKinds :
    manyKinds.IsStorable ∧ read manyKinds.toJson = .ok manyKinds ∧
      SymbolArena.read manyKinds.symbols.toJson = .ok manyKinds.symbols ∧
      ∀ unit ∈ manyKinds.units, NodeArena.read unit.arena.toJson = .ok unit.arena := by
  have hstorable : manyKinds.IsStorable := by decide +kernel
  exact ⟨hstorable, read_back hstorable⟩

end ProgramDocument

end Portability
