import Portability.Pass.Program
import Portability.Proofs.Pass.Sparing

/-!
# Complete flattening

A pass flattens a unit after it has relinked it. So namespaces are dissolved and imports dropped by
their names as shortening leaves them, and flattening is complete for those that it spares: known
namespaces, and what goes on after none (`flattened_of_checkUnit`).

A name below the root that is not known itself loses the known namespace it goes on after. Its
namespace then is none of the root's any more, and stays: `notFlattened_otherUnit`.
-/

namespace Portability

namespace PassContext

variable (context : PassContext)

/-- A pass over a unit relinks it and then flattens it. -/
theorem exists_relinks_of_runFrom (misses : MissLog) {arena : NodeArena} {unit : NodeId}
    {externs usings attributeLists members : List NodeId}
    (hunit : arena.data? unit = some (.compilationUnit externs usings attributeLists members))
    (hroot : context.namespaces.root ≠ "") :
    ∃ later externs' usings' attributeLists' members',
      context.namespaces.Relinks arena later ∧
      later.data? unit = some (.compilationUnit externs' usings' attributeLists' members') ∧
      List.Forall₂ (context.namespaces.Follows arena) members members' ∧
      (context.runFrom misses arena unit).1 = (later.flatten unit context.namespaces.root).1 ∧
      (context.runFrom misses arena unit).2.arena =
        (later.flatten unit context.namespaces.root).2 := by
  obtain ⟨levels, hlevels⟩ : ∃ levels, maxDepth = levels + 1 := ⟨499, rfl⟩
  have hrelinks := (relinksAt_relink_of_ne (s := { arena, misses })
    (context.relinksAt_visitTo levels) (.refl _ arena) hunit nofun (pure ())).relinks
  set visited := (context.relink (context.visitTo levels) unit
    (.compilationUnit externs usings attributeLists members) (pure ())).run { arena, misses }
    with hvisited
  have hrun : context.runFrom misses arena unit =
      (PassM.build (·.flatten unit context.namespaces.root)).run visited.2 := by
    rw [runFrom, run, hlevels, run_visitTo_of_data? _ (s := { arena, misses }) hunit,
      visitNode_unit _ _ (context.visitTo_none levels), PassM.run_bind, ← hvisited, if_neg hroot]
    rfl
  obtain ⟨ids, hids, hlater⟩ := hrelinks.slots unit _ hunit
  obtain ⟨externs', usings', attributeLists', members', heq, hmembers⟩ :=
    NodeData.exists_withSlots_compilationUnit hids
  refine ⟨visited.2.arena, externs', usings', attributeLists', members', hrelinks, heq ▸ hlater,
    hmembers, ?_, ?_⟩
  · rw [hrun]
    rfl
  · rw [hrun]
    rfl

end PassContext

namespace ProgramDocument

/-- **Flattening is complete where names are spared.** After a pass over a unit of a program, with
the namespaces below a root known, no namespace with a spared name that starts with the root is a
member of the unit any more, but whatever those at the top hold is; and no import of such a name is
left. -/
theorem flattened_of_checkUnit (program : ProgramDocument) (policy : RulePolicy)
    (misses : MissLog) {unit : UnitDocument} {root : String} (hroot : root ≠ "")
    {externs usings attributeLists members : List NodeId}
    (hunit : unit.arena.data? unit.root =
      some (.compilationUnit externs usings attributeLists members)) :
    let known := KnownNamespaces.collect program.symbols root
    let checked := (program.checkUnit policy known misses unit).1
    ∃ externs' usings' attributeLists' members',
      checked.arena.data? checked.root =
        some (.compilationUnit externs' usings' attributeLists' members') ∧
      (∀ outer, unit.arena.isDissolved root outer → known.SparesNameOf unit.arena outer →
        outer ∉ members' ∧
        (outer ∈ members → ∀ item,
          (checked.arena.HoldsMember outer item → item ∈ members') ∧
          (unit.arena.HoldsMember outer item →
            (∃ data, unit.arena.data? item = some data ∧ data.isSteady) → item ∈ members'))) ∧
      ∀ item, unit.arena.importsFrom root item → known.SparesNameOf unit.arena item →
        item ∉ usings' := by
  intro known checked
  have hknown : known.root = root := KnownNamespaces.root_collect _ _
  obtain ⟨later, externs₁, usings₁, attributeLists₁, members₁, hrelinks, hlater, hmembers, hanswer,
    harena⟩ := (program.passContext policy known unit).exists_relinks_of_runFrom misses hunit
      (hknown.trans_ne hroot)
  -- the names that the context knows are those that are collected
  change known.Relinks unit.arena later at hrelinks
  change checked.root = (later.flatten unit.root known.root).1 at hanswer
  change checked.arena = (later.flatten unit.root known.root).2 at harena
  rw [hknown] at hanswer harena
  have hflat : checked.arena.data? checked.root =
      some (later.flatUnit root externs₁ usings₁ attributeLists₁ members₁) := by
    rw [hanswer, harena, NodeArena.data?_flatten hlater, if_pos rfl]
  refine ⟨_, _, _, _, hflat, fun outer hdissolved hspares => ?_, fun item himports hspares => ?_⟩
  · -- the pass spares the name, so flattening still meets the namespace
    have hstill := hrelinks.isDissolved hspares hdissolved
    refine ⟨NodeArena.notMem_members_dissolveUnit hstill _ _ _, fun hmember item => ?_⟩
    have hstays : outer ∈ members₁ := KnownNamespaces.mem_of_stays hmembers hmember
      (.ofNamespace (NodeArena.isNamespace_of_isDissolved hdissolved))
    refine ⟨fun hholds => ?_, fun hholds hsteady => ?_⟩
    · rw [harena] at hholds
      have hcontains := NodeArena.contains_of_isNamespace
        (NodeArena.isNamespace_of_isDissolved hstill)
      exact (hholds.of_flatten hlater root hcontains).mem_dissolveUnit hstill hstays _ _
    · obtain ⟨data, hdata, hsteady⟩ := hsteady
      exact (hrelinks.holdsMember hholds hdata hsteady).mem_dissolveUnit hstill hstays _ _
  · exact NodeArena.notMem_usings_dissolveUnit (hrelinks.importsFrom hspares himports) _ _ _

/-- A unit that imports and declares the namespace `App.Other`. -/
def otherUnit : UnitDocument where
  file := "Other.cs"
  root := .ofIndex 9
  arena := {
    nodes := #[
      { data := .identifierName "App" },
      { data := .identifierName "Other" },
      { data := .qualifiedName (.ofIndex 0) (.ofIndex 1) },
      { data := .usingDirective none (.ofIndex 2) },
      { data := .identifierName "App" },
      { data := .identifierName "Other" },
      { data := .qualifiedName (.ofIndex 4) (.ofIndex 5) },
      { data := .typeDeclaration "class" "A" [] },
      { data := .namespaceDeclaration (.ofIndex 6) [] [] [.ofIndex 7] },
      { data := .compilationUnit [] [.ofIndex 3] [] [.ofIndex 8] }] }

/-- A program of this unit, with the symbols of the namespaces on a path alone. -/
def otherProgram (path : String) : ProgramDocument where
  assembly := ⟨0⟩
  symbols := (SymbolArena.empty.addNamespacePath path).2
  units := [otherUnit]

/-- The names of the import and of the namespace in `otherUnit` are chains. -/
theorem isNameChain_otherUnit :
    otherUnit.arena.IsNameChain (.ofIndex 2) ∧ otherUnit.arena.IsNameChain (.ofIndex 6) :=
  ⟨.qualified rfl (.identifier rfl (by decide)) rfl (by decide),
    .qualified rfl (.identifier rfl (by decide)) rfl (by decide)⟩

/-- Where the program knows `App.Other`, the namespace is dissolved and the import dropped. -/
theorem flattened_otherUnit :
    let known := KnownNamespaces.collect (otherProgram "App.Other").symbols "App"
    let checked := ((otherProgram "App.Other").checkUnit {} known {} otherUnit).1
    ∃ externs usings attributeLists members,
      checked.arena.data? checked.root =
        some (.compilationUnit externs usings attributeLists members) ∧
      .ofIndex 8 ∉ members ∧ .ofIndex 7 ∈ members ∧ .ofIndex 3 ∉ usings := by
  intro known checked
  have himported : known.SparesNameOf otherUnit.arena (.ofIndex 3) := by
    rintro data hdata name hname
    obtain rfl : NodeData.usingDirective none (.ofIndex 2) = data := Option.some.inj hdata
    obtain rfl := List.mem_singleton.mp hname
    exact ⟨isNameChain_otherUnit.1, .inl (by decide +kernel)⟩
  have hdeclared : known.SparesNameOf otherUnit.arena (.ofIndex 8) := by
    rintro data hdata name hname
    obtain rfl : NodeData.namespaceDeclaration (.ofIndex 6) [] [] [.ofIndex 7] = data :=
      Option.some.inj hdata
    obtain rfl := List.mem_singleton.mp hname
    exact ⟨isNameChain_otherUnit.2, .inl (by decide +kernel)⟩
  have hholds : otherUnit.arena.HoldsMember (.ofIndex 8) (.ofIndex 7) :=
    ⟨rfl, .ofIndex 8, .ofIndex 6, [], [], [.ofIndex 7], ⟨0, .here rfl⟩, rfl, List.mem_cons_self⟩
  have hroot : "App" ≠ "" := by decide
  have hunit : otherUnit.arena.data? otherUnit.root =
      some (.compilationUnit [] [.ofIndex 3] [] [.ofIndex 8]) := rfl
  obtain ⟨externs, usings, attributeLists, members, hdata, hmembers, husings⟩ :=
    (otherProgram "App.Other").flattened_of_checkUnit {} {} hroot hunit
  obtain ⟨hnot, hheld⟩ := hmembers (.ofIndex 8) (by decide +kernel) hdeclared
  refine ⟨externs, usings, attributeLists, members, hdata, hnot, ?_, ?_⟩
  · exact (hheld List.mem_cons_self (.ofIndex 7)).2 hholds ⟨_, rfl, rfl⟩
  · exact husings (.ofIndex 3) (by decide +kernel) himported

/-- Where the program knows `App` alone, the names are shortened to `Other`. The namespace stays and
so does the import, though the names of both started with `App`. -/
theorem notFlattened_otherUnit :
    let program := otherProgram "App"
    let known := KnownNamespaces.collect program.symbols "App"
    let checked := (program.checkUnit {} known {} otherUnit).1
    program.validate.isOk ∧ otherUnit ∈ program.units ∧
      otherUnit.arena.data? otherUnit.root =
        some (.compilationUnit [] [.ofIndex 3] [] [.ofIndex 8]) ∧
      otherUnit.arena.data? (.ofIndex 3) = some (.usingDirective none (.ofIndex 2)) ∧
      otherUnit.arena.IsNameChain (.ofIndex 2) ∧
      otherUnit.arena.importsFrom "App" (.ofIndex 3) ∧
      otherUnit.arena.data? (.ofIndex 8) =
        some (.namespaceDeclaration (.ofIndex 6) [] [] [.ofIndex 7]) ∧
      otherUnit.arena.IsNameChain (.ofIndex 6) ∧
      otherUnit.arena.isDissolved "App" (.ofIndex 8) ∧
      checked.arena.data? checked.root =
        some (.compilationUnit [] [.ofIndex 3] [] [.ofIndex 8]) := by
  obtain ⟨himport, hnamespace⟩ := isNameChain_otherUnit
  exact ⟨by decide +kernel, List.mem_cons_self, rfl, rfl, himport, by decide +kernel, rfl,
    hnamespace, by decide +kernel, by decide +kernel⟩

end ProgramDocument

end Portability
