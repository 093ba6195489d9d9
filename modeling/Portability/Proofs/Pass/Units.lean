import Portability.Pass.Program
import Portability.Proofs.Pass.Independence

/-!
# Units of a program

The units of a program share nothing but the log of misses, and no pass depends on what it starts
from. So the pass over a unit finds what it would find *alone*, starting from an empty log, and the
shared log ends up with what the units miss alone:

* `exists_checkUnit_eq`: one unit from any log,
* `fst_checkUnits`, `mem_checkUnits`: any sequence of units from any log,
* `check_in_any_order`: the units of a program in any order.
-/

namespace Portability

namespace ProgramDocument

variable (program : ProgramDocument) (policy : RulePolicy) (namespaces : KnownNamespaces)

/-- The pass over one unit alone. -/
def checkAlone (unit : UnitDocument) : CheckedUnit × MissLog :=
  program.checkUnit policy namespaces {} unit

/-! ### One unit -/

/-- From any log a unit comes out as it does alone, and the log grows by what the unit misses. -/
theorem exists_checkUnit_eq (log : MissLog) (unit : UnitDocument) :
    ∃ missed, program.checkUnit policy namespaces log unit =
        ((program.checkAlone policy namespaces unit).1, log.insertAll missed) ∧
      (program.checkAlone policy namespaces unit).2 = MissLog.insertAll {} missed := by
  obtain ⟨hroot, hstate⟩ := (program.passContext policy namespaces unit).sameButLog_of_logs
    log {} unit.arena unit.root
  obtain ⟨missed, hlog, halone⟩ := hstate.grown
  refine ⟨missed, ?_, halone⟩
  simp only [checkAlone, checkUnit, hroot, hstate.arena_eq, hstate.diagnostics_eq, hlog]

/-- A unit comes out of the pass the same whatever was missed before. -/
theorem fst_checkUnit (log : MissLog) (unit : UnitDocument) :
    (program.checkUnit policy namespaces log unit).1 =
      (program.checkAlone policy namespaces unit).1 := by
  obtain ⟨missed, hcheck, -⟩ := program.exists_checkUnit_eq policy namespaces log unit
  rw [hcheck]

/-- After a unit the log holds what it held before and what the unit misses alone. -/
theorem mem_checkUnit (log : MissLog) (unit : UnitDocument) (miss : Miss) :
    miss ∈ (program.checkUnit policy namespaces log unit).2.misses ↔
      miss ∈ log.misses ∨ miss ∈ (program.checkAlone policy namespaces unit).2.misses := by
  obtain ⟨missed, hcheck, halone⟩ := program.exists_checkUnit_eq policy namespaces log unit
  rw [hcheck, halone, MissLog.mem_insertAll, MissLog.mem_insertAll]
  simp only [List.not_mem_nil, false_or]

/-- A pass keeps every miss once. -/
theorem nodup_checkUnit {log : MissLog} (unit : UnitDocument) (h : log.misses.Nodup) :
    (program.checkUnit policy namespaces log unit).2.misses.Nodup := by
  obtain ⟨missed, hcheck, -⟩ := program.exists_checkUnit_eq policy namespaces log unit
  rw [hcheck]
  exact MissLog.nodup_insertAll missed h

/-! ### Sequences of units -/

/-- Every unit of a sequence comes out as it does alone. -/
theorem fst_checkUnits (log : MissLog) (units : List UnitDocument) :
    (program.checkUnits policy namespaces log units).1 =
      units.map fun unit => (program.checkAlone policy namespaces unit).1 := by
  induction units generalizing log with
  | nil => rfl
  | cons unit rest ih => simp only [checkUnits, List.map_cons, ih, fst_checkUnit]

/-- After a sequence of units the log holds what it held before and what any of them misses
alone. -/
theorem mem_checkUnits (log : MissLog) (units : List UnitDocument) (miss : Miss) :
    miss ∈ (program.checkUnits policy namespaces log units).2.misses ↔
      miss ∈ log.misses ∨
        ∃ unit ∈ units, miss ∈ (program.checkAlone policy namespaces unit).2.misses := by
  induction units generalizing log with
  | nil => simp [checkUnits]
  | cons unit rest ih =>
      rw [checkUnits, ih, mem_checkUnit, List.exists_mem_cons_iff, or_assoc]

/-- Passes over a sequence of units keep every miss once. -/
theorem nodup_checkUnits {log : MissLog} (units : List UnitDocument) (h : log.misses.Nodup) :
    (program.checkUnits policy namespaces log units).2.misses.Nodup := by
  induction units generalizing log with
  | nil => exact h
  | cons unit rest ih => exact ih (program.nodup_checkUnit policy namespaces unit h)

/-- The report of a sequence of units is the union of the reports of the units alone. -/
theorem isUnion_checkUnits (units : List UnitDocument) :
    (program.checkUnits policy namespaces {} units).2.report.IsUnion
      (units.map fun unit => (program.checkAlone policy namespaces unit).2.report) where
  increasing := MissLog.increasing_report (program.nodup_checkUnits policy namespaces units .nil)
  holds_iff miss := by
    simp [MissLog.holds_report, mem_checkUnits]

/-! ### Programs -/

/-- **The order of the units does not matter.** In whichever order the units of a program are gone
over, and whatever is logged before, each of them comes out as it does alone; and from an empty log
the report is the union of the reports of the units alone, which is the report of the program. -/
theorem check_in_any_order (root : String) {order : List UnitDocument}
    (h : order.Perm program.units) :
    let namespaces := KnownNamespaces.collect program.symbols root
    let alone := program.checkAlone policy namespaces
    let run := program.checkUnits policy namespaces {} order
    (∀ log, (program.checkUnits policy namespaces log order).1 =
        order.map fun unit => (alone unit).1) ∧
      run.2.report.IsUnion (program.units.map fun unit => (alone unit).2.report) ∧
      run.2.report = (program.check policy root).misses := by
  intro namespaces alone run
  have hsame (part : MissReport) :
      part ∈ order.map (fun unit => (alone unit).2.report) ↔
        part ∈ program.units.map fun unit => (alone unit).2.report :=
    (h.map _).mem_iff
  have hrun := program.isUnion_checkUnits policy namespaces order
  have hprogram := program.isUnion_checkUnits policy namespaces program.units
  refine ⟨fun log => program.fst_checkUnits policy namespaces log order, ?_, ?_⟩
  · refine ⟨hrun.increasing, fun miss => ?_⟩
    exact (hrun.holds_iff miss).trans (exists_congr fun part => and_congr_left' (hsame part))
  · exact hrun.unique hprogram hsame

/-- A unit that creates an object of a type. -/
def creationUnit (file : String) (type : SymbolId) : UnitDocument where
  file := file
  arena := {
    nodes := #[{ data := .identifierName "C" }, { data := .objectCreation (.ofIndex 0) [] }] }
  root := .ofIndex 1
  bindings := [{ node := .ofIndex 0, symbol := some type }]

/-- A program that creates an external map in its first unit and an external list in its second. -/
def twoCreations : ProgramDocument where
  assembly := ⟨0⟩
  symbols := {
    assemblies := #["Game", "Engine"]
    symbols := #[
      .type { name := "List", kind := .classType, assembly := ⟨1⟩, typeParameters := ["T"] },
      .type { name := "Map", kind := .classType, assembly := ⟨1⟩, typeParameters := ["K", "V"] }] }
  units := [creationUnit "A.cs" ⟨1⟩, creationUnit "B.cs" ⟨0⟩]

/-- Two units the other way around. -/
theorem check_twoCreations_reversed :
    let program := twoCreations
    let namespaces := KnownNamespaces.collect program.symbols ""
    let order := program.units.reverse
    order ≠ program.units ∧ order.Perm program.units ∧
      (program.checkUnits {} namespaces {} order).1 =
        order.map (fun unit => (program.checkAlone {} namespaces unit).1) ∧
      (program.checkUnits {} namespaces {} order).2.report = (program.check {} "").misses := by
  have hperm : twoCreations.units.reverse.Perm twoCreations.units := List.reverse_perm _
  obtain ⟨hunits, -, hreport⟩ := twoCreations.check_in_any_order {} "" hperm
  exact ⟨by decide, hperm, hunits {}, hreport⟩

end ProgramDocument

end Portability
