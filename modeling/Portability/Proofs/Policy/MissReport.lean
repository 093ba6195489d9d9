import Mathlib.Data.List.Sort
import Mathlib.Data.Prod.Lex
import Mathlib.Data.String.Basic
import Portability.Policy.MissLog

/-!
# Logs and reports as sets of misses

What matters of a log is which misses it holds, and a report presents exactly these, each list in
increasing order and without repetition. So reports can be compared miss by miss:

* `MissLog.mem_insertAll`, `MissLog.nodup_insertAll`: a log grows by what is added and keeps every
  miss once,
* `MissLog.holds_report`, `MissLog.increasing_report`: a report holds what its log holds, in order,
* `MissReport.ext_holds`: increasing reports that hold the same misses are equal.

`MissReport.IsUnion` says that a report is the union of others.
-/

namespace Portability

/-! ### Logs -/

namespace MissLog

/-- Misses may be inserted in two portions. -/
theorem insertAll_append (log : MissLog) (first second : List Miss) :
    log.insertAll (first ++ second) = (log.insertAll first).insertAll second :=
  List.foldl_append

/-- A log with misses added holds what it held before and what was added. -/
theorem mem_insertAll {log : MissLog} {misses : List Miss} {miss : Miss} :
    miss ∈ (log.insertAll misses).misses ↔ miss ∈ log.misses ∨ miss ∈ misses := by
  induction misses generalizing log with
  | nil => simp [insertAll]
  | cons first rest ih =>
      have hstep : log.insertAll (first :: rest) = (log.insert first).insertAll rest := rfl
      rw [hstep, ih, mem_insert, List.mem_cons]
      tauto

/-- A log stays empty only if nothing is added. -/
theorem misses_insertAll_eq_nil {log : MissLog} {misses : List Miss} :
    (log.insertAll misses).misses = [] ↔ log.misses = [] ∧ misses = [] := by
  simp only [List.eq_nil_iff_forall_not_mem, mem_insertAll, not_or, forall_and]

/-- Adding misses keeps every miss once. -/
theorem nodup_insertAll {log : MissLog} (misses : List Miss) (h : log.misses.Nodup) :
    (log.insertAll misses).misses.Nodup := by
  induction misses generalizing log with
  | nil => exact h
  | cons first rest ih => exact ih (nodup_insert h)

/-- A log has a name in a group if it has the miss of the name in this group. -/
theorem mem_names {log : MissLog} {bucket : MissBucket} {name : String} :
    name ∈ log.names bucket ↔ Miss.name bucket name ∈ log.misses := by
  simp only [names, List.mem_filterMap]
  constructor
  · rintro ⟨miss, hmem, hmiss⟩
    cases miss <;> simp_all
  · intro hmem
    exact ⟨_, hmem, by simp⟩

/-- A log has a conversion if it has the miss of it. -/
theorem mem_conversions {log : MissLog} {source target : String} :
    (source, target) ∈ log.conversions ↔ Miss.conversion source target ∈ log.misses := by
  simp only [conversions, List.mem_filterMap]
  constructor
  · rintro ⟨miss, hmem, hmiss⟩
    cases miss <;> simp_all
  · intro hmem
    exact ⟨_, hmem, rfl⟩

/-- No name stands in a group twice. -/
theorem nodup_names {log : MissLog} (h : log.misses.Nodup) (bucket : MissBucket) :
    (log.names bucket).Nodup := by
  refine h.filterMap fun first second name hfirst hsecond => ?_
  cases first <;> cases second <;> simp_all

/-- No conversion is presented twice. -/
theorem nodup_conversions {log : MissLog} (h : log.misses.Nodup) : log.conversions.Nodup := by
  refine h.filterMap fun first second pair hfirst hsecond => ?_
  cases first <;> cases second <;> grind

end MissLog

/-! ### Increasing lists -/

/-- Sorting a list without repetition by a key makes it strictly increasing. -/
theorem pairwise_lt_mergeSort {α β : Type} [LinearOrder β] {le : α → α → Bool} (key : α → β)
    (hkey : Function.Injective key) (hle : ∀ a b, le a b = true ↔ key a ≤ key b) {items : List α}
    (h : items.Nodup) : (items.mergeSort le).Pairwise fun a b => key a < key b := by
  have hsorted : (items.mergeSort le).Pairwise fun a b => key a ≤ key b := by
    refine (List.pairwise_mergeSort ?_ ?_ items).imp fun hab => (hle _ _).mp hab
    · intro a b c hab hbc
      exact (hle a c).mpr (le_trans ((hle a b).mp hab) ((hle b c).mp hbc))
    · intro a b
      simpa only [Bool.or_eq_true, hle] using le_total (key a) (key b)
  have hnodup : (items.mergeSort le).Pairwise (· ≠ ·) :=
    (List.mergeSort_perm items le).nodup_iff.mpr h
  exact (hsorted.and hnodup).imp fun ⟨hab, hne⟩ => lt_of_le_of_ne hab (hkey.ne hne)

/-- Texts are sorted by their order. -/
theorem textLe_iff (a b : String) : textLe a b = true ↔ a ≤ b :=
  decide_eq_true_iff

/-- Pairs of texts are sorted by the first and then by the second. -/
theorem textPairLe_iff (a b : String × String) :
    textPairLe a b = true ↔ toLex a ≤ toLex b := by
  simp [textPairLe, textLe, Prod.Lex.toLex_le_toLex]

/-! ### Reports -/

namespace MissReport

/-- The missed names of a group. -/
def names (report : MissReport) : MissBucket → List String
  | .genericType => report.genericTypes
  | .genericMethod => report.genericMethods
  | .parameterGenericType => report.parameterGenericTypes
  | .extension => report.extensions
  | .memberHost => report.memberHosts

/-- Whether a miss is on the list of a report that it belongs to. -/
def Holds (report : MissReport) : Miss → Prop
  | .name bucket name => name ∈ report.names bucket
  | .conversion source target => (source, target) ∈ report.conversions

/-- Every list is strictly increasing: names by their code points, conversions by their source and
then by their target. -/
structure IsIncreasing (report : MissReport) : Prop where
  names : ∀ bucket, (report.names bucket).Pairwise (· < ·)
  conversions : report.conversions.Pairwise fun a b => toLex a < toLex b

/-- A report is the *union* of others if, list by list, it holds what any of them holds, each once
and in increasing order. -/
structure IsUnion (report : MissReport) (parts : List MissReport) : Prop where
  increasing : report.IsIncreasing
  holds_iff : ∀ miss, report.Holds miss ↔ ∃ part ∈ parts, part.Holds miss

/-- Increasing reports that hold the same misses are equal. -/
theorem ext_holds {first second : MissReport} (hfirst : first.IsIncreasing)
    (hsecond : second.IsIncreasing) (h : ∀ miss, first.Holds miss ↔ second.Holds miss) :
    first = second := by
  have hnames (bucket : MissBucket) : first.names bucket = second.names bucket :=
    (hfirst.names bucket).eq_of_mem_iff (hsecond.names bucket) fun {name} => h (.name bucket name)
  have hconversions : first.conversions = second.conversions := by
    have : Std.Irrefl fun a b : String × String => toLex a < toLex b :=
      ⟨fun a => lt_irrefl (toLex a)⟩
    have : Std.Antisymm fun a b : String × String => toLex a < toLex b :=
      ⟨fun a b hab hba => absurd hab hba.asymm⟩
    exact hfirst.conversions.eq_of_mem_iff hsecond.conversions
      fun {pair} => h (.conversion pair.1 pair.2)
  cases first
  cases second
  simp only [mk.injEq]
  exact ⟨hnames .genericType, hnames .genericMethod, hnames .parameterGenericType,
    hnames .extension, hnames .memberHost, hconversions⟩

/-- The union of reports is determined by what they hold. -/
theorem IsUnion.unique {first second : MissReport} {parts parts' : List MissReport}
    (hfirst : first.IsUnion parts) (hsecond : second.IsUnion parts')
    (h : ∀ part, part ∈ parts ↔ part ∈ parts') : first = second := by
  refine ext_holds hfirst.increasing hsecond.increasing fun miss => ?_
  simp only [hfirst.holds_iff, hsecond.holds_iff, h]

end MissReport

namespace MissLog

/-- A report presents the names of each group, sorted. -/
theorem names_report (log : MissLog) (bucket : MissBucket) :
    log.report.names bucket = (log.names bucket).mergeSort textLe := by
  cases bucket <;> rfl

/-- A report holds what its log holds. -/
theorem holds_report {log : MissLog} {miss : Miss} :
    log.report.Holds miss ↔ miss ∈ log.misses := by
  cases miss with
  | name bucket name =>
      rw [MissReport.Holds, names_report, List.mem_mergeSort, mem_names]
  | conversion source target =>
      rw [MissReport.Holds, report, List.mem_mergeSort, mem_conversions]

/-- The report of an empty log is empty. -/
theorem report_of_misses_eq_nil {log : MissLog} (h : log.misses = []) : log.report = {} := by
  simp [report, names, conversions, h]

/-- A report of a log that keeps every miss once is increasing. -/
theorem increasing_report {log : MissLog} (h : log.misses.Nodup) : log.report.IsIncreasing where
  names bucket := by
    rw [names_report]
    exact pairwise_lt_mergeSort id Function.injective_id textLe_iff (nodup_names h bucket)
  conversions :=
    pairwise_lt_mergeSort toLex toLex.injective textPairLe_iff (nodup_conversions h)

end MissLog

end Portability
