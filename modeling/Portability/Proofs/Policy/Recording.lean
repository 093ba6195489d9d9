import Portability.Proofs.Policy.MissReport

/-!
# Recording in any order

The units of a program record what they miss in one log, and nothing says whose turn it is. It does
not matter: what a log holds afterwards is what was recorded, and every miss is new just once.

* `MissLog.length_misses_recordAll`: a log grows by one miss with every answer that says "new",
* `MissLog.total_report`: a report presents every miss of its log in exactly one place,
* `MissLog.recordAll_in_any_order`: the report, and how many answers say "new", do not depend on
  the order.
-/

namespace Portability

namespace MissLog

/-- Records misses one after the other. The answers tell of each whether it was new. -/
def recordAll (log : MissLog) : List Miss → List Bool × MissLog
  | [] => ([], log)
  | miss :: rest =>
    let (isNew, log) := log.record miss
    let (answers, log) := log.recordAll rest
    (isNew :: answers, log)

/-- Recording leaves the log that inserting leaves. -/
theorem recordAll_snd (log : MissLog) (misses : List Miss) :
    (log.recordAll misses).2 = log.insertAll misses := by
  induction misses generalizing log with
  | nil => rfl
  | cons first rest ih => exact ih (log.insert first)

/-! ### New misses -/

/-- A log grows by a miss that is new, and by no other. -/
theorem length_misses_record (log : MissLog) (miss : Miss) :
    (log.record miss).2.misses.length =
      log.misses.length + if (log.record miss).1 then 1 else 0 := by
  rw [record, insert]
  split
  next h => simp [h]
  next h => simp [h]

/-- A log grows by as many misses as were new. -/
theorem length_misses_recordAll (log : MissLog) (misses : List Miss) :
    (log.recordAll misses).2.misses.length =
      log.misses.length + (log.recordAll misses).1.count true := by
  induction misses generalizing log with
  | nil => rfl
  | cons first rest ih =>
      have hstep := log.length_misses_record first
      have hrest := ih (log.record first).2
      simp only [recordAll, List.count_cons, beq_iff_eq]
      omega

/-! ### Where a report presents a miss -/

/-- Every miss of a log is a name in one group or a conversion. -/
theorem length_misses (log : MissLog) :
    log.misses.length =
      (log.names .genericType).length + (log.names .genericMethod).length +
        (log.names .parameterGenericType).length + (log.names .extension).length +
        (log.names .memberHost).length + log.conversions.length := by
  obtain ⟨misses⟩ := log
  induction misses with
  | nil => rfl
  | cons first rest ih =>
      cases first with
      | name bucket name =>
          cases bucket <;> simp_all [names, conversions] <;> omega
      | conversion source target =>
          simp_all [names, conversions]
          omega

/-- A report has as many entries as its log has misses. -/
theorem total_report (log : MissLog) : log.report.total = log.misses.length := by
  simp [length_misses, MissReport.total, report]

/-! ### Any order -/

/-- Whatever the order in which misses are recorded, the report is the same. -/
theorem report_insertAll_of_perm {misses others : List Miss} (h : others.Perm misses) :
    (insertAll {} others).report = (insertAll {} misses).report := by
  refine MissReport.ext_holds (increasing_report (nodup_insertAll _ .nil))
    (increasing_report (nodup_insertAll _ .nil)) fun miss => ?_
  rw [holds_report, holds_report, mem_insertAll, mem_insertAll, h.mem_iff]

/-- In a log that was empty as many misses are new as the report has entries. -/
theorem count_recordAll (misses : List Miss) :
    (recordAll {} misses).1.count true = (recordAll {} misses).2.report.total := by
  rw [total_report, length_misses_recordAll]
  exact (Nat.zero_add _).symm

/-- **The log is a set.** Misses that are recorded in an empty log are reported the same in every
order of recording. The report lists every group strictly by code points and the conversions
strictly by source and then by target, it holds what was recorded and nothing else, and in every
order as many answers say that a miss is new as the report has entries. -/
theorem recordAll_in_any_order {misses others : List Miss} (h : others.Perm misses) :
    let run := recordAll {} misses
    let other := recordAll {} others
    other.2.report = run.2.report ∧
    run.2.report.IsIncreasing ∧
    (∀ miss, run.2.report.Holds miss ↔ miss ∈ misses) ∧
    run.1.count true = run.2.report.total ∧
    other.1.count true = run.2.report.total := by
  intro run other
  have hreport : other.2.report = run.2.report := by
    rw [recordAll_snd, recordAll_snd]
    exact report_insertAll_of_perm h
  have hrun : run.2 = insertAll {} misses := recordAll_snd {} misses
  refine ⟨hreport, ?_, fun miss => ?_, count_recordAll misses, ?_⟩
  · rw [hrun]
    exact increasing_report (nodup_insertAll misses .nil)
  · rw [hrun, holds_report, mem_insertAll, or_iff_right List.not_mem_nil]
  · rw [← hreport]
    exact count_recordAll others

/-- A name of two groups, one that is missed twice, and two conversions of one source. -/
def sevenMisses : List Miss :=
  [.name .genericType "Map_K_V", .conversion "Player" "Unit", .name .memberHost "List_T",
   .name .genericType "List_T", .conversion "Player" "Actor", .name .genericType "Map_K_V",
   .name .extension "Linq"]

/-- Six of the seven are new, whichever way they are recorded. -/
theorem recordAll_sevenMisses_reversed :
    sevenMisses.reverse.Perm sevenMisses ∧
    (recordAll {} sevenMisses.reverse).1 = [true, true, true, true, true, true, false] ∧
    (recordAll {} sevenMisses).1 = [true, true, true, true, true, false, true] ∧
    (recordAll {} sevenMisses.reverse).2.report = (recordAll {} sevenMisses).2.report ∧
    (recordAll {} sevenMisses).2.report.IsIncreasing ∧
    (recordAll {} sevenMisses).2.report.Holds (.conversion "Player" "Actor") ∧
    (recordAll {} sevenMisses.reverse).1.count true =
      (recordAll {} sevenMisses).2.report.total := by
  have hperm : sevenMisses.reverse.Perm sevenMisses := List.reverse_perm _
  obtain ⟨hreport, hincreasing, hholds, -, hcount⟩ := recordAll_in_any_order hperm
  exact ⟨hperm, by decide, by decide, hreport, hincreasing, (hholds _).mpr (by decide), hcount⟩

end MissLog

end Portability
