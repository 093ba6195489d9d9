import Portability.Proofs.Pass.Leniency
import Portability.Proofs.Policy.Promotion

/-!
# Promoting what a program misses

A run reports what it missed, and the report can be turned into rules. A second run with these rules
added misses nothing: its misses are lacks of rules that were missed before
(`mem_misses_checkAlone_of_relaxes`), these rules are in force now, and a rule that is in force is
never missed (`PassContext.accounts_runFrom`). So of the second run's faults only those are left that
last, `Judge.IsLasting`.
-/

namespace Portability

/-! ### What a pass accounts for -/

/-- What a pass has found from an empty log on: what it missed is the lack of rules that are not in
force, and as long as it missed nothing its faults are such as last. -/
structure PassContext.Accounts (context : PassContext) (s : PassState) : Prop where
  unmet : ∀ miss ∈ s.misses.misses, context.policy.has miss.rule = false ∧ miss.IsPromotable
  lasting : s.misses.misses = [] → ∀ diagnostic ∈ s.diagnostics.toList,
    ∃ fault, diagnostic = context.diagnostic fault ∧ context.judge.IsLasting fault.violation

namespace PassContext

variable {context : PassContext}

/-- Settling a check keeps the account. -/
theorem Accounts.settle {s : PassState} (h : context.Accounts s)
    {check : RulePolicy → Inspection Unit} (hcheck : IsCheck context.model check) :
    context.Accounts ((context.settle (check context.policy)).run s).2 := by
  rw [run_settle]
  constructor
  · intro miss hmem
    rcases MissLog.mem_insertAll.mp hmem with hmem | hmem
    · exact h.unmet miss hmem
    · exact hcheck.unmet_of_mem_misses hmem
  · intro hnone diagnostic hmem
    obtain ⟨hbefore, hcheckMisses⟩ := MissLog.misses_insertAll_eq_nil.mp hnone
    rw [Array.toList_appendList, List.mem_append] at hmem
    rcases hmem with hmem | hmem
    · exact h.lasting hbefore diagnostic hmem
    · obtain ⟨fault, hfault, rfl⟩ := List.mem_map.mp hmem
      exact ⟨fault, rfl, hcheck.isLasting_of_misses_eq_nil hcheckMisses hfault⟩

end PassContext

/-- A pass beside itself keeps its account. -/
theorem Correspondence.ofAccounts (context : PassContext) :
    Correspondence context context.policy fun s t => s = t ∧ context.Accounts s where
  sameShape s t h := h.1 ▸ NodeArena.SameShape.refl s.arena
  relink f _ s t h := ⟨by rw [h.1], ⟨h.2.unmet, h.2.lasting⟩⟩
  settle x y hxy s t h := by
    obtain ⟨rfl, haccounts⟩ := h
    obtain ⟨check, hcheck, rfl, rfl⟩ := hxy.exists_isCheck
    exact ⟨rfl, rfl, haccounts.settle hcheck⟩

/-- A pass over a tree accounts for what it finds. -/
theorem PassContext.accounts_runFrom (context : PassContext) (arena : NodeArena) (root : NodeId) :
    context.Accounts (context.runFrom {} arena root).2 := by
  have hstart : context.Accounts { arena } :=
    ⟨fun miss hmem => absurd hmem List.not_mem_nil,
      fun _ diagnostic hmem => absurd hmem List.not_mem_nil⟩
  exact ((Correspondence.ofAccounts context).run root _ _ ⟨rfl, hstart⟩).2.2

/-! ### Diagnostics that last -/

/-- Whether a diagnostic shows a type whose innermost element type is denied and has no type
parameters. -/
def Diagnostic.IsAboutDeniedType (symbols : SymbolArena) (policy : RulePolicy)
    (diagnostic : Diagnostic) : Prop :=
  ∃ id, diagnostic = .ofCode diagnostic.file diagnostic.node diagnostic.code
      [symbols.displayName id] ∧
    symbols.IsPlainType (symbols.core id) ∧
      policy.denies .type (symbols.canonicalName (symbols.core id))

namespace Judge.IsLasting

variable {judge : Judge} {violation : Violation}

/-- No violation for want of a host of extension methods or of a conversion lasts. -/
theorem code_ne (h : judge.IsLasting violation) :
    violation.code ≠ 3001 ∧ violation.code ≠ 2008 := by
  cases violation <;> simp_all [Judge.IsLasting, Violation.code]

/-- A violation by a type lasts if the type is denied. -/
theorem isAboutDeniedType (h : judge.IsLasting violation)
    (hcode : violation.code = 2005 ∨ violation.code = 2006 ∨ violation.code = 2007)
    (file : String) (node : NodeId) :
    (violation.diagnostic file node).IsAboutDeniedType judge.symbols judge.policy := by
  cases violation
  case memberType | signatureType | type =>
    obtain ⟨id, rfl, hplain, hdenied⟩ := h
    exact ⟨id, rfl, hplain, hdenied⟩
  all_goals simp [Violation.code] at hcode

end Judge.IsLasting

/-! ### Programs -/

/-- Indexing default values keeps the symbols. -/
theorem ProgramIndex.symbols_foldl_addDefaultValue (index : ProgramIndex)
    (values : List DefaultValue) : (values.foldl addDefaultValue index).symbols = index.symbols := by
  induction values generalizing index with
  | nil => rfl
  | cons value rest ih => exact ih (index.addDefaultValue value)

namespace ProgramDocument

variable (program : ProgramDocument) (namespaces : KnownNamespaces)

/-- The model of a unit has the symbols of the program. -/
theorem symbols_modelOf (unit : UnitDocument) : (program.modelOf unit).symbols = program.symbols :=
  ProgramIndex.symbols_foldl_addDefaultValue _ program.defaultValues

/-- The pass over a unit alone accounts for what it finds. -/
theorem accounts_checkAlone (policy : RulePolicy) (unit : UnitDocument) :
    (∀ miss ∈ (program.checkAlone policy namespaces unit).2.misses,
        policy.has miss.rule = false ∧ miss.IsPromotable) ∧
      ((program.checkAlone policy namespaces unit).2.misses = [] →
        ∀ diagnostic ∈ (program.checkAlone policy namespaces unit).1.diagnostics,
          ∃ fault : Fault, diagnostic = fault.violation.diagnostic unit.file fault.node ∧
            (Judge.mk (program.modelOf unit) policy).IsLasting fault.violation) := by
  have haccounts := (program.passContext policy namespaces unit).accounts_runFrom
    unit.arena unit.root
  exact ⟨haccounts.unmet, haccounts.lasting⟩

/-- With the rules added that the report of a run is turned into, no unit misses anything: a miss of
the second run was one of the first, so its rule is among those added. -/
theorem misses_checkAlone_promoted (document : RuleDocument) {unit : UnitDocument}
    (hunit : unit ∈ program.units) :
    let report := (program.checkUnits (.ofDocument document) namespaces {} program.units).2.report
    (program.checkAlone (.ofDocument (document.followedBy report.toRuleDocument)) namespaces
      unit).2.misses = [] := by
  intro report
  refine List.eq_nil_iff_forall_not_mem.mpr fun miss hmem => ?_
  have hrelaxes : (RulePolicy.ofDocument (document.followedBy report.toRuleDocument)).Relaxes
      (.ofDocument document) :=
    RulePolicy.relaxes_followedBy fun _ => MissReport.isAllowance_of_mem_toRuleDocument
  have hbefore := program.mem_misses_checkAlone_of_relaxes namespaces hrelaxes unit hmem
  have hpromotable := ((program.accounts_checkAlone namespaces _ unit).1 miss hbefore).2
  have hreported : report.Holds miss :=
    MissLog.holds_report.mpr ((program.mem_checkUnits _ namespaces {} _ miss).mpr
      (.inr ⟨unit, hunit, hbefore⟩))
  have hhas : (RulePolicy.ofDocument (document.followedBy report.toRuleDocument)).has miss.rule :=
    RulePolicy.has_ofDocument.mpr (RuleDocument.mem_rules_followedBy.mpr
      (.inr (MissReport.rule_mem_toRuleDocument hreported hpromotable)))
  have hlacks := ((program.accounts_checkAlone namespaces _ unit).1 miss hmem).1
  exact Bool.false_ne_true (hlacks.symm.trans hhas)

/-- **Promotion closes the policy.** With the rules added that the report of a run is turned into, a
program misses nothing. No extension method and no conversion is found fault with any more, and a
type only if its innermost element type is denied. -/
theorem check_promoted (document : RuleDocument) (root : String) :
    let report := (program.check (.ofDocument document) root).misses
    let policy := RulePolicy.ofDocument (document.followedBy report.toRuleDocument)
    let outcome := program.check policy root
    outcome.misses = {} ∧ ∀ diagnostic ∈ outcome.diagnostics,
      diagnostic.code ≠ 3001 ∧ diagnostic.code ≠ 2008 ∧
        (diagnostic.code = 2005 ∨ diagnostic.code = 2006 ∨ diagnostic.code = 2007 →
          diagnostic.IsAboutDeniedType program.symbols policy) := by
  intro report policy outcome
  have halone (unit : UnitDocument) (hunit : unit ∈ program.units) :=
    program.misses_checkAlone_promoted (.collect program.symbols root) document hunit
  constructor
  · refine MissLog.report_of_misses_eq_nil (List.eq_nil_iff_forall_not_mem.mpr fun miss hmem => ?_)
    rcases (program.mem_checkUnits _ _ _ _ miss).mp hmem with hmem | ⟨unit, hunit, hmem⟩
    · exact List.not_mem_nil hmem
    · exact List.not_mem_nil (halone unit hunit ▸ hmem)
  · intro diagnostic hmem
    obtain ⟨checked, hchecked, hmem⟩ := List.mem_flatMap.mp hmem
    obtain ⟨unit, hunit, rfl⟩ : ∃ unit ∈ program.units,
        (program.checkAlone policy (.collect program.symbols root) unit).1 = checked := by
      rw [← List.mem_map, ← program.fst_checkUnits policy _ {}]
      exact hchecked
    obtain ⟨fault, rfl, hlasting⟩ :=
      (program.accounts_checkAlone _ policy unit).2 (halone unit hunit) diagnostic hmem
    refine ⟨hlasting.code_ne.1, hlasting.code_ne.2, fun hcode => ?_⟩
    have habout := hlasting.isAboutDeniedType hcode unit.file fault.node
    rwa [Judge.symbols, symbols_modelOf] at habout

end ProgramDocument

end Portability
