import Portability.Proofs.Pass.Visits

/-!
# Deny lists at work

Whatever a pass visits, what is denied there is reported (`denials_of_makes`): properties, fields,
methods that are not called, and called methods that are no extensions. Of an extension method it is
the host that counts: one of an unlisted host is reported as an extension, and one of a listed host
is not reported, even where the method itself is denied (`unreported_listedExtension`).

The checks report on the node that stands in the place of an access, and on the invocation of a
call.
-/

namespace Portability

namespace PassContext

open Inspection (mem_blameIf_faults mem_require_faults)

variable {context : PassContext}

/-! ### What a visit reports -/

/-- What an inspection finds is reported when it is settled. -/
theorem mem_diagnostics_settle {inspection : Inspection Unit} {fault : Fault}
    (h : fault ∈ inspection.faults) (s : PassState) :
    context.diagnostic fault ∈ ((context.settle inspection).run s).2.diagnostics := by
  rw [run_settle]
  refine Array.mem_def.mpr ?_
  rw [Array.toList_appendList]
  exact List.mem_append_right _ (List.mem_map_of_mem h)

/-- The visit of a member access reports what is found of it on the node that answers. -/
theorem mem_diagnostics_memberAccess {visit : Visit} {expression name : NodeId}
    (hdata : visit.data? = some (.memberAccess expression name)) {fault : Fault}
    (h : fault ∈ (context.checkMemberAccess visit.node (visit.outcome context).1
      visit.isCallee).faults) :
    context.diagnostic fault ∈ (visit.outcome context).2.diagnostics := by
  obtain ⟨levels, hlevels, hnode⟩ := Visit.exists_levels_of_data? hdata
  rw [Visit.outcome, hlevels, run_visitTo_of_data? _ hnode] at h ⊢
  exact mem_diagnostics_settle h _

/-- The visit of an invocation reports what is found of the call. -/
theorem mem_diagnostics_invocation {visit : Visit} {callee : NodeId} {arguments : List NodeId}
    (hdata : visit.data? = some (.invocation callee arguments)) {fault : Fault}
    (h : fault ∈ (context.checkAfter visit.state.arena visit.node (.invocation callee arguments)
      visit.isCallee).faults) :
    context.diagnostic fault ∈ (visit.outcome context).2.diagnostics := by
  obtain ⟨levels, hlevels, hnode⟩ := Visit.exists_levels_of_data? hdata
  rw [Visit.outcome, hlevels, run_visitTo_of_data? _ hnode, visitNode,
    run_visitInvocation _ _ _ _ _ visit.isCallee]
  exact mem_diagnostics_settle h _

/-! ### What is found of denied uses -/

section

variable {id reportOn : NodeId} {isCallee : Bool} {symbol : SymbolId}
  (hsymbol : context.model.symbolOf id = some symbol)

include hsymbol

/-- A denied property of another assembly is a fault of its access. -/
theorem mem_checkMemberAccess_property {member : MemberSymbol}
    (hmember : context.model.symbols.get? symbol = some (.property member))
    (hexternal : context.judge.isExternal symbol) (hdenied : context.judge.deniesProperty symbol) :
    { node := reportOn, violation := .property (context.model.symbols.memberName symbol) } ∈
      (context.checkMemberAccess id reportOn isCallee).faults := by
  simp only [checkMemberAccess, hsymbol, hmember, hexternal, if_true, Inspection.bind_faults]
  exact List.mem_append_left _ (mem_blameIf_faults.mpr ⟨hdenied, rfl⟩)

/-- A denied field of another assembly is a fault of its access. -/
theorem mem_checkMemberAccess_field {member : MemberSymbol}
    (hmember : context.model.symbols.get? symbol = some (.field member))
    (hexternal : context.judge.isExternal symbol) (hdenied : context.judge.deniesField symbol) :
    { node := reportOn, violation := .field (context.model.symbols.memberName symbol) } ∈
      (context.checkMemberAccess id reportOn isCallee).faults := by
  simp only [checkMemberAccess, hsymbol, hmember, hexternal, if_true, Inspection.bind_faults]
  exact List.mem_append_left _ (mem_blameIf_faults.mpr ⟨hdenied, rfl⟩)

/-- A denied method of another assembly is a fault of its access, unless it is called there. -/
theorem mem_checkMemberAccess_method {method : MethodSymbol}
    (hmethod : context.model.symbols.get? symbol = some (.method method))
    (hcallee : isCallee = false) (hexternal : context.judge.isExternal method.containingType)
    (hdenied : context.judge.deniesMethod symbol) :
    { node := reportOn, violation := .method (context.model.symbols.memberName symbol) } ∈
      (context.checkMemberAccess id reportOn isCallee).faults := by
  simp only [checkMemberAccess, hsymbol, hmethod, hexternal, hcallee, Bool.not_false, Bool.and_self,
    if_true]
  exact mem_blameIf_faults.mpr ⟨hdenied, rfl⟩

end

section

variable {id : NodeId} {symbol : SymbolId} {method : MethodSymbol}

/-- What is found of a callee is found of the call of an external method. -/
theorem checkCallee_faults_subset {callee : NodeId}
    (hcalled : context.calledMethod? id callee = some symbol)
    (hmethod : context.model.symbols.method? symbol = some method)
    (hexternal : context.judge.isExternal symbol) (arena : NodeArena) (arguments : List NodeId)
    (isCallee : Bool) :
    (context.checkCallee id symbol method).faults ⊆
      (context.checkAfter arena id (.invocation callee arguments) isCallee).faults := by
  simp only [checkAfter, plannedCall?, hcalled, Option.map_some, checkInvocation, hmethod,
    hexternal, if_true, Inspection.bind_faults]
  exact List.subset_append_left _ _

/-- A denied method is a fault of its call, unless it is an extension method. -/
theorem mem_checkCallee_method (hextension : method.isExtension = false)
    (hdenied : context.judge.deniesMethod symbol) :
    { node := id, violation := .method (context.model.symbols.memberName symbol) } ∈
      (context.checkCallee id symbol method).faults := by
  simp only [checkCallee, hextension, Bool.false_eq_true, if_false]
  exact mem_blameIf_faults.mpr ⟨hdenied, rfl⟩

/-- An extension method is a fault of its call if its host is not listed. -/
theorem mem_checkCallee_extension (hextension : method.isExtension)
    (hunlisted : (context.judge.allowsExtension symbol).answer = false) :
    { node := id, violation := .extensionMethod (context.model.symbols.memberName symbol) } ∈
      (context.checkCallee id symbol method).faults := by
  simp only [checkCallee, hextension, if_true]
  exact mem_require_faults.mpr ⟨hunlisted, rfl⟩

/-- The callee is found no fault with if it is an extension method of a listed host. -/
theorem checkCallee_faults_eq_nil (hextension : method.isExtension)
    (hlisted : (context.judge.allowsExtension symbol).answer) :
    (context.checkCallee id symbol method).faults = [] := by
  simp only [checkCallee, hextension, if_true, Inspection.require, Inspection.unlessAllowed_faults,
    hlisted]

end

/-! ### What a run reports of denied uses -/

/-- **Denied uses are reported.** Whichever visit a run makes of a member access or an invocation, a
denied use of external code there is among the diagnostics of the run: a property with the code
2002, a field with 2003, and a method that is not called or is no extension with 2004. A called
extension method is reported with the code 3001 where its host is not listed. Where it is listed,
nothing is found of the callee, denied or not. -/
theorem denials_of_makes {misses : MissLog} {arena : NodeArena} {root : NodeId} {visit : Visit}
    (h : context.Makes (.ofRoot misses arena root) visit) :
    let symbols := context.model.symbols
    let judge := context.judge
    let reported := (context.runFrom misses arena root).2.diagnostics
    let answer := (visit.outcome context).1
    (∀ expression name symbol, visit.data? = some (.memberAccess expression name) →
      context.model.symbolOf visit.node = some symbol →
      (∀ member, symbols.get? symbol = some (.property member) → judge.isExternal symbol →
        judge.deniesProperty symbol →
        Diagnostic.ofCode context.file answer 2002 [symbols.memberName symbol] ∈ reported) ∧
      (∀ member, symbols.get? symbol = some (.field member) → judge.isExternal symbol →
        judge.deniesField symbol →
        Diagnostic.ofCode context.file answer 2003 [symbols.memberName symbol] ∈ reported) ∧
      ∀ method, symbols.get? symbol = some (.method method) → visit.isCallee = false →
        judge.isExternal method.containingType → judge.deniesMethod symbol →
        Diagnostic.ofCode context.file answer 2004 [symbols.memberName symbol] ∈ reported) ∧
    ∀ callee arguments symbol method, visit.data? = some (.invocation callee arguments) →
      context.calledMethod? visit.node callee = some symbol →
      symbols.method? symbol = some method → judge.isExternal symbol →
      (method.isExtension = false → judge.deniesMethod symbol →
        Diagnostic.ofCode context.file visit.node 2004 [symbols.memberName symbol] ∈ reported) ∧
      (method.isExtension → (judge.allowsExtension symbol).answer = false →
        Diagnostic.ofCode context.file visit.node 3001 [symbols.memberName symbol] ∈ reported) ∧
      (method.isExtension → (judge.allowsExtension symbol).answer →
        (context.checkCallee visit.node symbol method).faults = []) := by
  intro symbols judge reported answer
  refine ⟨?_, ?_⟩
  · intro expression name symbol hdata hsymbol
    -- what the check of one visit faults, the whole run reports
    have hreported : ∀ fault ∈
        (context.checkMemberAccess visit.node answer visit.isCallee).faults,
        context.diagnostic fault ∈ reported :=
      fun fault hfault => mem_diagnostics_of_makes h (mem_diagnostics_memberAccess hdata hfault)
    refine ⟨fun member hmember hexternal hdenied => ?_, fun member hmember hexternal hdenied => ?_,
      fun method hmethod hcallee hexternal hdenied => ?_⟩
    · exact hreported _ (mem_checkMemberAccess_property hsymbol hmember hexternal hdenied)
    · exact hreported _ (mem_checkMemberAccess_field hsymbol hmember hexternal hdenied)
    · exact hreported _ (mem_checkMemberAccess_method hsymbol hmethod hcallee hexternal hdenied)
  · intro callee arguments symbol method hdata hcalled hmethod hexternal
    have hreported : ∀ fault ∈ (context.checkCallee visit.node symbol method).faults,
        context.diagnostic fault ∈ reported := by
      intro fault hfault
      have hfound := checkCallee_faults_subset hcalled hmethod hexternal visit.state.arena arguments
        visit.isCallee hfault
      exact mem_diagnostics_of_makes h (mem_diagnostics_invocation hdata hfound)
    refine ⟨fun hextension hdenied => ?_, fun hextension hunlisted => ?_,
      fun hextension hlisted => checkCallee_faults_eq_nil hextension hlisted⟩
    · exact hreported _ (mem_checkCallee_method hextension hdenied)
    · exact hreported _ (mem_checkCallee_extension hextension hunlisted)

/-- An external type with a property and an extension method, which are denied. The node with the
index 1 uses the property, and the one with the index 4 calls the method. -/
def deniedPaint (listed : List Rule) : PassContext where
  file := "Unit.cs"
  model := .ofProgram
    { assembly := ⟨0⟩
      symbols :=
        { assemblies := #["Game", "Library"]
          symbols := #[
            .type { name := "Paint", kind := .classType, assembly := ⟨1⟩ },
            .property { name := "Color", containingType := ⟨0⟩, assembly := ⟨1⟩, type := ⟨0⟩ },
            .method { name := "Tint", containingType := ⟨0⟩, assembly := ⟨1⟩,
                      isExtension := true }] } }
    { bindings := [{ node := .ofIndex 2, symbol := some ⟨1⟩ },
                   { node := .ofIndex 4, symbol := some ⟨2⟩ }] }
  policy := { rules := .deny .property "Paint.Color" :: .deny .method "Paint.Tint" :: listed }
  namespaces := {}

/-- The call `Tint(paint.Color)`. -/
def tintCall : NodeArena where
  nodes := #[
    { data := .identifierName "paint" },
    { data := .identifierName "Color" },
    { data := .memberAccess (.ofIndex 0) (.ofIndex 1) },
    { data := .identifierName "Tint" },
    { data := .invocation (.ofIndex 3) [.ofIndex 2] }]

/-- The visit of the argument of `tintCall`. -/
def tintArgument : Visit where
  levels := 499
  node := .ofIndex 2
  isCallee := false
  state := { arena := tintCall }

/-- Where the host is not listed, both the property below the call and the call are reported. -/
theorem denials_deniedPaint :
    let context := deniedPaint []
    let reported := (context.runFrom {} tintCall (.ofIndex 4)).2.diagnostics
    context.Makes (.ofRoot {} tintCall (.ofIndex 4)) tintArgument ∧
      Diagnostic.ofCode "Unit.cs" (.ofIndex 2) 2002 ["Paint.Color"] ∈ reported ∧
      Diagnostic.ofCode "Unit.cs" (.ofIndex 4) 3001 ["Paint.Tint"] ∈ reported := by
  intro context reported
  let root := Visit.ofRoot {} tintCall (.ofIndex 4)
  have hroot : context.Makes root root := .refl
  have hargument : context.Makes root tintArgument := .single (.tail _ (.head _))
  obtain ⟨haccess, -⟩ := denials_of_makes hargument
  obtain ⟨-, hcall⟩ := denials_of_makes hroot
  obtain ⟨hproperty, -⟩ := haccess (.ofIndex 0) (.ofIndex 1) ⟨1⟩ rfl rfl
  obtain ⟨-, hextension, -⟩ :=
    hcall (.ofIndex 3) [.ofIndex 2] ⟨2⟩ _ rfl rfl rfl (by decide +kernel)
  exact ⟨hargument, hproperty _ rfl (by decide +kernel) (by decide +kernel),
    hextension rfl (by decide +kernel)⟩

/-- An extension method that is denied goes unreported where its host is listed, though it is
external and called. -/
theorem unreported_listedExtension :
    let context := deniedPaint [.allow .extension "Paint"]
    let visit := Visit.ofRoot {} tintCall (.ofIndex 4)
    context.Makes visit visit ∧ visit.data? = some (.invocation (.ofIndex 3) [.ofIndex 2]) ∧
      context.calledMethod? (.ofIndex 4) (.ofIndex 3) = some ⟨2⟩ ∧
      context.judge.isExternal ⟨2⟩ ∧ context.judge.deniesMethod ⟨2⟩ ∧
      ∀ diagnostic ∈ (context.runFrom {} tintCall (.ofIndex 4)).2.diagnostics,
        diagnostic.code ≠ 2004 ∧ diagnostic.code ≠ 3001 := by
  refine ⟨.refl, rfl, rfl, by decide +kernel, by decide +kernel, by decide +kernel⟩

end PassContext

end Portability
