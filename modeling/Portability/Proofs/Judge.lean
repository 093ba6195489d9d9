import Mathlib.Tactic.SplitIfs
import Portability.Judge
import Portability.Proofs.Policy.Question
import Portability.Proofs.Text.Dotted

/-!
# Judges and their policies

How a symbol is judged is settled by the model up to the questions that are put to the policy. So
every judgement is an `IsQuestion` (`isQuestion_allowsType`, `isQuestion_allowsConversion` and so
on), whichever policy it is put to.

A judgement in the negative mostly leaves a miss behind. The exception are types: `allowsType`
refuses a denied type without a miss (`missesIfRefused_or_deniesCore`), since no list of allowed
names is asked for a type that is not generic.
-/

namespace Portability

namespace SymbolArena

/-- Whether a symbol is a type without type parameters. -/
def IsPlainType (symbols : SymbolArena) (id : SymbolId) : Prop :=
  ∃ type, symbols.type? id = some type ∧ type.isGeneric = false

/-- The canonical name of a type without type parameters is all that diagnostics show of it. -/
theorem IsPlainType.displayName_eq {symbols : SymbolArena} {id : SymbolId}
    (h : symbols.IsPlainType id) : symbols.displayName id = symbols.canonicalName id := by
  obtain ⟨type, htype, hgeneric⟩ := h
  have hparameters : type.typeParameters.isEmpty = true := by
    simpa only [TypeSymbol.isGeneric, Bool.not_eq_false'] using hgeneric
  simp only [displayName, extendedName, type?_eq_some.mp htype, withInstantiation, hparameters,
    if_true]

end SymbolArena

namespace Judge

variable (model : SemanticModel)

/-- Whether a symbol is external does not depend on the policy. -/
theorem exists_isExternal_eq (id : SymbolId) :
    ∃ external, ∀ policy, (Judge.mk model policy).isExternal id = external :=
  ⟨(Judge.mk model {}).isExternal id, fun _ => rfl⟩

/-! ### Types -/

/-- Looking up a generic type is a question to the policy. -/
theorem isQuestion_lookupGeneric (id : SymbolId) (position : TypePosition) :
    IsQuestion fun policy => (Judge.mk model policy).lookupGeneric id position := by
  refine IsQuestion.lookupInto ?_ (model.symbols.canonicalName id)
    (some (model.symbols.displayName id)) ?_
  · cases position <;> rfl
  · cases position <;> trivial

/-- What is asked about a type is asked about its innermost element type: nothing, whether a list
allows it, or, of a type without type parameters, whether it is denied. -/
theorem allowsTypeTo_cases (position : TypePosition) (fuel : Nat) (id : SymbolId) :
    let core := model.symbols.coreFrom fuel id
    (∀ policy, (Judge.mk model policy).allowsTypeTo position fuel id = pure true) ∨
      (∀ policy, (Judge.mk model policy).allowsTypeTo position fuel id =
        (Judge.mk model policy).lookupGeneric core position) ∨
      model.symbols.IsPlainType core ∧
        ∀ policy, (Judge.mk model policy).allowsTypeTo position fuel id =
          pure (!(Judge.mk model policy).deniesType core) := by
  induction fuel generalizing id with
  | zero => exact .inl fun _ => rfl
  | succ fuel ih =>
      cases htype : model.symbols.type? id with
      | none => exact .inl fun policy => by simp only [allowsTypeTo, symbols, htype]
      | some type =>
          cases hcontainer : type.kind.isContainer with
          | true =>
              cases helement : type.elementType with
              | none =>
                  exact .inl fun policy => by
                    simp only [allowsTypeTo, symbols, htype, hcontainer, helement, if_true]
              | some element =>
                  simpa only [SymbolArena.coreFrom, allowsTypeTo, symbols, htype, hcontainer,
                    helement, if_true] using ih element
          | false =>
              obtain ⟨external, hexternal⟩ := exists_isExternal_eq model id
              simp only [SymbolArena.coreFrom, allowsTypeTo, symbols, htype, hcontainer, hexternal,
                Bool.false_eq_true, if_false]
              by_cases hfree : type.isDelegate || type.kind == .typeParameter || !external
              · exact .inl fun policy => if_pos hfree
              · cases hgeneric : type.isGeneric with
                | true => exact .inr (.inl fun policy => by simp only [if_neg hfree, if_true])
                | false =>
                    refine .inr (.inr ⟨⟨type, htype, hgeneric⟩, fun policy => ?_⟩)
                    simp only [if_neg hfree, Bool.false_eq_true, if_false]

/-- A type is allowed unasked, or its core is looked up, or it is asked whether the core is denied:
the same under every policy. -/
theorem allowsType_cases (id : SymbolId) (position : TypePosition) :
    let core := model.symbols.core id
    (∀ policy, (Judge.mk model policy).allowsType id position = pure true) ∨
      (∀ policy, (Judge.mk model policy).allowsType id position =
        (Judge.mk model policy).lookupGeneric core position) ∨
      model.symbols.IsPlainType core ∧
        ∀ policy, (Judge.mk model policy).allowsType id position =
          pure (!(Judge.mk model policy).deniesType core) :=
  allowsTypeTo_cases model position model.symbols.symbols.size id

/-- Whether a type may occur at a position is a question. -/
theorem isQuestion_allowsType (id : SymbolId) (position : TypePosition) :
    IsQuestion fun policy => (Judge.mk model policy).allowsType id position := by
  rcases allowsType_cases model id position with hfree | hlisted | ⟨-, hplain⟩
  · simpa only [hfree] using IsQuestion.known true
  · simpa only [hlisted] using isQuestion_lookupGeneric model _ position
  · simpa only [hplain, deniesType, symbols, List.any_cons, List.any_nil, Bool.or_false] using
      IsQuestion.undenied .type
        [model.symbols.canonicalName (model.symbols.core id),
          model.symbols.displayName (model.symbols.core id)]

/-- Whether the innermost element type of a type has no type parameters and is denied. -/
def DeniesCore (judge : Judge) (id : SymbolId) : Prop :=
  judge.symbols.IsPlainType (judge.symbols.core id) ∧
    judge.policy.denies .type (judge.symbols.canonicalName (judge.symbols.core id))

/-- A type is refused for a miss or because its innermost element type is denied. -/
theorem missesIfRefused_or_deniesCore (policy : RulePolicy) (id : SymbolId)
    (position : TypePosition) :
    ((Judge.mk model policy).allowsType id position).MissesIfRefused ∨
      (Judge.mk model policy).DeniesCore id := by
  rcases allowsType_cases model id position with hfree | hlisted | ⟨hplain, hdenied⟩
  · left
    rw [hfree]
    exact Checked.missesIfRefused_true
  · left
    rw [hlisted, lookupGeneric, RulePolicy.lookupInto_eq_anyOf]
    exact RulePolicy.missesIfRefused_anyOf policy _ _
  · cases hcanonical : policy.denies .type
        (model.symbols.canonicalName (model.symbols.core id)) with
    | true => exact .inr ⟨hplain, hcanonical⟩
    | false =>
        left
        have hallowed : (Judge.mk model policy).deniesType (model.symbols.core id) = false := by
          simp only [deniesType, symbols, hplain.displayName_eq, hcanonical, Bool.or_self]
        rw [hdenied, hallowed]
        exact Checked.missesIfRefused_true

/-- Whether the members of a type are exempt from checks is a question. -/
theorem isQuestion_isExemptHost (id : SymbolId) :
    IsQuestion fun policy => (Judge.mk model policy).isExemptHost id := by
  obtain ⟨external, hexternal⟩ := exists_isExternal_eq model id
  cases htype : model.symbols.type? id with
  | none => simpa only [isExemptHost, symbols, htype] using IsQuestion.known false
  | some type =>
      simp only [isExemptHost, symbols, htype, allowsGenericType, hexternal, if_true]
      refine IsQuestion.ite _ (.known true) (IsQuestion.ite _ ?_ (.known false))
      exact IsQuestion.ite _ (isQuestion_lookupGeneric model id .memberHost) (.known true)

/-! ### Members -/

/-- Whether an extension method is allowed is a question to the policy. -/
theorem isQuestion_allowsExtension (method : SymbolId) :
    IsQuestion fun policy => (Judge.mk model policy).allowsExtension method := by
  cases hhost : model.symbols.containingType? method with
  | none => simpa only [allowsExtension, symbols, hhost] using IsQuestion.known true
  | some host =>
      simpa only [allowsExtension, symbols, hhost] using
        IsQuestion.lookup .extension (model.symbols.canonicalName host) trivial

/-- A refused extension method is logged. -/
theorem missesIfRefused_allowsExtension (judge : Judge) (method : SymbolId) :
    (judge.allowsExtension method).MissesIfRefused := by
  unfold allowsExtension
  split
  · rw [RulePolicy.lookup, RulePolicy.lookupInto_eq_anyOf]
    exact RulePolicy.missesIfRefused_anyOf judge.policy _ _
  · exact Checked.missesIfRefused_true

/-- The key of a method has a dot. -/
theorem isSome_splitLast?_memberName {symbols : SymbolArena} {id : SymbolId}
    {method : MethodSymbol} (h : symbols.method? id = some method) :
    (Dotted.splitLast? (symbols.memberName id)).isSome := by
  simp only [SymbolArena.memberName, SymbolArena.method?_eq_some.mp h, Symbol.containingType,
    SymbolArena.memberKey, Symbol.name]
  exact Dotted.isSome_splitLast?_append _ _

/-- Whether a generic method is allowed is a question to the policy. -/
theorem isQuestion_allowsGenericMethod {id : SymbolId} {method : MethodSymbol}
    (h : model.symbols.method? id = some method) :
    IsQuestion fun policy => (Judge.mk model policy).allowsGenericMethod id :=
  IsQuestion.lookup .genericMethod (model.symbols.memberName id) (isSome_splitLast?_memberName h)

/-! ### Conversions -/

/-- A conversion is looked up, or allowed without a look at the policy. -/
theorem allowsConversion_cases (source target : SymbolId) :
    (∀ policy, (Judge.mk model policy).allowsConversion source target = pure true) ∨
      ∀ policy, (Judge.mk model policy).allowsConversion source target =
        (Judge.mk model policy).lookupConversion source target := by
  obtain ⟨externalSource, hsource⟩ := exists_isExternal_eq model source
  obtain ⟨externalTarget, htarget⟩ := exists_isExternal_eq model target
  by_cases hsame : source = target
  · exact .inl fun policy => by rw [allowsConversion, if_pos hsame]
  simp only [allowsConversion, if_neg hsame, symbols, isBoxedObject, isGenericOrLocal, hsource,
    htarget]
  cases model.symbols.type? source with
  | none => exact .inl fun _ => rfl
  | some src =>
      cases model.symbols.type? target with
      | none => exact .inl fun _ => rfl
      | some dst =>
          -- No condition mentions the policy, so each chooses for all policies at once.
          dsimp only
          split_ifs
          · exact .inr fun _ => rfl
          · exact .inr fun _ => rfl
          · exact .inl fun _ => rfl
          · exact .inr fun _ => rfl
          · exact .inl fun _ => rfl

/-- Whether a conversion is allowed is a question to the policy. -/
theorem isQuestion_allowsConversion (source target : SymbolId) :
    IsQuestion fun policy => (Judge.mk model policy).allowsConversion source target := by
  rcases allowsConversion_cases model source target with hfree | hlisted
  · simpa only [hfree] using IsQuestion.known true
  · simp only [hlisted]
    exact IsQuestion.lookupConversion (model.symbols.canonicalName source)
      ((Judge.mk model {}).extension? source) (model.symbols.canonicalName target)
      ((Judge.mk model {}).extension? target)

/-- A refused conversion is logged. -/
theorem missesIfRefused_allowsConversion (policy : RulePolicy) (source target : SymbolId) :
    ((Judge.mk model policy).allowsConversion source target).MissesIfRefused := by
  rcases allowsConversion_cases model source target with hfree | hlisted
  · rw [hfree]
    exact Checked.missesIfRefused_true
  · rw [hlisted, lookupConversion, RulePolicy.lookupConversion_eq_anyOf]
    exact RulePolicy.missesIfRefused_anyOf policy _ _

end Judge

end Portability
