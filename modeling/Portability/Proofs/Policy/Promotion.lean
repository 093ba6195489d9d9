import Portability.Proofs.Json.Record
import Portability.Proofs.Policy.MissReport
import Portability.Proofs.Policy.Question
import Portability.Proofs.Text.Dotted

/-!
# Promotion of misses

A report can be turned into a rule document (`MissReport.toRuleDocument`). The document is read like
any other, entry by entry, so what it is worth is a matter of what its entries are read as:

* `RuleSection.mem_rules_config`: a section that was written for a list makes the rules of those of
  its entries that fit the list,
* `MissReport.rule_mem_toRuleDocument`: the document makes the rule that each miss is the lack of,
* `RulePolicy.relaxes_followedBy`: it makes no rule that denies, so a document that is followed by
  it relaxes the policy,
* `MissReport.policy_toRuleDocument`: on its own the document is a policy that allows what was
  missed and nothing else.
-/

namespace Portability

/-! ### Reading what was written -/

/-- An entry of a rule document is read back. -/
theorem RuleEntry.read_toJson (entry : RuleEntry) : read entry.toJson = .ok entry := by
  let record : Json.Record :=
    ⟨[("id", .string entry.id), ("args", Json.strings entry.arguments)]⟩
  have hrecord : Json.readRecord ["id", "args"] entry.toJson = .ok record := by
    simp [Json.readRecord, toJson, record]
  have hid : record.required "id" Json.readText = .ok entry.id := rfl
  have harguments : record.list "args" Json.readText = .ok entry.arguments :=
    Json.readList_strings entry.arguments
  simp only [read, hrecord, bind, Except.bind, hid, harguments]
  rfl

/-- A list is found by its key. -/
theorem RuleList.ofKey?_key (list : RuleList) : ofKey? list.key = some list := by
  cases list with
  | conversions => decide
  | legal list => cases list <;> decide
  | denied list => cases list <;> decide

/-- A key finds the list that it is the key of, and no other. -/
theorem RuleList.ofKey?_eq_some_iff {list : RuleList} {key : String} :
    ofKey? key = some list ↔ key = list.key := by
  constructor
  · intro hfound
    rw [ofKey?] at hfound
    have hmatches := List.find?_some hfound
    exact (beq_iff_eq.mp hmatches).symm
  · rintro rfl
    exact list.ofKey?_key

/-- A list of allowed names or conversions makes no rule that denies. -/
theorem RuleList.isAllowance_of_rule? {list : RuleList} {arguments : List String} {rule : Rule}
    (hrule : list.rule? arguments = some rule) (hlist : ∀ denied, list ≠ .denied denied) :
    rule.IsAllowance := by
  cases list with
  | legal list =>
      obtain ⟨name, -, rfl⟩ := Option.map_eq_some_iff.mp hrule
      exact trivial
  | conversions =>
      match arguments, hrule with
      | source :: target :: _, hrule =>
          obtain rfl := Option.some.inj hrule
          exact trivial
  | denied list => exact absurd rfl (hlist list)

/-- Whether an entry has the tag of a list and arguments enough for it. -/
def RuleEntry.Fits (entry : RuleEntry) (list : RuleList) : Prop :=
  entry.id = list.entryTag ∧ list.arity ≤ entry.arguments.length

namespace RuleSection

variable {list : RuleList} {rule : Rule}

/-- The entries of a section for a list are those that can be read and fit it. -/
theorem mem_entriesFor {ruleSection : RuleSection} {entry : RuleEntry} :
    entry ∈ ruleSection.entriesFor list ↔
      (∃ value ∈ ruleSection.entries, RuleEntry.read value = .ok entry) ∧ entry.Fits list := by
  have hentry (value : Json) : entryFor? list value = some entry ↔
      RuleEntry.read value = .ok entry ∧ entry.Fits list := by
    rw [entryFor?]
    cases RuleEntry.read value with
    | error e => simp
    | ok other =>
        simp only [Except.ok.injEq, Option.ite_none_right_eq_some, Option.some_inj]
        constructor
        · rintro ⟨hfits, rfl⟩
          exact ⟨rfl, hfits⟩
        · rintro ⟨rfl, hfits⟩
          exact ⟨hfits, rfl⟩
  simp only [entriesFor, List.mem_filterMap, hentry, ← and_assoc, exists_and_right]

/-- The rules of a section are those that its entries make for the list that it fills. -/
theorem mem_rules {ruleSection : RuleSection} :
    rule ∈ ruleSection.rules ↔ ∃ list, ruleSection.list? = some list ∧
      ∃ entry ∈ ruleSection.entriesFor list, list.rule? entry.arguments = some rule := by
  rw [rules]
  cases ruleSection.list? with
  | none => simp
  | some list => simp [List.mem_filterMap]

/-- A section that was written for a list makes the rules of those entries that fit the list. -/
theorem mem_rules_config {entries : List RuleEntry} :
    rule ∈ (config list entries).rules ↔
      ∃ entry ∈ entries, entry.Fits list ∧ list.rule? entry.arguments = some rule := by
  have hlist : (config list entries).list? = some list := by
    simp [list?, config, RuleList.ofKey?_key]
  rw [mem_rules]
  constructor
  · rintro ⟨other, hother, entry, hentry, hrule⟩
    obtain rfl := Option.some.inj (hlist.symm.trans hother)
    obtain ⟨⟨value, hvalue, hread⟩, hfits⟩ := mem_entriesFor.mp hentry
    obtain ⟨written, hwritten, rfl⟩ := List.mem_map.mp hvalue
    obtain rfl := Except.ok.inj ((RuleEntry.read_toJson written).symm.trans hread)
    exact ⟨written, hwritten, hfits, hrule⟩
  · rintro ⟨entry, hentry, hfits, hrule⟩
    have hwritten : entry.toJson ∈ (config list entries).entries := List.mem_map_of_mem hentry
    exact ⟨list, hlist, entry,
      mem_entriesFor.mpr ⟨⟨_, hwritten, RuleEntry.read_toJson entry⟩, hfits⟩, hrule⟩

end RuleSection

namespace MissReport

/-- The rules of the document that a report is turned into. -/
theorem mem_rules_toRuleDocument {report : MissReport} {rule : Rule} :
    rule ∈ report.toRuleDocument.rules ↔
      ∃ list entries, (list, entries) ∈ report.promoted ∧
        ∃ entry ∈ entries, entry.Fits list ∧ list.rule? entry.arguments = some rule := by
  simp only [RuleDocument.rules, toRuleDocument, List.mem_flatMap, List.mem_map, List.mem_filter]
  constructor
  · rintro ⟨_, ⟨⟨list, entries⟩, ⟨hpromoted, -⟩, rfl⟩, hrule⟩
    exact ⟨list, entries, hpromoted, RuleSection.mem_rules_config.mp hrule⟩
  · rintro ⟨list, entries, hpromoted, entry, hentry, hrule⟩
    refine ⟨_, ⟨(list, entries), ⟨hpromoted, ?_⟩, rfl⟩,
      RuleSection.mem_rules_config.mpr ⟨entry, hentry, hrule⟩⟩
    cases entries with
    | nil => exact absurd hentry List.not_mem_nil
    | cons _ _ => rfl

/-- A report is turned into rules that allow. -/
theorem isAllowance_of_mem_toRuleDocument {report : MissReport} {rule : Rule}
    (h : rule ∈ report.toRuleDocument.rules) : rule.IsAllowance := by
  obtain ⟨list, entries, hpromoted, entry, -, -, hrule⟩ := mem_rules_toRuleDocument.mp h
  refine RuleList.isAllowance_of_rule? hrule fun denied hlist => ?_
  simp [promoted, hlist] at hpromoted

/-- Sorting keeps what there is. -/
theorem mem_sortedTexts {texts : List String} {text : String} :
    text ∈ sortedTexts texts ↔ text ∈ texts := by
  simp [sortedTexts]

/-- The entries for names of types make a rule for each of them. -/
theorem allow_mem_toRuleDocument {report : MissReport} {list : LegalList} {names : List String}
    (hlist : list ≠ .genericMethod)
    (hpromoted : (RuleList.legal list, typeEntries names) ∈ report.promoted) {name : String}
    (hname : name ∈ names) : .allow list name ∈ report.toRuleDocument.rules := by
  refine mem_rules_toRuleDocument.mpr ⟨_, _, hpromoted, ⟨"type", [name]⟩, ?_, ?_, ?_⟩
  · exact List.mem_map.mpr ⟨name, hname, rfl⟩
  · cases list <;> first | exact ⟨rfl, Nat.le_refl 1⟩ | exact absurd rfl hlist
  · cases list <;> first | rfl | exact absurd rfl hlist

/-- **Misses are promoted.** The document that a report is turned into makes the rule that a miss on
the report is the lack of, where an entry can make it. -/
theorem rule_mem_toRuleDocument {report : MissReport} {miss : Miss} (h : report.Holds miss)
    (hpromotable : miss.IsPromotable) : miss.rule ∈ report.toRuleDocument.rules := by
  cases miss with
  | conversion source target =>
      refine mem_rules_toRuleDocument.mpr ⟨.conversions, conversionEntries report.conversions,
        by simp [promoted], ⟨"convertion", [source, target]⟩, ?_, ⟨rfl, Nat.le_refl 2⟩, rfl⟩
      exact List.mem_map.mpr ⟨(source, target), h, rfl⟩
  | name bucket missed =>
      cases bucket with
      | genericType =>
          refine allow_mem_toRuleDocument (by decide) (.head _) ?_
          exact mem_sortedTexts.mpr (List.mem_append_left _ h)
      | memberHost =>
          refine allow_mem_toRuleDocument (by decide) (.head _) ?_
          exact mem_sortedTexts.mpr (List.mem_append_right _ h)
      | parameterGenericType =>
          exact allow_mem_toRuleDocument (by decide)
            (by simp [promoted, names, MissBucket.list]) h
      | extension =>
          exact allow_mem_toRuleDocument (by decide)
            (by simp [promoted, names, MissBucket.list]) h
      | genericMethod =>
          -- The name is cut at its last dot, and the rule joins the parts again.
          obtain ⟨⟨type, method⟩, hcut⟩ := Option.isSome_iff_exists.mp hpromotable
          refine mem_rules_toRuleDocument.mpr ⟨.legal .genericMethod,
            methodEntries report.genericMethods, by simp [promoted],
            ⟨"method", [type, method]⟩, ?_, ⟨rfl, Nat.le_refl 2⟩, ?_⟩
          · exact List.mem_filterMap.mpr ⟨missed, h, by rw [hcut]; rfl⟩
          · rw [Miss.rule, ← Dotted.append_of_splitLast? hcut]
            rfl

/-- The entries for names of types make no other rules than for these names. -/
theorem exists_name_of_mem_typeEntries {list : LegalList} {names : List String} {entry : RuleEntry}
    {rule : Rule} (hentry : entry ∈ typeEntries names)
    (hrule : (RuleList.legal list).rule? entry.arguments = some rule) :
    ∃ name ∈ names, .allow list name = rule := by
  obtain ⟨name, hname, rfl⟩ := List.mem_map.mp hentry
  refine ⟨name, hname, ?_⟩
  obtain ⟨spelled, hspelled, rfl⟩ := Option.map_eq_some_iff.mp hrule
  cases list with
  | genericMethod => cases hspelled
  | _ => exact congrArg _ (Option.some.inj hspelled)

/-- Every rule that a report is turned into is one that a miss on the report is the lack of. -/
theorem exists_miss_of_mem_toRuleDocument {report : MissReport} {rule : Rule}
    (h : rule ∈ report.toRuleDocument.rules) :
    ∃ miss, report.Holds miss ∧ miss.IsPromotable ∧ miss.rule = rule := by
  obtain ⟨list, entries, hpromoted, entry, hentry, -, hrule⟩ := mem_rules_toRuleDocument.mp h
  simp only [promoted, List.mem_cons, List.not_mem_nil, or_false, Prod.mk.injEq] at hpromoted
  rcases hpromoted with ⟨rfl, rfl⟩ | ⟨rfl, rfl⟩ | ⟨rfl, rfl⟩ | ⟨rfl, rfl⟩ | ⟨rfl, rfl⟩
  · obtain ⟨name, hname, rfl⟩ := exists_name_of_mem_typeEntries hentry hrule
    rcases List.mem_append.mp (mem_sortedTexts.mp hname) with hname | hname
    · exact ⟨.name .genericType name, hname, trivial, rfl⟩
    · exact ⟨.name .memberHost name, hname, trivial, rfl⟩
  · obtain ⟨missed, hmissed, hmade⟩ := List.mem_filterMap.mp hentry
    obtain ⟨⟨type, method⟩, hcut, rfl⟩ := Option.map_eq_some_iff.mp hmade
    refine ⟨.name .genericMethod missed, hmissed, Option.isSome_of_eq_some hcut, ?_⟩
    rw [Miss.rule, ← Dotted.append_of_splitLast? hcut]
    exact Option.some.inj hrule
  · obtain ⟨name, hname, rfl⟩ := exists_name_of_mem_typeEntries hentry hrule
    exact ⟨.name .parameterGenericType name, hname, trivial, rfl⟩
  · obtain ⟨name, hname, rfl⟩ := exists_name_of_mem_typeEntries hentry hrule
    exact ⟨.name .extension name, hname, trivial, rfl⟩
  · obtain ⟨⟨source, target⟩, hpair, rfl⟩ := List.mem_map.mp hentry
    exact ⟨.conversion source target, hpair, trivial, Option.some.inj hrule⟩

end MissReport

/-! ### Documents that are followed by others -/

/-- The document with the sections of another one after its own. -/
def RuleDocument.followedBy (document other : RuleDocument) : RuleDocument where
  sections := document.sections ++ other.sections

/-- Documents one after the other have the rules of both. -/
theorem RuleDocument.mem_rules_followedBy {document other : RuleDocument} {rule : Rule} :
    rule ∈ (document.followedBy other).rules ↔ rule ∈ document.rules ∨ rule ∈ other.rules := by
  simp only [rules, followedBy, List.flatMap_append, List.mem_append]

namespace RulePolicy

/-- A rule is in force under the policy of a document if the document makes it. -/
theorem has_ofDocument {document : RuleDocument} {rule : Rule} :
    (ofDocument document).has rule ↔ rule ∈ document.rules := by
  simp [has, ofDocument]

/-- Rules that allow relax a policy. -/
theorem relaxes_followedBy {document other : RuleDocument}
    (h : ∀ rule ∈ other.rules, rule.IsAllowance) :
    (ofDocument (document.followedBy other)).Relaxes (ofDocument document) where
  allows list name hallowed :=
    has_ofDocument.mpr (RuleDocument.mem_rules_followedBy.mpr (.inl (has_ofDocument.mp hallowed)))
  allowsConversion source target hallowed :=
    has_ofDocument.mpr (RuleDocument.mem_rules_followedBy.mpr (.inl (has_ofDocument.mp hallowed)))
  denies list name hdenied := by
    rcases RuleDocument.mem_rules_followedBy.mp (has_ofDocument.mp hdenied) with hrule | hrule
    · exact has_ofDocument.mpr hrule
    · exact (h _ hrule).elim

end RulePolicy

/-! ### The policy of a report -/

namespace MissReport

variable {report : MissReport}

/-- The policy of a report allows the names of those groups that lack the list. -/
theorem allows_toRuleDocument_iff {list : LegalList} {name : String} :
    (RulePolicy.ofDocument report.toRuleDocument).allows list name ↔
      ∃ bucket : MissBucket, bucket.list = list ∧ name ∈ report.names bucket ∧
        (bucket = .genericMethod → '.' ∈ name.toList) := by
  rw [RulePolicy.allows, RulePolicy.has_ofDocument]
  constructor
  · intro h
    obtain ⟨miss, hholds, hpromotable, hrule⟩ := exists_miss_of_mem_toRuleDocument h
    cases miss with
    | conversion source target => cases hrule
    | name bucket missed =>
        obtain ⟨hlist, rfl⟩ := Rule.allow.inj hrule
        refine ⟨bucket, hlist, hholds, ?_⟩
        rintro rfl
        exact Dotted.isSome_splitLast?_iff.mp hpromotable
  · rintro ⟨bucket, rfl, hname, hdot⟩
    have hholds : report.Holds (.name bucket name) := hname
    refine rule_mem_toRuleDocument hholds ?_
    cases bucket with
    | genericMethod => exact Dotted.isSome_splitLast?_iff.mpr (hdot rfl)
    | _ => trivial

/-- A promoted report allows the conversions that it presents, and no others. -/
theorem allowsConversion_toRuleDocument_iff {source target : String} :
    (RulePolicy.ofDocument report.toRuleDocument).allowsConversion source target ↔
      (source, target) ∈ report.conversions := by
  rw [RulePolicy.allowsConversion, RulePolicy.has_ofDocument]
  constructor
  · intro h
    obtain ⟨miss, hholds, -, hrule⟩ := exists_miss_of_mem_toRuleDocument h
    cases miss with
    | name bucket missed => cases hrule
    | conversion _ _ =>
        obtain ⟨rfl, rfl⟩ := Rule.allowConversion.inj hrule
        exact hholds
  · intro h
    have hholds : report.Holds (.conversion source target) := h
    exact rule_mem_toRuleDocument hholds trivial

/-- A promoted report denies nothing. -/
theorem denies_toRuleDocument (list : DenyList) (name : String) :
    (RulePolicy.ofDocument report.toRuleDocument).denies list name = false :=
  Bool.eq_false_iff.mpr fun hdenied =>
    isAllowance_of_mem_toRuleDocument (RulePolicy.has_ofDocument.mp hdenied)

/-- No section of the document of a report is empty. -/
theorem entries_ne_nil_of_mem_toRuleDocument {ruleSection : RuleSection}
    (h : ruleSection ∈ report.toRuleDocument.sections) : ruleSection.entries ≠ [] := by
  obtain ⟨⟨list, entries⟩, hkept, rfl⟩ := List.mem_map.mp h
  have hentries : entries ≠ [] := by simpa using (List.mem_filter.mp hkept).2
  exact fun hnil => hentries (List.map_eq_nil_iff.mp hnil)

/-- There are five groups of names. -/
theorem exists_bucket_iff {P : MissBucket → Prop} :
    (∃ bucket, P bucket) ↔ P .genericType ∨ P .genericMethod ∨ P .parameterGenericType ∨
      P .extension ∨ P .memberHost := by
  constructor
  · rintro ⟨bucket, h⟩
    cases bucket <;> simp [h]
  · rintro (h | h | h | h | h) <;> exact ⟨_, h⟩

/-- **A promoted report says what was missed.** On the lists of allowed names are the names missed
in the groups of each list, methods only if they have a dot, and the allowed conversions are those
missed. Nothing is denied, and no section of the document is without entries. -/
theorem policy_toRuleDocument (report : MissReport) :
    let document := report.toRuleDocument
    let policy := RulePolicy.ofDocument document
    (∀ name, policy.allows .genericType name ↔
      name ∈ report.genericTypes ∨ name ∈ report.memberHosts) ∧
    (∀ name, policy.allows .genericMethod name ↔
      name ∈ report.genericMethods ∧ '.' ∈ name.toList) ∧
    (∀ name, policy.allows .parameterGenericType name ↔ name ∈ report.parameterGenericTypes) ∧
    (∀ name, policy.allows .extension name ↔ name ∈ report.extensions) ∧
    (∀ source target, policy.allowsConversion source target ↔
      (source, target) ∈ report.conversions) ∧
    (∀ list name, policy.denies list name = false) ∧
    ∀ ruleSection ∈ document.sections, ruleSection.entries ≠ [] := by
  refine ⟨?_, ?_, ?_, ?_, fun _ _ => allowsConversion_toRuleDocument_iff, denies_toRuleDocument,
    fun _ => entries_ne_nil_of_mem_toRuleDocument⟩
  all_goals
    intro name
    simp [allows_toRuleDocument_iff, exists_bucket_iff, MissBucket.list, names]

end MissReport

end Portability
