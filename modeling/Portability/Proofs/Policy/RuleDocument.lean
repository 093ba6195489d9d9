import Mathlib.Data.List.Perm.Basic
import Mathlib.Logic.Relation
import Portability.Proofs.Json.Merged
import Portability.Proofs.Policy.Promotion

/-!
# What a rule document says

`RuleSection.IsGivenBy` and `RuleEntry.IsGivenBy` are the grammar of rule documents: which values
are sections and entries, told by their fields and not by a reader. An array *lists* arguments if
one of its sections has an entry with them (`ListsArguments`).

* `RuleDocument.policy_of_array`: the policy of a document consists of what the array lists, each
  spelled as its list has it. Nothing else of the array has a say.
* `Redrafts`: reordering sections and entries, and inserting some that list nothing, are changes
  after which an array lists the same.
* `listsArguments_append`: two arrays one after the other list what either of them lists.
-/

namespace Portability

open Json (IsRecord lastValue? readsBack_text)

/-! ### Entries -/

/-- Whether a value is an entry: a record of a text and arguments, of which there are none if they
are not given. -/
def RuleEntry.IsGivenBy (entry : RuleEntry) (value : Json) : Prop :=
  ∃ fields, IsRecord ["id", "args"] value fields ∧
    lastValue? fields "id" = some (.string entry.id) ∧
    (lastValue? fields "args").getD (Json.strings []) = Json.strings entry.arguments

/-- Entries that are read are those that a value gives, by the grammar of entries. -/
theorem RuleEntry.read_merged_eq_ok_iff {entry : RuleEntry} {value : Json} :
    read value.merged = .ok entry ↔ entry.IsGivenBy value := by
  refine Json.readRecord_bind_eq_ok_iff (by decide) fun fields record hrecord => ?_
  simp only [Json.bind_eq_ok_iff, Json.Record.list, readsBack_text.required_eq_ok_iff hrecord,
    readsBack_text.list.withDefault_eq_ok_iff hrecord]
  constructor
  · rintro ⟨id, hid, arguments, harguments, heq⟩
    obtain rfl := Except.ok.inj heq
    exact ⟨hid, harguments⟩
  · rintro ⟨hid, harguments⟩
    exact ⟨_, hid, _, harguments, rfl⟩

/-! ### Sections -/

namespace RuleSection

/-- Whether a value is a section: a record of a text, arguments and entries, each of which is empty
if it is not given. -/
def IsGivenBy (ruleSection : RuleSection) (value : Json) : Prop :=
  ∃ fields, IsRecord ["id", "args", "entries"] value fields ∧
    (lastValue? fields "id").getD (.string "") = .string ruleSection.id ∧
    (lastValue? fields "args").getD (Json.strings []) = Json.strings ruleSection.arguments ∧
    (lastValue? fields "entries").getD (.array []) = .array ruleSection.entries

/-- A section with each of its entries merged. -/
def mergeEntries (ruleSection : RuleSection) : RuleSection :=
  { ruleSection with entries := ruleSection.entries.map Json.merged }

/-- Sections that are read are those that a value gives, with their entries merged. -/
theorem read_merged_eq_ok_iff {ruleSection : RuleSection} {value : Json} :
    read value.merged = .ok ruleSection ↔
      ∃ given : RuleSection, given.IsGivenBy value ∧ given.mergeEntries = ruleSection := by
  have hread : read value.merged = .ok ruleSection ↔
      ∃ fields, IsRecord ["id", "args", "entries"] value fields ∧
        (lastValue? fields "id").getD (.string "") = .string ruleSection.id ∧
        (lastValue? fields "args").getD (Json.strings []) = Json.strings ruleSection.arguments ∧
        ∃ given, (lastValue? fields "entries").getD (.array []) = .array given ∧
          given.map Json.merged = ruleSection.entries := by
    refine Json.readRecord_bind_eq_ok_iff (by decide) fun fields record hrecord => ?_
    simp only [Json.bind_eq_ok_iff, hrecord.list_eq_ok_iff,
      readsBack_text.withDefault_eq_ok_iff hrecord]
    rw [Json.Record.list]
    simp only [readsBack_text.list.withDefault_eq_ok_iff hrecord]
    constructor
    · rintro ⟨id, hid, arguments, harguments, entries, hentries, heq⟩
      obtain rfl := Except.ok.inj heq
      exact ⟨hid, harguments, hentries⟩
    · rintro ⟨hid, harguments, hentries⟩
      exact ⟨_, hid, _, harguments, _, hentries, rfl⟩
  rw [hread]
  constructor
  · rintro ⟨fields, hfields, hid, harguments, entries, hentries, hmerged⟩
    refine ⟨{ ruleSection with entries }, ⟨fields, hfields, hid, harguments, hentries⟩, ?_⟩
    rw [mergeEntries, hmerged]
  · rintro ⟨given, ⟨fields, hfields, hid, harguments, hentries⟩, rfl⟩
    exact ⟨fields, hfields, hid, harguments, given.entries, hentries, rfl⟩

/-- Whether a section is for a list and has an entry for it with the given arguments. -/
structure Lists (ruleSection : RuleSection) (list : RuleList) (arguments : List String) : Prop where
  id_eq : ruleSection.id = "config"
  key_eq : ruleSection.arguments.head? = some list.key
  arity_le : list.arity ≤ arguments.length
  entry : ∃ value ∈ ruleSection.entries,
    RuleEntry.IsGivenBy { id := list.entryTag, arguments } value

/-- A section is about the list whose key is its first argument, if it is a section of the
configuration. -/
theorem list?_eq_some_iff {ruleSection : RuleSection} {list : RuleList} :
    ruleSection.list? = some list ↔
      ruleSection.id = "config" ∧ ruleSection.arguments.head? = some list.key := by
  rw [list?, configId]
  split
  · next hid => simp [hid, Option.bind_eq_some_iff, RuleList.ofKey?_eq_some_iff]
  · next hid => simp [hid]

/-- The rules of a section are made by the arguments that it lists. -/
theorem mem_rules_mergeEntries {given : RuleSection} {rule : Rule} :
    rule ∈ given.mergeEntries.rules ↔
      ∃ list arguments, given.Lists list arguments ∧ list.rule? arguments = some rule := by
  simp only [mem_rules, list?_eq_some_iff, mem_entriesFor, mergeEntries, List.mem_map]
  constructor
  · rintro ⟨list, ⟨hid, hkey⟩, entry, ⟨⟨_, ⟨value, hvalue, rfl⟩, hread⟩, htag, harity⟩, hrule⟩
    have hgiven := RuleEntry.read_merged_eq_ok_iff.mp hread
    exact ⟨list, entry.arguments, ⟨hid, hkey, harity, value, hvalue, htag ▸ hgiven⟩, hrule⟩
  · rintro ⟨list, arguments, ⟨hid, hkey, harity, value, hvalue, hgiven⟩, hrule⟩
    have hread := RuleEntry.read_merged_eq_ok_iff.mpr hgiven
    exact ⟨list, ⟨hid, hkey⟩, _, ⟨⟨_, ⟨value, hvalue, rfl⟩, hread⟩, rfl, harity⟩, hrule⟩

end RuleSection

/-! ### What is listed -/

/-- Whether an array has a section that lists arguments. -/
def ListsArguments (items : List Json) (list : RuleList) (arguments : List String) : Prop :=
  ∃ item ∈ items, ∃ ruleSection : RuleSection,
    ruleSection.IsGivenBy item ∧ ruleSection.Lists list arguments

variable {items more : List Json} {list : RuleList} {arguments : List String}

/-- Items one after the other list what either of them lists. -/
theorem listsArguments_append :
    ListsArguments (items ++ more) list arguments ↔
      ListsArguments items list arguments ∨ ListsArguments more list arguments := by
  simp only [ListsArguments, List.mem_append, or_and_right, exists_or]

/-- The sections of a document are the items that are sections. -/
theorem RuleDocument.mem_sections_iff {document : RuleDocument}
    (h : read (.array items) = .ok document) {ruleSection : RuleSection} :
    ruleSection ∈ document.sections ↔ ∃ item ∈ items, ∃ given : RuleSection,
      given.IsGivenBy item ∧ given.mergeEntries = ruleSection := by
  rw [read] at h
  split at h
  · cases h
  · obtain rfl := Except.ok.inj h
    simp only [List.mem_filterMap, ← RuleSection.read_merged_eq_ok_iff]
    refine exists_congr fun item => and_congr_right fun _ => ?_
    cases RuleSection.read item.merged <;> simp [Except.toOption]

/-- The rules of a document are made by the arguments that are listed. -/
theorem RuleDocument.mem_rules_iff {document : RuleDocument}
    (h : read (.array items) = .ok document) {rule : Rule} :
    rule ∈ document.rules ↔
      ∃ list arguments, ListsArguments items list arguments ∧
        list.rule? arguments = some rule := by
  rw [rules, List.mem_flatMap]
  constructor
  · rintro ⟨_, hsection, hrule⟩
    obtain ⟨item, hitem, given, hgiven, rfl⟩ := (mem_sections_iff h).mp hsection
    obtain ⟨list, arguments, hlists, hrule⟩ := RuleSection.mem_rules_mergeEntries.mp hrule
    exact ⟨list, arguments, ⟨item, hitem, given, hgiven, hlists⟩, hrule⟩
  · rintro ⟨list, arguments, ⟨item, hitem, given, hgiven, hlists⟩, hrule⟩
    exact ⟨_, (mem_sections_iff h).mpr ⟨item, hitem, given, hgiven, rfl⟩,
      RuleSection.mem_rules_mergeEntries.mpr ⟨list, arguments, hlists, hrule⟩⟩

/-! ### What arguments spell -/

namespace RuleList

/-- What arguments spell on lists of names of an arity: the first one, or a member by its type and
its own name. -/
inductive Spells : Nat → List String → String → Prop
  | whole (name : String) (rest : List String) : Spells 1 (name :: rest) name
  | member (type member : String) (rest : List String) :
      Spells 2 (type :: member :: rest) (type ++ "." ++ member)

/-- The name of an entry is the one that its arguments spell, by the arity of the list. -/
theorem entryName?_eq_some_iff {arity : Nat} {name : String} :
    entryName? arity arguments = some name ↔ Spells arity arguments name := by
  constructor
  · intro h
    rw [entryName?.eq_def] at h
    split at h
    · obtain rfl := Option.some.inj h
      exact .whole _ _
    · obtain rfl := Option.some.inj h
      exact .member _ _ _
    · cases h
  · intro h
    cases h <;> rfl

/-- The rule that arguments make on a list. -/
inductive Makes : RuleList → List String → Rule → Prop
  | allow (list : LegalList) {arguments : List String} {name : String}
      (h : Spells (legal list).arity arguments name) :
      Makes (legal list) arguments (.allow list name)
  | allowConversion (source target : String) (rest : List String) :
      Makes conversions (source :: target :: rest) (.allowConversion source target)
  | deny (list : DenyList) {arguments : List String} {name : String}
      (h : Spells (denied list).arity arguments name) :
      Makes (denied list) arguments (.deny list name)

/-- The rule of an entry is the one that the list makes of its arguments. -/
theorem rule?_eq_some_iff {rule : Rule} :
    list.rule? arguments = some rule ↔ list.Makes arguments rule := by
  constructor
  · intro h
    cases list with
    | legal l =>
        obtain ⟨name, hname, rfl⟩ := Option.map_eq_some_iff.mp h
        exact .allow l (entryName?_eq_some_iff.mp hname)
    | denied d =>
        obtain ⟨name, hname, rfl⟩ := Option.map_eq_some_iff.mp h
        exact .deny d (entryName?_eq_some_iff.mp hname)
    | conversions =>
        match arguments, h with
        | source :: target :: rest, h =>
            obtain rfl := Option.some.inj h
            exact .allowConversion source target rest
  · intro h
    cases h with
    | allow l hspells =>
        exact Option.map_eq_some_iff.mpr ⟨_, entryName?_eq_some_iff.mpr hspells, rfl⟩
    | deny d hspells =>
        exact Option.map_eq_some_iff.mpr ⟨_, entryName?_eq_some_iff.mpr hspells, rfl⟩
    | allowConversion => rfl

/-- Arguments enough for a list make a rule. -/
theorem isSome_rule? (h : list.arity ≤ arguments.length) : (list.rule? arguments).isSome := by
  have hname (arity : Nat) (harity : arity = 1 ∨ arity = 2) (h : arity ≤ arguments.length) :
      (entryName? arity arguments).isSome := by
    rcases harity with rfl | rfl
    · match arguments, h with
      | _ :: _, _ => rfl
    · match arguments, h with
      | _ :: _ :: _, _ => rfl
  cases list with
  | legal l =>
      rw [rule?, Option.isSome_map]
      exact hname _ (by cases l <;> decide) h
  | denied d =>
      rw [rule?, Option.isSome_map]
      exact hname _ (by cases d <;> decide) h
  | conversions =>
      match arguments, h with
      | _ :: _ :: _, _ => rfl

end RuleList

/-! ### Drafts of a document -/

/-- A change of a section after which it lists the same: entries in another order, or an entry more
that does not fit the list. -/
inductive RuleSection.Redrafts : RuleSection → RuleSection → Prop
  | reorder (id : String) (arguments : List String) {entries others : List Json}
      (h : entries.Perm others) : Redrafts ⟨id, arguments, entries⟩ ⟨id, arguments, others⟩
  | insert (id : String) (arguments : List String) {before after : List Json} {value : Json}
      (h : ∀ list : RuleList, arguments.head? = some list.key →
        ∀ entry : RuleEntry, entry.IsGivenBy value → ¬ entry.Fits list) :
      Redrafts ⟨id, arguments, before ++ after⟩ ⟨id, arguments, before ++ value :: after⟩

/-- A change of an array after which it lists the same: items in another order, an item more that
is no section for a list, or a section redrafted. -/
inductive Redrafts : List Json → List Json → Prop
  | reorder {items others : List Json} (h : items.Perm others) : Redrafts items others
  | insert {before after : List Json} {item : Json}
      (h : ∀ ruleSection : RuleSection, ruleSection.IsGivenBy item →
        ruleSection.id = "config" →
        ∀ list : RuleList, ruleSection.arguments.head? ≠ some list.key) :
      Redrafts (before ++ after) (before ++ item :: after)
  | redraft {before after : List Json} {item other : Json} {ruleSection redrafted : RuleSection}
      (hitem : ruleSection.IsGivenBy item) (hother : redrafted.IsGivenBy other)
      (h : ruleSection.Redrafts redrafted) :
      Redrafts (before ++ item :: after) (before ++ other :: after)

/-- A value gives one section at most. -/
theorem RuleSection.IsGivenBy.unique {value : Json} {ruleSection other : RuleSection}
    (h : ruleSection.IsGivenBy value) (hother : other.IsGivenBy value) : other = ruleSection := by
  obtain ⟨fields, hfields, hid, harguments, hentries⟩ := h
  obtain ⟨otherFields, hotherFields, hotherId, hotherArguments, hotherEntries⟩ := hother
  obtain rfl := hfields.unique hotherFields
  have hids := Json.string.inj (hotherId.symm.trans hid)
  have hall := Json.strings_inj (hotherArguments.symm.trans harguments)
  have hitems := Json.array.inj (hotherEntries.symm.trans hentries)
  cases ruleSection
  cases other
  rw [RuleSection.mk.injEq]
  exact ⟨hids, hall, hitems⟩

/-- A redrafted section lists the same. -/
theorem RuleSection.Redrafts.lists_iff {ruleSection redrafted : RuleSection}
    (h : ruleSection.Redrafts redrafted) :
    redrafted.Lists list arguments ↔ ruleSection.Lists list arguments := by
  cases h with
  | reorder id keys hperm =>
      constructor
      · rintro ⟨hid, hkey, harity, value, hvalue, hgiven⟩
        exact ⟨hid, hkey, harity, value, hperm.mem_iff.mpr hvalue, hgiven⟩
      · rintro ⟨hid, hkey, harity, value, hvalue, hgiven⟩
        exact ⟨hid, hkey, harity, value, hperm.mem_iff.mp hvalue, hgiven⟩
  | @insert id keys before after value hidle =>
      constructor
      · rintro ⟨hid, hkey, harity, other, hother, hgiven⟩
        refine ⟨hid, hkey, harity, other, ?_, hgiven⟩
        rcases List.mem_append.mp hother with hbefore | hlater
        · exact List.mem_append_left after hbefore
        · rcases List.mem_cons.mp hlater with rfl | hafter
          · exact absurd ⟨rfl, harity⟩ (hidle list hkey _ hgiven)
          · exact List.mem_append_right before hafter
      · rintro ⟨hid, hkey, harity, other, hother, hgiven⟩
        refine ⟨hid, hkey, harity, other, ?_, hgiven⟩
        rcases List.mem_append.mp hother with hbefore | hafter
        · exact List.mem_append_left _ hbefore
        · exact List.mem_append_right before (List.mem_cons_of_mem value hafter)

/-- An item lists what it gives, wherever it is put. -/
theorem listsArguments_insert {before after : List Json} {item : Json} :
    ListsArguments (before ++ item :: after) list arguments ↔
      ListsArguments (before ++ after) list arguments ∨
        ∃ ruleSection : RuleSection,
          ruleSection.IsGivenBy item ∧ ruleSection.Lists list arguments := by
  have hitem : ListsArguments [item] list arguments ↔ ∃ ruleSection : RuleSection,
      ruleSection.IsGivenBy item ∧ ruleSection.Lists list arguments := by
    simp [ListsArguments]
  rw [List.append_cons, listsArguments_append, listsArguments_append, hitem,
    listsArguments_append, or_right_comm]

/-- A redrafted array lists the same. -/
theorem Redrafts.listsArguments_iff {others : List Json} (h : Redrafts items others) :
    ListsArguments others list arguments ↔ ListsArguments items list arguments := by
  cases h with
  | reorder hperm =>
      exact exists_congr fun item => and_congr_left fun _ => hperm.mem_iff.symm
  | insert hidle =>
      rw [listsArguments_insert, or_iff_left]
      rintro ⟨ruleSection, hgiven, hlists⟩
      exact hidle ruleSection hgiven hlists.id_eq list hlists.key_eq
  | @redraft before after item other ruleSection redrafted hitem hother hredrafts =>
      have hlists {value : Json} {known : RuleSection} (hknown : known.IsGivenBy value) :
          (∃ given : RuleSection, given.IsGivenBy value ∧ given.Lists list arguments) ↔
            known.Lists list arguments := by
        constructor
        · rintro ⟨given, hgiven, hlists⟩
          exact hknown.unique hgiven ▸ hlists
        · exact fun hlists => ⟨known, hknown, hlists⟩
      rw [listsArguments_insert, listsArguments_insert, hlists hitem, hlists hother,
        hredrafts.lists_iff]

/-- Redrafting any number of times changes nothing of what is listed. -/
theorem listsArguments_iff_of_eqvGen {others : List Json}
    (h : Relation.EqvGen Redrafts items others) :
    ListsArguments others list arguments ↔ ListsArguments items list arguments := by
  induction h with
  | rel _ _ h => exact h.listsArguments_iff
  | refl => exact Iff.rfl
  | symm _ _ _ ih => exact ih.symm
  | trans _ _ _ _ _ ih₁ ih₂ => exact ih₂.trans ih₁

/-! ### The policy of a document -/

namespace RuleDocument

/-- A list of readable items is read as a document, whatever the items are. -/
theorem exists_read_array (h : (Json.array items).isReadable) :
    ∃ document, read (.array items) = .ok document := by
  rw [read, h]
  exact ⟨_, rfl⟩

section

variable {document : RuleDocument} (h : read (.array items) = .ok document)

include h

/-- A policy has the rules that are made of the arguments that items of the document list. -/
theorem has_ofDocument_iff {rule : Rule} :
    (RulePolicy.ofDocument document).has rule ↔
      ∃ list arguments, ListsArguments items list arguments ∧ list.Makes arguments rule := by
  rw [RulePolicy.has_ofDocument, mem_rules_iff h]
  simp only [RuleList.rule?_eq_some_iff]

/-- A name is allowed if a section of its list spells it. -/
theorem allows_ofDocument_iff {list : LegalList} {name : String} :
    (RulePolicy.ofDocument document).allows list name ↔ ∃ arguments,
      ListsArguments items (.legal list) arguments ∧
        RuleList.Spells (RuleList.legal list).arity arguments name := by
  refine (has_ofDocument_iff h).trans ⟨?_, ?_⟩
  · rintro ⟨_, arguments, hlists, hmakes⟩
    cases hmakes with
    | allow _ hspells => exact ⟨arguments, hlists, hspells⟩
  · exact fun ⟨arguments, hlists, hspells⟩ => ⟨_, arguments, hlists, .allow list hspells⟩

/-- A conversion is allowed if an entry begins with its source and its target. -/
theorem allowsConversion_ofDocument_iff {source target : String} :
    (RulePolicy.ofDocument document).allowsConversion source target ↔ ∃ rest,
      ListsArguments items .conversions (source :: target :: rest) := by
  refine (has_ofDocument_iff h).trans ⟨?_, ?_⟩
  · rintro ⟨_, arguments, hlists, hmakes⟩
    cases hmakes with
    | allowConversion _ _ rest => exact ⟨rest, hlists⟩
  · exact fun ⟨rest, hlists⟩ => ⟨_, _, hlists, .allowConversion source target rest⟩

/-- A name is denied if a section of its list spells it. -/
theorem denies_ofDocument_iff {list : DenyList} {name : String} :
    (RulePolicy.ofDocument document).denies list name ↔ ∃ arguments,
      ListsArguments items (.denied list) arguments ∧
        RuleList.Spells (RuleList.denied list).arity arguments name := by
  refine (has_ofDocument_iff h).trans ⟨?_, ?_⟩
  · rintro ⟨_, arguments, hlists, hmakes⟩
    cases hmakes with
    | deny _ hspells => exact ⟨arguments, hlists, hspells⟩
  · exact fun ⟨arguments, hlists, hspells⟩ => ⟨_, arguments, hlists, .deny list hspells⟩

/-- Redrafting an array makes no difference to its policy. -/
theorem has_ofDocument_of_eqvGen {others : List Json} {redrafted : RuleDocument}
    (hothers : Relation.EqvGen Redrafts items others)
    (hredrafted : read (.array others) = .ok redrafted) (rule : Rule) :
    (RulePolicy.ofDocument redrafted).has rule = (RulePolicy.ofDocument document).has rule := by
  rw [Bool.eq_iff_iff, has_ofDocument_iff hredrafted, has_ofDocument_iff h]
  simp only [listsArguments_iff_of_eqvGen hothers]

/-- The policy of two arrays one after the other has the rules of both. -/
theorem has_ofDocument_append {second both : RuleDocument}
    (hsecond : read (.array more) = .ok second) (hboth : read (.array (items ++ more)) = .ok both)
    (rule : Rule) :
    (RulePolicy.ofDocument both).has rule =
      ((RulePolicy.ofDocument document).has rule || (RulePolicy.ofDocument second).has rule) := by
  rw [Bool.eq_iff_iff, Bool.or_eq_true, has_ofDocument_iff hboth, has_ofDocument_iff h,
    has_ofDocument_iff hsecond]
  simp only [listsArguments_append, or_and_right, exists_or]

end

/-- **A policy is what the well-formed entries say.** An array in which nothing is unreadable is
read as a document, whatever its items are, and every entry that the document keeps for a list makes
a rule. The policy has a name on a list, or a pair of types, if and only if a section for the list
has an entry with the list's tag and arguments enough that spells it. So redrafting the array makes
no difference, and the policy of two arrays one after the other is the union of theirs. -/
theorem policy_of_array (hreadable : (Json.array items).isReadable) :
    ∃ document, read (.array items) = .ok document ∧
      (∀ ruleSection ∈ document.sections, ∀ list, ruleSection.list? = some list →
        ∀ entry ∈ ruleSection.entriesFor list, (list.rule? entry.arguments).isSome) ∧
      let policy := RulePolicy.ofDocument document
      (∀ list name, policy.allows list name ↔ ∃ arguments,
        ListsArguments items (.legal list) arguments ∧
          RuleList.Spells (RuleList.legal list).arity arguments name) ∧
      (∀ source target, policy.allowsConversion source target ↔ ∃ rest,
        ListsArguments items .conversions (source :: target :: rest)) ∧
      (∀ list name, policy.denies list name ↔ ∃ arguments,
        ListsArguments items (.denied list) arguments ∧
          RuleList.Spells (RuleList.denied list).arity arguments name) ∧
      (∀ others, Relation.EqvGen Redrafts items others → (Json.array others).isReadable →
        ∃ redrafted, read (.array others) = .ok redrafted ∧
          ∀ rule, (RulePolicy.ofDocument redrafted).has rule = policy.has rule) ∧
      ∀ more, (Json.array more).isReadable →
        ∃ second both, read (.array more) = .ok second ∧ read (.array (items ++ more)) = .ok both ∧
          ∀ rule, (RulePolicy.ofDocument both).has rule =
            (policy.has rule || (RulePolicy.ofDocument second).has rule) := by
  obtain ⟨document, hread⟩ := exists_read_array hreadable
  refine ⟨document, hread, fun ruleSection _ list _ entry hentry => ?_,
    fun _ _ => allows_ofDocument_iff hread, fun _ _ => allowsConversion_ofDocument_iff hread,
    fun _ _ => denies_ofDocument_iff hread, fun others hothers hreadable => ?_,
    fun more hmore => ?_⟩
  · exact RuleList.isSome_rule? (RuleSection.mem_entriesFor.mp hentry).2.2
  · obtain ⟨redrafted, hredrafted⟩ := exists_read_array hreadable
    exact ⟨redrafted, hredrafted, has_ofDocument_of_eqvGen hread hothers hredrafted⟩
  · have hboth : (Json.array (items ++ more)).isReadable := by
      rw [Json.isReadable, Json.areReadable_iff] at hreadable hmore ⊢
      exact List.forall_mem_append.mpr ⟨hreadable, hmore⟩
    obtain ⟨second, hsecond⟩ := exists_read_array hmore
    obtain ⟨both, hboth⟩ := exists_read_array hboth
    exact ⟨second, both, hsecond, hboth, has_ofDocument_append hread hsecond hboth⟩

/-- Sections for two lists among items that say nothing. The id of one is given twice, and of its
entries one has the tag of another list and one too few arguments. The other section and its entry
are written as arrays. -/
def strayItems : List Json :=
  [.null,
   .object [("id", .string "notes"), ("args", Json.strings ["IllegalMethodList"])],
   .object [("id", .string "notes"), ("args", Json.strings ["IllegalMethodList"]),
    ("entries", .array [
      .string "method",
      .object [("id", .string "type"), ("args", Json.strings ["App.Box", "Open"])],
      .object [("id", .string "method"), ("args", Json.strings ["App.Box"])],
      .object [("id", .string "method"), ("args", Json.strings ["App.Box", "Close", "now"])]]),
    ("id", .string "config")],
   .array [.string "config", Json.strings ["LegalGenericTypeList"],
    .array [.array [.string "type", Json.strings ["List_T"]]]]]

/-- What `strayItems` lists can be told from its policy: one method and one generic type, and no
method by the mistagged entry. -/
theorem policy_of_array_strayItems :
    (Json.array strayItems).isReadable ∧
      (∃ arguments, ListsArguments strayItems (.denied .method) arguments ∧
        RuleList.Spells 2 arguments "App.Box.Close") ∧
      (∃ arguments, ListsArguments strayItems (.legal .genericType) arguments ∧
        RuleList.Spells 1 arguments "List_T") ∧
      ¬ ∃ arguments, ListsArguments strayItems (.denied .method) arguments ∧
        RuleList.Spells 2 arguments "App.Box.Open" := by
  have hreadable : (Json.array strayItems).isReadable := by decide
  obtain ⟨document, hread, -, hallows, -, hdenies, -, -⟩ := policy_of_array hreadable
  have hpolicy (f : RuleDocument → Bool) {b : Bool}
      (h : (read (.array strayItems)).map f = .ok b) : f document = b := by
    rw [hread] at h
    exact Except.ok.inj h
  refine ⟨hreadable, ?_, ?_, ?_⟩
  · refine (hdenies .method "App.Box.Close").mp ?_
    exact hpolicy (fun document => (RulePolicy.ofDocument document).denies .method _) rfl
  · refine (hallows .genericType "List_T").mp ?_
    exact hpolicy (fun document => (RulePolicy.ofDocument document).allows .genericType _) rfl
  · have hopen : (RulePolicy.ofDocument document).denies .method "App.Box.Open" = false :=
      hpolicy (fun document => (RulePolicy.ofDocument document).denies .method _) rfl
    exact (hdenies .method "App.Box.Open").not.mp (by simp [hopen])

end RuleDocument

end Portability
