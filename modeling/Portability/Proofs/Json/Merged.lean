import Portability.Proofs.Json.Record

/-!
# Reading records with repeated keys

A value that is taken in as a whole before it is read has no repeated keys any more: `Json.merged`
keeps the last value of each key. What a record is read as can be told from the value as it was
written, without merging anything:

* `IsRecord` is whether a value is a record, an object or an array of its first fields,
* `lastValue?` is the value of a field,
* `readRecord_bind_eq_ok_iff`: what the merged value is read as goes by these.

`ReadsBack` is for readers that merging makes no difference to. A field that is read by one of them
holds what the writer writes (`required_eq_ok_iff`, `withDefault_eq_ok_iff`).
-/

namespace Portability

namespace Json

variable {entries seen : List (String × Json)} {key : String}

/-- A value is looked up in the first entry and then in the rest. -/
theorem lookup_cons (other : String) (value : Json) :
    ((other, value) :: entries).lookup key =
      if key = other then some value else entries.lookup key := by
  rw [List.lookup_cons]
  by_cases h : key = other
  · simp [h]
  · rw [beq_eq_false_iff_ne.mpr h, if_neg h]

/-! ### The last value of a key -/

/-- The last value that entries give a key. -/
def lastValue? (entries : List (String × Json)) (key : String) : Option Json :=
  entries.reverse.lookup key

/-- A later entry with the key wins over the first one. -/
theorem lastValue?_cons (other : String) (value : Json) :
    lastValue? ((other, value) :: entries) key =
      (lastValue? entries key).or (if key = other then some value else none) := by
  rw [lastValue?, List.reverse_cons, List.lookup_append, lookup_cons]
  rfl

/-- Where no key is repeated the last value is the first. -/
theorem lastValue?_eq_lookup (h : (entries.map Prod.fst).Nodup) (key : String) :
    lastValue? entries key = entries.lookup key := by
  induction entries with
  | nil => rfl
  | cons entry rest ih =>
      obtain ⟨other, value⟩ := entry
      obtain ⟨hother, hrest⟩ := List.nodup_cons.mp h
      rw [lastValue?_cons, ih hrest, lookup_cons]
      split
      · next heq =>
          have hnone : rest.lookup key = none := by
            refine List.lookup_eq_none_iff.mpr fun entry hentry => bne_iff_ne.mpr fun hkey => ?_
            exact hother (List.mem_map.mpr ⟨entry, hentry, hkey.symm.trans heq⟩)
          rw [hnone, Option.none_or]
      · rw [Option.or_none]

/-! ### Merging -/

/-- Setting an entry changes what its own key finds, and nothing else. -/
theorem lookup_setEntry (other : String) (value : Json) :
    (setEntry other value entries).lookup key =
      if key = other then some value else entries.lookup key := by
  induction entries with
  | nil => exact lookup_cons other value
  | cons entry rest ih =>
      obtain ⟨first, old⟩ := entry
      rw [setEntry, lookup_cons]
      split
      · next heq =>
          rw [lookup_cons, heq]
          split <;> rfl
      · next hne =>
          rw [lookup_cons, ih]
          by_cases h : key = first
          · rw [if_pos h, if_pos h, if_neg (h ▸ hne)]
          · rw [if_neg h, if_neg h]

/-- Setting an entry adds its key to those that there are. -/
theorem mem_keys_setEntry (other : String) (value : Json) :
    key ∈ (setEntry other value entries).map Prod.fst ↔
      key = other ∨ key ∈ entries.map Prod.fst := by
  induction entries with
  | nil => simp [setEntry]
  | cons entry rest ih =>
      rw [setEntry]
      split
      · next heq => rw [List.map_cons, List.map_cons, heq, List.mem_cons, ← or_assoc, or_self]
      · rw [List.map_cons, List.mem_cons, ih, List.map_cons, List.mem_cons, or_left_comm]

/-- Keys that are all different stay so when an entry is set. -/
theorem nodup_setEntry (h : (entries.map Prod.fst).Nodup) (other : String) (value : Json) :
    ((setEntry other value entries).map Prod.fst).Nodup := by
  induction entries with
  | nil => simp [setEntry]
  | cons entry rest ih =>
      obtain ⟨hfirst, hrest⟩ := List.nodup_cons.mp h
      rw [setEntry]
      split
      · exact h
      · next hne =>
          refine List.nodup_cons.mpr ⟨fun hmem => ?_, ih hrest⟩
          rcases (mem_keys_setEntry other value).mp hmem with heq | hmem
          · exact hne heq
          · exact hfirst hmem

/-- Merged entries have different keys. -/
theorem nodup_mergedEntries (h : (seen.map Prod.fst).Nodup) :
    ((mergedEntries seen entries).map Prod.fst).Nodup := by
  induction entries generalizing seen with
  | nil => exact h
  | cons entry rest ih => exact ih (nodup_setEntry h entry.1 (merged entry.2))

/-- After a merge each key has its last value, merged, or else the one seen before. -/
theorem lookup_mergedEntries :
    (mergedEntries seen entries).lookup key =
      ((lastValue? entries key).map merged).or (seen.lookup key) := by
  induction entries generalizing seen with
  | nil => rfl
  | cons entry rest ih =>
      obtain ⟨other, value⟩ := entry
      rw [mergedEntries, ih, lookup_setEntry, lastValue?_cons]
      cases lastValue? rest key with
      | some last => rfl
      | none => by_cases h : key = other <;> simp [h]

/-- The items of a list are merged one by one. -/
theorem mergedItems_eq_map (items : List Json) : mergedItems items = items.map merged := by
  induction items with
  | nil => rfl
  | cons item rest ih => rw [mergedItems, ih, List.map_cons]

/-- Only a text is merged into a text, and it is left as it is. -/
theorem merged_eq_string_iff {value : Json} {text : String} :
    merged value = .string text ↔ value = .string text := by
  cases value <;> simp [merged]

/-- Only a list is merged into a list, item by item. -/
theorem merged_eq_array_iff {value : Json} {items : List Json} :
    merged value = .array items ↔ ∃ before, value = .array before ∧ before.map merged = items := by
  cases value <;> simp [merged, mergedItems_eq_map]

/-! ### Records -/

/-- Whether a value is a record of fields with the given names: an object, or an array of the first
of them. -/
inductive IsRecord (names : List String) : Json → List (String × Json) → Prop
  | object (entries : List (String × Json)) : IsRecord names (.object entries) entries
  | array {items : List Json} (h : items.length ≤ names.length) :
      IsRecord names (.array items) (names.zip items)

/-- The fields of a record are told by its value. -/
theorem IsRecord.unique {names : List String} {value : Json} {fields others : List (String × Json)}
    (h : IsRecord names value fields) (hothers : IsRecord names value others) :
    fields = others := by
  cases h <;> cases hothers <;> rfl

/-- Names that are all different are different keys of what is given by position. -/
theorem nodup_keys_zip {names : List String} (h : names.Nodup) (items : List Json) :
    ((names.zip items).map Prod.fst).Nodup := by
  have hkeys : ((names.zip items).map Prod.fst).Sublist names := by
    clear h
    induction names generalizing items with
    | nil => exact .slnil
    | cons name rest ih =>
        cases items with
        | nil => exact List.nil_sublist _
        | cons item items => exact (ih items).cons_cons name
  exact h.sublist hkeys

/-- Looking up a key and merging what it finds may change places. -/
theorem lookup_map_merged (entries : List (String × Json)) (key : String) :
    (entries.map (Prod.map id merged)).lookup key = (entries.lookup key).map merged := by
  induction entries with
  | nil => rfl
  | cons entry rest ih =>
      rw [List.map_cons, Prod.map, List.lookup_cons, List.lookup_cons, ih, id]
      cases key == entry.1 <;> rfl

/-- Whether a record holds the last values of fields, merged. -/
def Record.IsMergedFrom (record : Record) (fields : List (String × Json)) : Prop :=
  ∀ name, record.field? name = (lastValue? fields name).map merged

/-- What is a record is read as one when it is merged. -/
theorem IsRecord.exists_readRecord {names : List String} {value : Json}
    {fields : List (String × Json)} (h : IsRecord names value fields) (hnames : names.Nodup) :
    ∃ record, readRecord names value.merged = .ok record ∧ record.IsMergedFrom fields := by
  cases h with
  | object entries =>
      refine ⟨_, readRecord_object (nodup_mergedEntries List.nodup_nil), fun name => ?_⟩
      rw [Record.field?, lookup_mergedEntries, List.lookup_nil, Option.or_none]
  | @array items hlength =>
      have hread : readRecord names (Json.array items).merged =
          .ok ⟨names.zip (items.map merged)⟩ := by
        rw [merged, mergedItems_eq_map, readRecord, List.length_map, if_neg (by omega)]
      refine ⟨_, hread, fun name => ?_⟩
      rw [Record.field?, List.zip_map_right, lookup_map_merged,
        lastValue?_eq_lookup (nodup_keys_zip hnames items)]

/-- What is read as a record when it is merged is one. -/
theorem exists_isRecord {names : List String} {value : Json} {record : Record}
    (h : readRecord names value.merged = .ok record) : ∃ fields, IsRecord names value fields := by
  cases value with
  | object entries => exact ⟨entries, .object entries⟩
  | array items =>
      rw [merged, mergedItems_eq_map, readRecord, List.length_map] at h
      split at h
      · cases h
      · next hlength => exact ⟨_, .array (Nat.le_of_not_lt hlength)⟩
  | _ => cases h

/-- Two steps succeed if the first one does, and then the second one with what the first one
gave. -/
theorem bind_eq_ok_iff {ε α β : Type} {first : Except ε α} {next : α → Except ε β} {b : β} :
    (first >>= next) = .ok b ↔ ∃ a, first = .ok a ∧ next a = .ok b := by
  cases first with
  | error e => exact iff_of_false (by rintro ⟨⟩) (by rintro ⟨_, ⟨⟩, _⟩)
  | ok a => exact ⟨fun h => ⟨a, rfl, h⟩, fun ⟨_, ha, h⟩ => Except.ok.inj ha ▸ h⟩

variable {α : Type}

/-- What a merged value is read as, if it is read as a record, goes by the last values of the
fields. -/
theorem readRecord_bind_eq_ok_iff {names : List String} {value : Json}
    {next : Record → Except ReadError α} {a : α} {P : List (String × Json) → Prop}
    (hnames : names.Nodup)
    (h : ∀ fields record, record.IsMergedFrom fields → (next record = .ok a ↔ P fields)) :
    (readRecord names value.merged >>= next) = .ok a ↔
      ∃ fields, IsRecord names value fields ∧ P fields := by
  rw [bind_eq_ok_iff]
  constructor
  · rintro ⟨record, hread, hnext⟩
    obtain ⟨fields, hfields⟩ := exists_isRecord hread
    obtain ⟨other, hother, hmerged⟩ := hfields.exists_readRecord hnames
    obtain rfl := Except.ok.inj (hother.symm.trans hread)
    exact ⟨fields, hfields, (h fields other hmerged).mp hnext⟩
  · rintro ⟨fields, hfields, hP⟩
    obtain ⟨record, hread, hmerged⟩ := hfields.exists_readRecord hnames
    exact ⟨record, hread, (h fields record hmerged).mpr hP⟩

/-! ### Fields -/

/-- Lists of texts are written in different ways. -/
theorem strings_inj {texts others : List String} (h : strings texts = strings others) :
    texts = others :=
  List.map_injective_iff.mpr (fun _ _ => string.inj) (array.inj h)

/-- Whether a reader reads from merged values what a writer writes and nothing else. -/
def ReadsBack (read : Reader α) (write : α → Json) : Prop :=
  ∀ value a, read value.merged = .ok a ↔ value = write a

/-- Texts are read back, and nothing else is read as a text. -/
theorem readsBack_text : ReadsBack readText string := by
  intro value text
  rw [← merged_eq_string_iff]
  cases value.merged <;> simp [readText]

/-- Lists are read back if their items are. -/
theorem ReadsBack.list {read : Reader α} {write : α → Json} (h : ReadsBack read write) :
    ReadsBack (readList read) (list write) := by
  have hitems (items : List Json) (as : List α) :
      (items.map merged).mapM read = .ok as ↔ items = as.map write := by
    induction items generalizing as with
    | nil =>
        cases as with
        | nil => exact ⟨fun _ => rfl, fun _ => rfl⟩
        | cons a rest => exact iff_of_false (by rintro ⟨⟩) (by rintro ⟨⟩)
    | cons item rest ih =>
        rw [List.map_cons, List.mapM_cons, bind_eq_ok_iff]
        simp only [bind_eq_ok_iff, h item, ih]
        constructor
        · rintro ⟨a, rfl, others, rfl, hcons⟩
          exact Except.ok.inj hcons ▸ rfl
        · intro hcons
          cases as with
          | nil => cases hcons
          | cons a others =>
              obtain ⟨rfl, rfl⟩ := List.cons.inj hcons
              exact ⟨a, rfl, others, rfl, rfl⟩
  intro value as
  cases value with
  | array items =>
      rw [merged, mergedItems_eq_map, readList, hitems, Json.list, array.injEq]
  | _ => exact iff_of_false (by rintro ⟨⟩) (by rintro ⟨⟩)

variable {read : Reader α} {write : α → Json} {record : Record} {fields : List (String × Json)}

/-- A field that has to be there holds what its reader reads back. -/
theorem ReadsBack.required_eq_ok_iff (h : ReadsBack read write)
    (hrecord : record.IsMergedFrom fields) (name : String) (a : α) :
    record.required name read = .ok a ↔ lastValue? fields name = some (write a) := by
  rw [Record.required, hrecord]
  cases lastValue? fields name with
  | none => exact iff_of_false (by rintro ⟨⟩) (by rintro ⟨⟩)
  | some value => exact (h value a).trans Option.some_inj.symm

/-- A field that may be missing holds what its reader reads back, or the default one. -/
theorem ReadsBack.withDefault_eq_ok_iff (h : ReadsBack read write)
    (hrecord : record.IsMergedFrom fields) (name : String) (default a : α) :
    record.withDefault name default read = .ok a ↔
      (lastValue? fields name).getD (write default) = write a := by
  rw [Record.withDefault, hrecord]
  cases lastValue? fields name with
  | none =>
      have hdefault := (h (write default) default).mpr rfl
      exact hdefault ▸ h (write default) a
  | some value => exact h value a

/-- A field that holds any items at all is read as they are, merged. -/
theorem Record.IsMergedFrom.list_eq_ok_iff (h : record.IsMergedFrom fields) (name : String)
    {items : List Json} :
    record.list name .ok = .ok items ↔
      ∃ given, (lastValue? fields name).getD (.array []) = .array given ∧
        given.map merged = items := by
  have hread (value : Json) : readList .ok value = .ok items ↔ value = .array items := by
    cases value with
    | array others =>
        have hothers : readList .ok (Json.list id others) = .ok others :=
          @readList_list Json id .ok others fun _ _ => rfl
        rw [Json.list, List.map_id] at hothers
        rw [hothers, Except.ok.injEq, array.injEq]
    | _ => exact iff_of_false (by rintro ⟨⟩) (by rintro ⟨⟩)
  rw [Record.list, Record.withDefault, h]
  cases lastValue? fields name with
  | none => simp [eq_comm]
  | some value => exact (hread value.merged).trans merged_eq_array_iff

end Json

end Portability
