import Mathlib.Data.List.Nodup
import Portability.Json.Record

/-!
# Reading what was written

Readers are lenient in how a value may be given, and each writer gives it in one way. What it writes
is read back:

* numbers, names, lists and absent values, if their parts are,
* a record whose fields have different names, field by field (`Json.Record.required_cons_self` and
  its siblings),
* a tagged value in which nothing is unreadable (`Json.readTagged_object`).
-/

namespace Portability

/-- Every alternative is found by its own name. -/
class LawfulNamed (α : Type) [Named α] : Prop where
  ofName?_name (a : α) : Named.ofName? (Named.name a) = some a

namespace Named

variable {α : Type} [Named α] [LawfulNamed α]

/-- A named value is read back from its name. -/
theorem read_toJson (a : α) : read (toJson a) = .ok a := by
  simp only [toJson, read, readName, LawfulNamed.ofName?_name]

/-- A named value inside a tagged one is read back from its name, too. -/
theorem readInTagged_toJson (a : α) : readInTagged (toJson a) = .ok a := by
  rw [← read_toJson a, toJson, readInTagged]
  nofun

end Named

namespace Json

variable {α : Type} {write : α → Json} {read : Reader α}

/-- A reader goes on with what it has read. The proof is no unfolding of `bind` that `simp` could
use: what it would leave to the kernel is to compare the names of fields by their characters. -/
@[simp]
theorem ok_bind {β : Type} (a : α) (next : α → Except ReadError β) :
    (Except.ok a >>= next) = next a :=
  (rfl)

/-! ### Plain values -/

/-- A whole number within the bounds is read as it is. -/
theorem readIntBetween_integer {low high i : Int} (hlow : low ≤ i) (hhigh : i < high) :
    readIntBetween low high (.number (.integer i)) = .ok i :=
  if_pos ⟨hlow, hhigh⟩

/-- A number that fits the bits is read back. -/
theorem readNatOfBits_nat {bits n : Nat} (h : n < twoTo bits) :
    readNatOfBits bits (nat n) = .ok n := by
  rw [readNatOfBits, nat, readIntBetween_integer (Int.natCast_nonneg n) (Int.ofNat_lt.mpr h)]
  rfl

/-- A character is read back from the text of it alone. -/
theorem readChar_string (c : Char) : readChar (.string c.toString) = .ok c := by
  simp [readChar]

/-- A list is read back if its items are. -/
theorem readList_list {items : List α} (h : ∀ a ∈ items, read (write a) = .ok a) :
    readList read (list write items) = .ok items := by
  induction items with
  | nil => rfl
  | cons first rest ih =>
      obtain ⟨hfirst, hrest⟩ := List.forall_mem_cons.mp h
      have hread : (rest.map write).mapM read = .ok rest := ih hrest
      simp only [list, readList, List.map_cons, List.mapM_cons, hfirst, hread]
      rfl

/-- A list of texts is read back. -/
theorem readList_strings (texts : List String) : readList readText (strings texts) = .ok texts :=
  readList_list fun _ _ => rfl

/-- A value that is not written as `null` is not mistaken for an absent one. -/
theorem readOption_option {a? : Option α} (hnull : ∀ a, write a ≠ .null)
    (h : ∀ a ∈ a?, read (write a) = .ok a) : readOption read (option write a?) = .ok a? := by
  cases a? with
  | none => rfl
  | some a =>
      rw [option, readOption, h a rfl]
      · rfl
      · exact hnull a

/-! ### Records -/

/-- A field is found once if the names of the fields are different. -/
theorem readRecord_object {names : List String} {fields : List (String × Json)}
    (h : (fields.map Prod.fst).Nodup) : readRecord names (.object fields) = .ok ⟨fields⟩ := by
  have honce : names.find? (fun name => 1 < fields.countP fun field => field.1 == name) = none := by
    refine List.find?_eq_none.mpr fun name _ => ?_
    have hcount := List.nodup_iff_count_le_one.mp h name
    rw [List.count, List.countP_map] at hcount
    exact (decide_eq_true_iff.not.mpr (Nat.not_lt.mpr hcount))
  simp only [readRecord, honce]

namespace Record

variable {field other : String} {value : Json} {rest : List (String × Json)} {default : α}

/-- The first field has its own name. -/
theorem field?_cons_self : field? ⟨(field, value) :: rest⟩ field = some value := by
  simp [field?]

/-- A field with another name is passed over. -/
theorem field?_cons_of_ne (h : field ≠ other) :
    field? ⟨(other, value) :: rest⟩ field = field? ⟨rest⟩ field := by
  simp [field?, List.lookup_cons, beq_eq_false_iff_ne.mpr h]

/-- A required field that comes first is read from its value. -/
@[simp]
theorem required_cons_self : required ⟨(field, value) :: rest⟩ field read = read value := by
  rw [required, field?_cons_self]

/-- A required field may stand behind others. -/
@[simp]
theorem required_cons_of_ne (h : field ≠ other) :
    required ⟨(other, value) :: rest⟩ field read = required ⟨rest⟩ field read := by
  rw [required, required, field?_cons_of_ne h]

/-- An optional field that comes first is read from its value. -/
@[simp]
theorem withDefault_cons_self :
    withDefault ⟨(field, value) :: rest⟩ field default read = read value := by
  rw [withDefault, field?_cons_self]

/-- An optional field may stand behind others. -/
@[simp]
theorem withDefault_cons_of_ne (h : field ≠ other) :
    withDefault ⟨(other, value) :: rest⟩ field default read =
      withDefault ⟨rest⟩ field default read := by
  rw [withDefault, withDefault, field?_cons_of_ne h]

/-- An optional field that is missing has its default. -/
@[simp]
theorem withDefault_nil : withDefault ⟨[]⟩ field default read = .ok default :=
  (rfl)

end Record

/-! ### Tagged values -/

/-- A list of items is readable just where each of them is. -/
theorem areReadable_iff {items : List Json} :
    areReadable items ↔ ∀ item ∈ items, item.isReadable := by
  induction items with
  | nil => simp [areReadable]
  | cons item rest ih => simp [areReadable, ih]

/-- Entries are readable just where each of their values is. -/
theorem areEntriesReadable_iff {entries : List (String × Json)} :
    areEntriesReadable entries ↔ ∀ entry ∈ entries, entry.2.isReadable := by
  induction entries with
  | nil => simp [areEntriesReadable]
  | cons entry rest ih => simp [areEntriesReadable, ih]

/-- Texts are readable. -/
@[simp]
theorem isReadable_text (s : String) : (string s).isReadable :=
  (rfl)

/-- Truth values are readable. -/
@[simp]
theorem isReadable_bool (b : Bool) : (bool b).isReadable :=
  (rfl)

/-- Natural numbers are readable. -/
@[simp]
theorem isReadable_nat (n : Nat) : (nat n).isReadable :=
  (rfl)

/-- Names are readable. -/
@[simp]
theorem isReadable_named [Named α] (a : α) : (Named.toJson a).isReadable :=
  (rfl)

/-- A list is readable if its items are. -/
@[simp]
theorem isReadable_list {items : List α} (h : ∀ a ∈ items, (write a).isReadable) :
    (list write items).isReadable := by
  rw [list, isReadable, areReadable_iff]
  exact List.forall_mem_map.mpr h

/-- Lists of texts are readable. -/
@[simp]
theorem isReadable_strings (texts : List String) : (strings texts).isReadable :=
  isReadable_list fun _ _ => rfl

/-- A value that may be missing is readable if it is when it is there. -/
@[simp]
theorem isReadable_option {a? : Option α} (h : ∀ a ∈ a?, (write a).isReadable) :
    (option write a?).isReadable := by
  cases a? with
  | none => rfl
  | some a => exact h a rfl

/-- The tag of a tagged value is found, and what is left are the other fields. -/
theorem readTagged_object {tag name : String} {fields : List (String × Json)}
    (htag : tag ∉ fields.map Prod.fst) (hreadable : ∀ field ∈ fields, field.2.isReadable) :
    readTagged tag (.object ((tag, .string name) :: fields)) = .ok (name, .object fields) := by
  have hne : ∀ field ∈ fields, field.1 ≠ tag := fun field hfield heq =>
    htag (List.mem_map.mpr ⟨field, hfield, heq⟩)
  have htagged : (fields.filter fun field => field.1 == tag) = [] := by
    simpa [List.filter_eq_nil_iff] using hne
  have hrest : (fields.filter fun field => field.1 != tag) = fields := by
    simpa [List.filter_eq_self] using hne
  have hall : (object ((tag, .string name) :: fields)).isReadable = true := by
    rw [isReadable, areEntriesReadable_iff]
    exact List.forall_mem_cons.mpr ⟨rfl, hreadable⟩
  simp [readTagged, hall, htagged, hrest]

end Json

end Portability
