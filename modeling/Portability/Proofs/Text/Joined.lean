import Mathlib.Data.List.Forall2

/-!
# Texts that are joined

Joined texts can be taken apart again: at the first place of a character that does not occur before
(`append_inj_of_notMem`), and at a separator whose first character occurs in none of the texts
between (`intercalate_inj`).
-/

namespace Portability

namespace Joined

/-- Lists that agree have the same parts before and behind the first place of an element. -/
theorem append_cons_inj_of_notMem {α : Type} {a : α} {before other after rest : List α}
    (hbefore : a ∉ before) (hother : a ∉ other)
    (h : before ++ a :: after = other ++ a :: rest) : before = other ∧ after = rest := by
  induction before generalizing other with
  | nil =>
      cases other with
      | nil => exact ⟨rfl, List.tail_eq_of_cons_eq h⟩
      | cons first others =>
          obtain ⟨rfl, -⟩ := List.cons.inj h
          exact absurd List.mem_cons_self hother
  | cons first others ih =>
      cases other with
      | nil =>
          obtain ⟨rfl, -⟩ := List.cons.inj h
          exact absurd List.mem_cons_self hbefore
      | cons second others' =>
          obtain ⟨rfl, htail⟩ := List.cons.inj h
          obtain ⟨rfl, hafter⟩ := ih (fun hmem => hbefore (.tail _ hmem))
            (fun hmem => hother (.tail _ hmem)) htail
          exact ⟨rfl, hafter⟩

/-- Texts that agree have the same parts before and behind the first place of a separator. -/
theorem append_inj_of_notMem (separator : String) {c : Char} {cs : List Char}
    (hseparator : separator.toList = c :: cs) {before other after rest : String}
    (hbefore : c ∉ before.toList) (hother : c ∉ other.toList)
    (h : before ++ separator ++ after = other ++ separator ++ rest) :
    before = other ∧ after = rest := by
  have hchars := congrArg String.toList h
  simp only [String.toList_append, hseparator, List.append_assoc, List.cons_append] at hchars
  obtain ⟨hfirst, hsecond⟩ := append_cons_inj_of_notMem hbefore hother hchars
  exact ⟨String.toList_inj.mp hfirst, String.toList_inj.mp (List.append_cancel_left hsecond)⟩

/-- A text in which a character does not occur is not joined at it. -/
theorem ne_append_of_notMem {separator : String} {c : Char} {cs : List Char}
    (hseparator : separator.toList = c :: cs) {text : String} (htext : c ∉ text.toList)
    (before after : String) : text ≠ before ++ separator ++ after := by
  rintro rfl
  simp [hseparator] at htext

/-- Joined texts that agree are joined of the same texts. -/
theorem intercalate_inj (separator : String) {c : Char} {cs : List Char}
    (hseparator : separator.toList = c :: cs) {texts others : List String} (htexts : texts ≠ [])
    (hothers : others ≠ []) (hmem : ∀ text ∈ texts, c ∉ text.toList)
    (hmem' : ∀ text ∈ others, c ∉ text.toList)
    (h : separator.intercalate texts = separator.intercalate others) : texts = others := by
  induction texts generalizing others with
  | nil => exact absurd rfl htexts
  | cons text rest ih =>
      obtain ⟨other, rest', rfl⟩ := List.exists_cons_of_ne_nil hothers
      obtain ⟨htext, hrest⟩ := List.forall_mem_cons.mp hmem
      obtain ⟨hother, hrest'⟩ := List.forall_mem_cons.mp hmem'
      cases rest with
      | nil =>
          cases rest' with
          | nil => simpa using h
          | cons next more =>
              rw [String.intercalate_singleton, String.intercalate_cons_cons] at h
              exact absurd h (ne_append_of_notMem hseparator htext _ _)
      | cons next more =>
          cases rest' with
          | nil =>
              rw [String.intercalate_singleton, String.intercalate_cons_cons] at h
              exact absurd h.symm (ne_append_of_notMem hseparator hother _ _)
          | cons next' more' =>
              rw [String.intercalate_cons_cons, String.intercalate_cons_cons] at h
              obtain ⟨rfl, hjoined⟩ := append_inj_of_notMem separator hseparator htext hother h
              rw [ih (List.cons_ne_nil _ _) (List.cons_ne_nil _ _) hrest hrest' hjoined]

/-- What occurs in a joined text occurs in the separator or in one of the texts between. -/
theorem mem_intercalate {separator : String} {c : Char} {texts : List String}
    (h : c ∈ (separator.intercalate texts).toList) :
    c ∈ separator.toList ∨ ∃ text ∈ texts, c ∈ text.toList := by
  induction texts with
  | nil => simp at h
  | cons text rest ih =>
      cases rest with
      | nil => exact .inr ⟨text, List.mem_cons_self, by simpa using h⟩
      | cons next more =>
          rw [String.intercalate_cons_cons, String.toList_append, String.toList_append] at h
          rcases List.mem_append.mp h with h | h
          · rcases List.mem_append.mp h with h | h
            · exact .inr ⟨text, List.mem_cons_self, h⟩
            · exact .inl h
          · exact (ih h).imp_right fun ⟨found, hfound, hc⟩ => ⟨found, .tail _ hfound, hc⟩

end Joined

end Portability
