import Portability.Text.Dotted

/-!
# Texts cut at their last dot

`Dotted.splitLast?` cuts a text at its last dot. A text with a dot can be cut, and the two sides
with a dot between them are the text again (`append_of_splitLast?`).
-/

namespace Portability

namespace Dotted

/-- The pieces on both sides of a dot are those of the sides. -/
theorem splitChars_append_dot (before after : List Char) :
    splitChars (before ++ '.' :: after) = splitChars before ++ splitChars after := by
  induction before with
  | nil => rfl
  | cons c rest ih =>
      by_cases hc : c = '.'
      · simp [splitChars, hc, ih]
      · cases hs : splitChars rest with
        | nil => exact absurd hs (splitChars_ne_nil rest)
        | cons first others =>
            simp only [List.cons_append, splitChars, hc, if_false, ih, hs]

/-- A text that goes on with a dot has the pieces from before it and those from behind it. -/
theorem pieces_append_dot (before after : String) :
    pieces (before ++ "." ++ after) = pieces before ++ pieces after := by
  have hchars : (before ++ "." ++ after).toList = before.toList ++ '.' :: after.toList := by
    simp
  rw [pieces, pieces, pieces, hchars, splitChars_append_dot, List.map_append]

/-- There is always a piece. -/
theorem pieces_ne_nil (text : String) : pieces text ≠ [] := by
  simpa [pieces] using splitChars_ne_nil text.toList

/-- A text that is cut anywhere at a dot can be cut at its last one. -/
theorem isSome_splitLast?_append (before after : String) :
    (splitLast? (before ++ "." ++ after)).isSome := by
  unfold splitLast?
  rw [pieces_append_dot, List.reverse_append]
  cases hafter : (pieces after).reverse with
  | nil => exact absurd (List.reverse_eq_nil_iff.mp hafter) (pieces_ne_nil after)
  | cons last others =>
      cases hbefore : (pieces before).reverse with
      | nil => exact absurd (List.reverse_eq_nil_iff.mp hbefore) (pieces_ne_nil before)
      | cons next earlier => cases others <;> rfl

/-- The sides of a cut with a dot between them are the text again. -/
theorem append_of_splitLast? {text before after : String}
    (h : splitLast? text = some (before, after)) : before ++ "." ++ after = text := by
  unfold splitLast? at h
  split at h
  · next last next earlier hpieces =>
      obtain ⟨rfl, rfl⟩ : join (next :: earlier).reverse = before ∧ last = after := by
        simpa using h
      have hreversed : pieces text = (next :: earlier).reverse ++ [last] := by
        rw [← List.reverse_reverse (pieces text), hpieces, List.reverse_cons]
      calc join (next :: earlier).reverse ++ "." ++ last
          = join ((next :: earlier).reverse ++ [last]) := by
            rw [join, join, String.intercalate_append_of_ne_nil (by simp) (by simp),
              String.intercalate_singleton]
        _ = text := by rw [← hreversed, join_pieces]
  · exact absurd h (by simp)

/-- A text can be cut if and only if it has a dot. -/
theorem isSome_splitLast?_iff {text : String} : (splitLast? text).isSome ↔ '.' ∈ text.toList := by
  constructor
  · intro h
    obtain ⟨⟨before, after⟩, hcut⟩ := Option.isSome_iff_exists.mp h
    rw [← append_of_splitLast? hcut]
    simp
  · intro h
    obtain ⟨before, after, hchars⟩ := List.append_of_mem h
    have htext : text = String.ofList before ++ "." ++ String.ofList after := by
      rw [← String.toList_inj, hchars]
      simp
    exact htext ▸ isSome_splitLast?_append _ _

end Dotted

end Portability
