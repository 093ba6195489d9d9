/-!
# Dotted paths

Namespaces, types and members are named by texts such as `System.Collections.List_T`. A text is
cut at its dots into *pieces*, which may be empty; the non-empty ones are its *segments*.

* `Dotted.join_pieces`: joining the pieces of a text gives the text back.
* `Dotted.dot_notMem_of_mem_splitChars`: no piece holds a dot.
* `Dotted.below?` answers what a text says beneath a given path.
-/

namespace Portability

namespace Dotted

/-- The runs of characters between the dots of a text: one more than there are dots. -/
def splitChars : List Char → List (List Char)
  | [] => [[]]
  | c :: rest =>
    if c = '.' then [] :: splitChars rest
    else
      match splitChars rest with
      | [] => [[c]]
      | piece :: pieces => (c :: piece) :: pieces

/-- The texts between the dots, empty ones included. The empty text has one empty piece. -/
def pieces (text : String) : List String :=
  (splitChars text.toList).map String.ofList

/-- The non-empty pieces of a text, in order. -/
def segments (text : String) : List String :=
  (pieces text).filter (· ≠ "")

/-- Pieces put back together with a dot between neighbours. -/
def join (pieces : List String) : String :=
  String.intercalate "." pieces

/-- Whether `text` begins with the characters of `start`; a dot need not follow. -/
def startsWith (text start : String) : Bool :=
  start.toList.isPrefixOf text.toList

/-- What `text` says beneath `path`: the non-empty `rest` with `text = path ++ "." ++ rest`. -/
def below? (path text : String) : Option String :=
  let stem := path.toList ++ ['.']
  let rest := text.toList.drop stem.length
  if stem.isPrefixOf text.toList && !rest.isEmpty then some (String.ofList rest) else none

/-- A text cut at its last dot, if it has one. -/
def splitLast? (text : String) : Option (String × String) :=
  match (pieces text).reverse with
  | last :: (next :: earlier) => some (join (next :: earlier).reverse, last)
  | _ => none

/-! ### Pieces -/

/-- There is always a piece, also of the empty text. -/
theorem splitChars_ne_nil (cs : List Char) : splitChars cs ≠ [] := by
  cases cs with
  | nil => simp [splitChars]
  | cons c rest =>
    by_cases hc : c = '.'
    · simp [splitChars, hc]
    · cases h : splitChars rest <;> simp [splitChars, hc, h]

/-- No piece holds a dot. -/
theorem dot_notMem_of_mem_splitChars {cs piece : List Char} (h : piece ∈ splitChars cs) :
    '.' ∉ piece := by
  induction cs generalizing piece with
  | nil => simp_all [splitChars]
  | cons c rest ih =>
    by_cases hc : c = '.'
    · simp only [splitChars, hc, if_true, List.mem_cons] at h
      rcases h with rfl | h
      · simp
      · exact ih h
    · cases hs : splitChars rest with
      | nil => exact absurd hs (splitChars_ne_nil rest)
      | cons first others =>
        simp only [splitChars, hc, if_false, hs, List.mem_cons] at h
        rcases h with rfl | h
        · simpa [Ne.symm hc] using ih (hs ▸ List.mem_cons_self)
        · exact ih (hs ▸ List.mem_cons_of_mem _ h)

/-- The pieces, put together with dots, are the text again. -/
theorem intercalate_splitChars (cs : List Char) : ['.'].intercalate (splitChars cs) = cs := by
  induction cs with
  | nil => simp [splitChars, List.intercalate]
  | cons c rest ih =>
    cases hs : splitChars rest with
    | nil => exact absurd hs (splitChars_ne_nil rest)
    | cons first others =>
      rw [hs] at ih
      by_cases hc : c = '.'
      · simpa [splitChars, hc, hs, List.intercalate] using ih
      · cases others with
        | nil => simpa [splitChars, hc, hs, List.intercalate] using ih
        | cons next more => simpa [splitChars, hc, hs, List.intercalate] using ih

/-- Joining the pieces of a text gives the text back. -/
theorem join_pieces (text : String) : join (pieces text) = text := by
  rw [← String.toList_inj]
  simp [join, pieces, String.toList_intercalate, Function.comp_def, intercalate_splitChars]

end Dotted

end Portability
