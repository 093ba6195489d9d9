import Portability.Proofs.Text.Dotted

/-!
# Paths and their segments

A path is its segments joined by dots. Joining and cutting are inverse to each other
(`pieces_join`, `segments_join`), so a path can be cut at any of its dots into the paths of the
segments on both sides (`eq_or_below_of_append_dot`). A text that begins with the
characters of a path need not go on after it with a dot; `eq_or_below_of_startsWith` says when it
does.
-/

namespace Portability

namespace Dotted

/-- Whether a text can be a segment of a path: it is not empty and has no dot. -/
def IsSegment (text : String) : Prop :=
  text ≠ "" ∧ '.' ∉ text.toList
  deriving Decidable

/-- What has no dot is one piece. -/
theorem splitChars_of_notMem {cs : List Char} (h : '.' ∉ cs) : splitChars cs = [cs] := by
  induction cs with
  | nil => rfl
  | cons c rest ih =>
      obtain ⟨hc, hrest⟩ := not_or.mp (mt List.mem_cons.mpr h)
      rw [splitChars, if_neg (Ne.symm hc), ih hrest]

/-- A text without dots is one piece. -/
theorem pieces_of_notMem {text : String} (h : '.' ∉ text.toList) : pieces text = [text] := by
  rw [pieces, splitChars_of_notMem h, List.map_singleton, String.ofList_toList]

/-! ### Joining -/

/-- One text is joined to itself. -/
theorem join_singleton (text : String) : join [text] = text := by
  rw [join, String.intercalate_singleton]

/-- Two lists are joined with a dot between them, if neither is empty. -/
theorem join_append {before after : List String} (hbefore : before ≠ []) (hafter : after ≠ []) :
    join (before ++ after) = join before ++ "." ++ join after := by
  rw [join, join, join, String.intercalate_append_of_ne_nil hbefore hafter]

/-- A first text is joined to a list with a dot. -/
theorem join_cons {rest : List String} (hrest : rest ≠ []) (first : String) :
    join (first :: rest) = first ++ "." ++ join rest := by
  have happend := join_append (List.cons_ne_nil first []) hrest
  rwa [join_singleton] at happend

/-- The first pieces of a path can be joined before the others are. -/
theorem join_join_cons {before : List String} (hbefore : before ≠ []) (after : List String) :
    join (join before :: after) = join (before ++ after) := by
  cases after with
  | nil => rw [join_singleton, List.append_nil]
  | cons second more =>
      rw [join_cons (List.cons_ne_nil second more),
        join_append hbefore (List.cons_ne_nil second more)]

/-- A path of segments is cut into its segments. -/
theorem pieces_join {segments : List String} (hne : segments ≠ [])
    (h : ∀ segment ∈ segments, '.' ∉ segment.toList) : pieces (join segments) = segments := by
  induction segments with
  | nil => exact absurd rfl hne
  | cons first rest ih =>
      obtain ⟨hfirst, hrest⟩ := List.forall_mem_cons.mp h
      cases rest with
      | nil => rw [join_singleton, pieces_of_notMem hfirst]
      | cons second more =>
          rw [join_cons (List.cons_ne_nil second more), pieces_append_dot,
            pieces_of_notMem hfirst, ih (List.cons_ne_nil second more) hrest, List.singleton_append]

/-- The segments of a text have no dots and are not empty. -/
theorem isSegment_of_mem_segments {text segment : String} (h : segment ∈ segments text) :
    IsSegment segment := by
  obtain ⟨hpiece, hne⟩ := List.mem_filter.mp h
  obtain ⟨cs, hcs, rfl⟩ := List.mem_map.mp hpiece
  refine ⟨of_decide_eq_true hne, ?_⟩
  rw [String.toList_ofList]
  exact dot_notMem_of_mem_splitChars hcs

/-- A text without empty pieces has its pieces as segments. -/
theorem segments_eq_pieces {text : String} (h : ∀ piece ∈ pieces text, piece ≠ "") :
    segments text = pieces text :=
  List.filter_eq_self.mpr fun piece hpiece => decide_eq_true (h piece hpiece)

/-- The segments of a path are those that it was joined of. -/
theorem segments_join {path : List String} (h : ∀ segment ∈ path, IsSegment segment) :
    segments (join path) = path := by
  cases path with
  | nil => rfl
  | cons first rest =>
      rw [segments,
        pieces_join (List.cons_ne_nil first rest) fun segment hmem => (h segment hmem).2]
      exact List.filter_eq_self.mpr fun segment hmem => decide_eq_true (h segment hmem).1

/-- A path of segments is not empty. -/
theorem join_ne_empty {path : List String} (hne : path ≠ [])
    (h : ∀ segment ∈ path, segment ≠ "") : join path ≠ "" := by
  cases path with
  | nil => exact absurd rfl hne
  | cons first rest =>
      cases rest with
      | nil =>
          rw [join_singleton]
          exact h first List.mem_cons_self
      | cons second more =>
          rw [join_cons (List.cons_ne_nil second more)]
          intro hempty
          have hlength := congrArg String.length hempty
          simp at hlength

/-- What comes before a dot in a path of a left part and a last segment is the left part, or what
comes before a dot in the left part. -/
theorem eq_or_below_of_append_dot {left last before after : String}
    (hleft : ∀ piece ∈ pieces left, piece ≠ "") (hlast : '.' ∉ last.toList)
    (h : left ++ "." ++ last = before ++ "." ++ after) :
    before = left ∧ after = last ∨
      ∃ between, between ≠ "" ∧ left = before ++ "." ++ between ∧
        after = between ++ "." ++ last := by
  obtain ⟨middle, final, hafter⟩ : ∃ middle final, pieces after = middle ++ [final] :=
    ⟨_, _, (List.dropLast_concat_getLast (pieces_ne_nil after)).symm⟩
  have hpieces : pieces left ++ [last] = pieces before ++ middle ++ [final] := by
    rw [List.append_assoc, ← hafter, ← pieces_append_dot, ← h, pieces_append_dot,
      pieces_of_notMem hlast]
  obtain ⟨hbefore, hfinal⟩ := List.append_inj' hpieces rfl
  obtain rfl : last = final := List.singleton_inj.mp hfinal
  cases middle with
  | nil =>
      refine .inl ⟨?_, ?_⟩
      · rw [← join_pieces before, ← join_pieces left, hbefore, List.append_nil]
      · rw [← join_pieces after, hafter, List.nil_append, join_singleton]
  | cons first rest =>
      have hmiddle : first :: rest ≠ [] := List.cons_ne_nil first rest
      refine .inr ⟨join (first :: rest), join_ne_empty hmiddle fun piece hpiece => ?_, ?_, ?_⟩
      · exact hleft piece (hbefore ▸ List.mem_append_right _ hpiece)
      · rw [← join_pieces left, hbefore, join_append (pieces_ne_nil before) hmiddle,
          join_pieces before]
      · rw [← join_pieces after, hafter, join_append hmiddle (List.cons_ne_nil last []),
          join_singleton]

/-- A path that is not empty, and what goes on after it, are not empty. -/
theorem ne_empty_of_eq_or_below {path text : String} (hpath : path ≠ "")
    (h : text = path ∨ ∃ rest, text = path ++ "." ++ rest) : text ≠ "" := by
  rcases h with rfl | ⟨rest, rfl⟩
  · exact hpath
  · simp

/-! ### Texts that begin with a path -/

/-- A text starts with another one if it goes on after it, be it with a dot or not. -/
theorem startsWith_iff {text start : String} :
    startsWith text start ↔ ∃ rest, text = start ++ rest := by
  rw [startsWith, List.isPrefixOf_iff_prefix]
  constructor
  · rintro ⟨rest, hrest⟩
    refine ⟨String.ofList rest, String.toList_inj.mp ?_⟩
    rw [String.toList_append, String.toList_ofList, hrest]
  · rintro ⟨rest, rfl⟩
    rw [String.toList_append]
    exact List.prefix_append _ _

/-- Let a text begin with the characters of a path, and let both go on with a dot to the same longer
text. Then the text is the path or goes on after it with a dot. -/
theorem eq_or_below_of_startsWith {path text rest more : String}
    (hstarts : startsWith text path) (h : text ++ "." ++ rest = path ++ "." ++ more) :
    text = path ∨ ∃ between, text = path ++ "." ++ between := by
  obtain ⟨tail, rfl⟩ := startsWith_iff.mp hstarts
  have hchars : tail.toList ++ '.' :: rest.toList = '.' :: more.toList := by
    have hsame := congrArg String.toList h
    simpa using hsame
  cases htail : tail.toList with
  | nil =>
      obtain rfl : tail = "" := String.toList_inj.mp htail
      exact .inl String.append_empty
  | cons c cs =>
      rw [htail] at hchars
      obtain ⟨rfl, -⟩ := List.cons.inj hchars
      refine .inr ⟨String.ofList cs, String.toList_inj.mp ?_⟩
      simp [htail]

end Dotted

end Portability
