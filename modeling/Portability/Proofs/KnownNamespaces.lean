import Portability.KnownNamespaces
import Portability.Proofs.Text.Segments

/-!
# Names that go on after known namespaces

Shortening a name asks for the longest known namespace that the name goes on after, which is to say
that the name is the namespace, a dot and more (`longestBelow?_eq_some_iff`). Where there is none,
nothing of the name is shortened: its qualifier is not a known namespace (`contains_left`) and goes
on after none either (`longestBelow?_left`).
-/

namespace Portability

/-- What a text says beneath a path is what it goes on with after the path and a dot. -/
theorem Dotted.below?_eq_some_iff {path text rest : String} :
    below? path text = some rest ↔ rest ≠ "" ∧ text = path ++ "." ++ rest := by
  have htext : text = path ++ "." ++ rest ↔ path.toList ++ ['.'] ++ rest.toList = text.toList := by
    rw [← String.toList_inj, String.toList_append, String.toList_append]
    exact eq_comm
  have hrest (tail : List Char) : String.ofList tail = rest ↔ tail = rest.toList := by
    rw [← String.toList_inj, String.toList_ofList]
  simp only [htext, below?, Option.ite_none_right_eq_some, Bool.and_eq_true,
    List.isPrefixOf_iff_prefix, Option.some.injEq, hrest]
  constructor
  · rintro ⟨⟨⟨tail, htail⟩, hne⟩, hdrop⟩
    rw [← htail, List.drop_left] at hne hdrop
    subst hdrop
    refine ⟨?_, htail⟩
    rintro rfl
    exact Bool.noConfusion hne
  · rintro ⟨hne, hrest⟩
    rw [← hrest, List.drop_left]
    exact ⟨⟨List.prefix_append _ _, by simpa using hne⟩, rfl⟩

/-- A text is below a path if it goes on after it with a dot and something more. -/
theorem Dotted.isSome_below?_iff {path text : String} :
    (Dotted.below? path text).isSome ↔ ∃ rest, rest ≠ "" ∧ text = path ++ "." ++ rest := by
  simp only [Option.isSome_iff_exists, below?_eq_some_iff]

namespace KnownNamespaces

variable {known : KnownNamespaces} {text left right : String}

/-- A search that never gives up what it has found ends with something if it starts so. -/
theorem foldl_ne_none {α β : Type} {step : Option β → α → Option β}
    (hstep : ∀ found item, step found item ≠ none) (items : List α) {found : Option β}
    (h : found ≠ none) : items.foldl step found ≠ none := by
  induction items generalizing found with
  | nil => exact h
  | cons item rest ih => exact ih (hstep found item)

/-- There is no longest known namespace that a text goes on after if there is none at all. -/
theorem longestBelow?_eq_none_iff :
    known.longestBelow? text = none ↔
      ∀ name ∈ known.names, ∀ rest, rest ≠ "" → text ≠ name ++ "." ++ rest := by
  have hnone (name : String) : (Dotted.below? name text).map (fun rest => (name, rest)) = none ↔
      ∀ rest, rest ≠ "" → text ≠ name ++ "." ++ rest := by
    rw [Option.map_eq_none_iff, ← Option.not_isSome_iff_eq_none, Dotted.isSome_below?_iff]
    simp only [not_exists, not_and, ne_eq]
  rw [longestBelow?]
  simp only [← hnone]
  rw [← List.filterMap_eq_nil_iff]
  cases known.names.filterMap fun name =>
    (Dotted.below? name text).map fun rest => (name, rest) with
  | nil => exact iff_of_true rfl rfl
  | cons candidate rest =>
      refine iff_of_false (foldl_ne_none (fun longest candidate => ?_) rest
        (Option.some_ne_none candidate)) (List.cons_ne_nil candidate rest)
      cases longest with
      | none => exact Option.some_ne_none candidate
      | some best =>
          dsimp only
          split
          · exact Option.some_ne_none candidate
          · exact Option.some_ne_none best

/-- The qualifier of a name that goes on after no known namespace goes on after none either. -/
theorem longestBelow?_left (h : known.longestBelow? (left ++ "." ++ right) = none) :
    known.longestBelow? left = none := by
  rw [longestBelow?_eq_none_iff] at h ⊢
  rintro name hname rest hrest rfl
  refine h name hname (rest ++ "." ++ right) ?_ ?_
  · simp [hrest]
  · simp [String.append_assoc]

/-- The qualifier of a name that goes on after no known namespace is not one. -/
theorem contains_left (h : known.longestBelow? (left ++ "." ++ right) = none)
    (hright : right ≠ "") : known.contains left = false := by
  refine Bool.eq_false_iff.mpr fun hleft => ?_
  exact longestBelow?_eq_none_iff.mp h left (List.contains_iff_mem.mp hleft) right hright rfl

/-! ### The longest one -/

/-- Whether a text goes on after a known namespace, and after no longer one. -/
structure LongestBelow (known : KnownNamespaces) (text name rest : String) : Prop where
  mem : name ∈ known.names
  rest_ne : rest ≠ ""
  text_eq : text = name ++ "." ++ rest
  longest : ∀ other ∈ known.names, ∀ more, more ≠ "" → text = other ++ "." ++ more →
    other.length ≤ name.length

/-- A text goes on after one longest known namespace at most. -/
theorem LongestBelow.unique {name rest other more : String}
    (h : known.LongestBelow text name rest) (hother : known.LongestBelow text other more) :
    other = name ∧ more = rest := by
  have hlength : other.toList.length = name.toList.length := by
    rw [String.length_toList, String.length_toList]
    exact Nat.le_antisymm (h.longest other hother.mem more hother.rest_ne hother.text_eq)
      (hother.longest name h.mem rest h.rest_ne h.text_eq)
  have htext : other.toList ++ ('.' :: more.toList) = name.toList ++ ('.' :: rest.toList) := by
    have hsame := congrArg String.toList (hother.text_eq.symm.trans h.text_eq)
    simpa using hsame
  obtain ⟨hname, hrest⟩ := List.append_inj htext hlength
  exact ⟨String.toList_inj.mp hname, String.toList_inj.mp (List.cons.inj hrest).2⟩

/-- One segment goes on after nothing. -/
theorem not_longestBelow_of_isSegment {name rest : String} (htext : Dotted.IsSegment text) :
    ¬ known.LongestBelow text name rest := by
  intro h
  have hdot := htext.2
  rw [h.text_eq] at hdot
  simp at hdot

/-- A fold that keeps the longer of two candidates, and the later one of two that are as long, ends
with a longest one. -/
theorem longest_of_foldl {candidates : List (String × String)} {start : Option (String × String)}
    {best : String × String}
    (h : candidates.foldl (fun longest candidate =>
      match longest with
      | none => some candidate
      | some best => if best.1.length ≤ candidate.1.length then some candidate else some best)
      start = some best) :
    (best ∈ candidates ∨ start = some best) ∧
      (∀ candidate ∈ candidates, candidate.1.length ≤ best.1.length) ∧
      ∀ first ∈ start, first.1.length ≤ best.1.length := by
  induction candidates generalizing start with
  | nil =>
      obtain rfl : start = some best := h
      exact ⟨.inr rfl, List.forall_mem_nil _, fun first hfirst =>
        Nat.le_of_eq (congrArg (·.1.length) (Option.some.inj hfirst).symm)⟩
  | cons candidate rest ih =>
      obtain ⟨hbest, hrest, hnext⟩ := ih h
      cases start with
      | none =>
          refine ⟨.inl ?_, List.forall_mem_cons.mpr ⟨hnext candidate rfl, hrest⟩, nofun⟩
          rcases hbest with hmem | hsame
          · exact .tail candidate hmem
          · exact Option.some.inj hsame ▸ .head rest
      | some first =>
          dsimp only at hbest hnext
          split at hbest
          next hle =>
            rw [if_pos hle] at hnext
            have hcandidate := hnext candidate rfl
            refine ⟨.inl ?_, List.forall_mem_cons.mpr ⟨hcandidate, hrest⟩, ?_⟩
            · rcases hbest with hmem | hsame
              · exact .tail candidate hmem
              · exact Option.some.inj hsame ▸ .head rest
            · rintro _ ⟨⟩
              exact Nat.le_trans hle hcandidate
          next hlt =>
            rw [if_neg hlt] at hnext
            have hfirst := hnext first rfl
            refine ⟨hbest.imp_left (.tail candidate), List.forall_mem_cons.mpr ⟨?_, hrest⟩, ?_⟩
            · exact Nat.le_trans (Nat.le_of_lt (Nat.lt_of_not_le hlt)) hfirst
            · rintro _ ⟨⟩
              exact hfirst

/-- Shortening finds the longest known namespace that a text goes on after. -/
theorem longestBelow?_eq_some_iff {name rest : String} :
    known.longestBelow? text = some (name, rest) ↔ known.LongestBelow text name rest := by
  have hsound {name rest : String} (h : known.longestBelow? text = some (name, rest)) :
      known.LongestBelow text name rest := by
    obtain ⟨hbest, hlongest, -⟩ := longest_of_foldl h
    rcases hbest with hmem | hnone
    · obtain ⟨other, hother, hbelow⟩ := List.mem_filterMap.mp hmem
      obtain ⟨more, hmore, heq⟩ := Option.map_eq_some_iff.mp hbelow
      obtain ⟨rfl, rfl⟩ := Prod.mk.inj heq
      obtain ⟨hne, htext⟩ := Dotted.below?_eq_some_iff.mp hmore
      refine ⟨hother, hne, htext, fun candidate hcandidate more hmore htext => ?_⟩
      refine hlongest (candidate, more) (List.mem_filterMap.mpr ⟨candidate, hcandidate, ?_⟩)
      rw [Dotted.below?_eq_some_iff.mpr ⟨hmore, htext⟩, Option.map_some]
    · cases hnone
  refine ⟨hsound, fun h => ?_⟩
  cases hfound : known.longestBelow? text with
  | none => exact absurd h.text_eq (longestBelow?_eq_none_iff.mp hfound name h.mem rest h.rest_ne)
  | some found =>
      obtain ⟨hname, hrest⟩ := h.unique (hsound hfound)
      rw [← hname, ← hrest]

/-- Of the known namespaces that a text goes on after one is the longest. -/
theorem exists_longestBelow {name rest : String} (hname : name ∈ known.names) (hrest : rest ≠ "")
    (htext : text = name ++ "." ++ rest) : ∃ name rest, known.LongestBelow text name rest := by
  cases hfound : known.longestBelow? text with
  | none => exact absurd htext (longestBelow?_eq_none_iff.mp hfound name hname rest hrest)
  | some found => exact ⟨found.1, found.2, longestBelow?_eq_some_iff.mp hfound⟩

/-- A name whose last part is one segment goes on after its qualifier, if that is known, and
otherwise after what its qualifier goes on after. -/
theorem LongestBelow.qualifier {name rest : String}
    (h : known.LongestBelow (left ++ "." ++ right) name rest)
    (hleft : ∀ piece ∈ Dotted.pieces left, piece ≠ "") (hright : Dotted.IsSegment right) :
    known.contains left ∧ rest = right ∨
      known.contains left = false ∧
        ∃ between, known.LongestBelow left name between ∧ rest = between ++ "." ++ right := by
  have hcases {other more : String} (htext : left ++ "." ++ right = other ++ "." ++ more) :=
    Dotted.eq_or_below_of_append_dot hleft hright.2 htext
  cases hknown : known.contains left with
  | true =>
      have hlongest : known.LongestBelow (left ++ "." ++ right) left right := by
        refine ⟨List.contains_iff_mem.mp hknown, hright.1, rfl, fun other _ more _ htext => ?_⟩
        rcases hcases htext with ⟨rfl, -⟩ | ⟨between, -, rfl, -⟩
        · exact Nat.le_refl _
        · simp only [String.length_append]
          omega
      exact .inl ⟨rfl, (hlongest.unique h).2⟩
  | false =>
      rcases hcases h.text_eq with ⟨rfl, -⟩ | ⟨between, hbetween, htext, hrest⟩
      · rw [contains, List.contains_iff_mem.mpr h.mem] at hknown
        cases hknown
      · refine .inr ⟨rfl, between, ⟨h.mem, hbetween, htext, ?_⟩, hrest⟩
        intro other hother more hmore hbelow
        refine h.longest other hother (more ++ "." ++ right) ?_ ?_
        · simp [hmore]
        · simp [hbelow, String.append_assoc]

/-! ### Names -/

/-- Inserting adds one item. -/
theorem mem_insertLast {items : List String} {item other : String} :
    other ∈ insertLast items item ↔ other ∈ items ∨ other = item := by
  unfold insertLast
  split
  next hmem =>
    refine (or_iff_left_of_imp ?_).symm
    rintro rfl
    exact List.contains_iff_mem.mp hmem
  next => rw [List.mem_append, List.mem_singleton]

/-- Inserting makes a name known, unless it is the empty one. -/
theorem mem_names_insert {name other : String} :
    name ∈ (known.insert other).names ↔ name ∈ known.names ∨ name ≠ "" ∧ name = other := by
  unfold insert
  split
  next hempty =>
    refine (or_iff_left ?_).symm
    rintro ⟨hname, hsame⟩
    exact hname (hsame.trans hempty)
  next hne =>
    rw [and_iff_right_of_imp fun hsame => hsame ▸ hne]
    exact mem_insertLast

/-- Of given names those are known that are not empty. -/
theorem mem_names_ofNames {root name : String} {names : List String} :
    name ∈ (ofNames root names).names ↔ name ≠ "" ∧ name ∈ names := by
  have hfold (known : KnownNamespaces) : name ∈ (names.foldl insert known).names ↔
      name ∈ known.names ∨ name ≠ "" ∧ name ∈ names := by
    induction names generalizing known with
    | nil => simp
    | cons first rest ih =>
        rw [List.foldl_cons, ih, mem_names_insert, or_assoc, ← and_or_left, List.mem_cons]
  exact (hfold { root }).trans (or_iff_right List.not_mem_nil)

/-- Different names that are not empty are known in the order in which they are given. -/
theorem names_ofNames {root : String} {names : List String} (hnodup : names.Nodup)
    (hne : ∀ name ∈ names, name ≠ "") : (ofNames root names).names = names := by
  have hfold (known : KnownNamespaces) (hnew : ∀ name ∈ names, name ∉ known.names) :
      (names.foldl insert known).names = known.names ++ names := by
    induction names generalizing known with
    | nil => exact (List.append_nil known.names).symm
    | cons first rest ih =>
        obtain ⟨hfirst, hrest⟩ := List.nodup_cons.mp hnodup
        obtain ⟨hnonempty, hnonempties⟩ := List.forall_mem_cons.mp hne
        obtain ⟨hfirstNew, hrestNew⟩ := List.forall_mem_cons.mp hnew
        have hinsert : (known.insert first).names = known.names ++ [first] := by
          rw [insert, if_neg hnonempty]
          exact if_neg fun hmem => hfirstNew (List.contains_iff_mem.mp hmem)
        rw [List.foldl_cons, ih hrest hnonempties, hinsert, List.append_assoc,
          List.singleton_append]
        intro name hname hmem
        rw [hinsert, List.mem_append, List.mem_singleton] at hmem
        rcases hmem with hmem | rfl
        · exact hrestNew name hname hmem
        · exact hfirst hname
  exact hfold { root } fun _ _ => List.not_mem_nil

/-! ### Roots -/

/-- Inserting keeps the root. -/
theorem root_insert (known : KnownNamespaces) (name : String) :
    (known.insert name).root = known.root := by
  unfold insert
  split <;> rfl

/-- The root of known names is the one that is given. -/
theorem root_ofNames (root : String) (names : List String) : (ofNames root names).root = root := by
  have hfold (known : KnownNamespaces) : (names.foldl insert known).root = known.root := by
    induction names generalizing known with
    | nil => rfl
    | cons name rest ih => exact (ih _).trans (root_insert known name)
  exact hfold { root }

/-! ### Components -/

/-- Inserting a name adds its segments to the components, but for those of the root's ancestors. -/
theorem mem_components_insert {segment other : String} :
    segment ∈ (known.insert other).components ↔ segment ∈ known.components ∨
      other ≠ "" ∧ segment ∈ (Dotted.pieces other).drop (depthAbove known.root) := by
  have hfold (inner items : List String) : segment ∈ inner.foldl insertLast items ↔
      segment ∈ items ∨ segment ∈ inner := by
    induction inner generalizing items with
    | nil => simp
    | cons first rest ih => rw [List.foldl_cons, ih, mem_insertLast, List.mem_cons, or_assoc]
  unfold insert
  split
  next hempty => exact (or_iff_left fun hother => hother.1 hempty).symm
  next hne => rw [and_iff_right hne, hfold]

/-- The components are the segments of the given names from the place of the root's last segment
on. -/
theorem mem_components_ofNames {root segment : String} {names : List String} :
    segment ∈ (ofNames root names).components ↔
      ∃ name ∈ names, name ≠ "" ∧ segment ∈ (Dotted.pieces name).drop (depthAbove root) := by
  have hfold (known : KnownNamespaces) : segment ∈ (names.foldl insert known).components ↔
      segment ∈ known.components ∨
        ∃ name ∈ names, name ≠ "" ∧
          segment ∈ (Dotted.pieces name).drop (depthAbove known.root) := by
    induction names generalizing known with
    | nil => simp
    | cons first rest ih =>
        simp only [List.foldl_cons, ih, mem_components_insert, root_insert, or_assoc,
          List.mem_cons, exists_eq_or_imp]
  exact (hfold { root }).trans (or_iff_right List.not_mem_nil)

/-! ### Collecting -/

/-- Namespaces are collected under the root that is asked for, also where it does not exist. -/
theorem root_collect (arena : SymbolArena) (root : String) : (collect arena root).root = root := by
  unfold collect
  split
  · rfl
  · split
    · rfl
    · exact root_ofNames root _

end KnownNamespaces

end Portability
