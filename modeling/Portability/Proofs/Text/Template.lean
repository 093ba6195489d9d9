import Mathlib.Data.List.Infix
import Portability.Diagnostic.Violation
import Portability.Proofs.Text.Joined

/-!
# Filled templates

What a reader expects of a filled template is `substitute`: the placeholders of the template are
told from the text around them once and for all (`cut`), and each one becomes its argument, as the
argument is. A template can be cut in one way only, with no placeholder left in the text between
(`cut_eq_iff`).

`fill` goes through the numbers one after the other instead, and takes what an argument brings in
for part of the template (`refilled_firstArgument`). Filling one number is filling it in a cut text,
and what comes out is cut at the other numbers as long as the argument and the text before it are
clear of them (`Cut.isCutAt_fillOne`). The two agree if this is so of every argument
(`fill_eq_substitute`), as in the messages of the catalog if no argument but the last has an opening
brace (`keeps_of_mem_catalog`).
-/

namespace Portability

namespace Template

/-! ### Texts cut at placeholders -/

/-- The characters of the placeholder of a number. -/
def mark (number : Nat) : List Char :=
  (placeholder number).toList

/-- A text that is cut at some of its placeholders. -/
inductive Cut where
  /-- What stands behind the last placeholder. -/
  | rest (text : List Char)
  /-- What stands before a placeholder, the number of this, and what comes behind it. -/
  | hole (before : List Char) (number : Nat) (behind : Cut)
  deriving DecidableEq, Repr

namespace Cut

/-- The whole text, with a text in place of each placeholder: with `mark`, the text that was cut. -/
def fillWith (value : Nat → List Char) : Cut → List Char
  | rest text => text
  | hole before number behind => before ++ (value number ++ behind.fillWith value)

/-- A cut text with more text in front. -/
def prepend (text : List Char) : Cut → Cut
  | rest last => rest (text ++ last)
  | hole before number behind => hole (text ++ before) number behind

/-- A cut text with `text` in place of the placeholders of one number. -/
def fillOne (number : Nat) (text : List Char) : Cut → Cut
  | rest last => rest last
  | hole before other behind =>
    if other = number then (behind.fillOne number text).prepend (before ++ text)
    else hole before other (behind.fillOne number text)

end Cut

/-- The number below `count` with whose placeholder a text starts. -/
def leading? (count : Nat) (text : List Char) : Option Nat :=
  (List.range count).find? fun number => (mark number).isPrefixOf text

/-- A text cut at the placeholders of the numbers below `count`, from left to right. `skip`
characters of the text belong to the placeholder found last. -/
def cutFrom (count : Nat) : Nat → List Char → Cut
  | _, [] => .rest []
  | skip + 1, _ :: rest => cutFrom count skip rest
  | 0, c :: rest =>
    match leading? count (c :: rest) with
    | some number => .hole [] number (cutFrom count ((mark number).length - 1) rest)
    | none => (cutFrom count 0 rest).prepend [c]

/-- `template` cut at the placeholders of the numbers below `count`. -/
def cut (template : String) (count : Nat) : Cut :=
  cutFrom count 0 template.toList

/-- The argument of a number. -/
def argumentAt (arguments : List String) (number : Nat) : List Char :=
  (arguments.getD number "").toList

/-- `template` with each placeholder of an argument replaced by this argument, and nothing else
changed. -/
def substitute (template : String) (arguments : List String) : String :=
  String.ofList ((cut template arguments.length).fillWith (argumentAt arguments))

/-! ### Placeholders -/

variable {number other count : Nat} {text before behind : List Char}

/-- A placeholder is made of braces around the digits of its number. -/
theorem mark_eq (number : Nat) : mark number = '\x7b' :: (Nat.toDigits 10 number ++ ['\x7d']) := by
  simp [mark, placeholder]

/-- A placeholder begins with the opening brace, whatever comes behind it. -/
theorem mark_append (number : Nat) (behind : List Char) :
    mark number ++ behind = '\x7b' :: ((mark number).tail ++ behind) := by
  rw [mark_eq, List.cons_append, List.tail_cons]

/-- No placeholder is empty. -/
theorem mark_ne_nil (number : Nat) : mark number ≠ [] := by
  simp [mark_eq]

/-- Only digits are among the digits of a number. -/
theorem notMem_toDigits {c : Char} (hc : c.isDigit = false) (number : Nat) :
    c ∉ Nat.toDigits 10 number := by
  intro hmem
  have hdigit := Nat.isDigit_of_mem_toDigits (by decide) (by decide) hmem
  simp [hc] at hdigit

/-- Only the first character of a placeholder is an opening brace. -/
theorem notMem_tail_mark (number : Nat) : '\x7b' ∉ (mark number).tail := by
  simp [mark_eq, notMem_toDigits (c := '\x7b') rfl number]

/-- A text starts with the placeholder of one number at most. -/
theorem number_unique (h : mark number <+: text) (hother : mark other <+: text) :
    number = other := by
  obtain ⟨behind, rfl⟩ := h
  obtain ⟨behind', heq⟩ := hother
  simp only [mark_eq, List.cons_append, List.append_assoc, List.nil_append, List.cons.injEq,
    true_and] at heq
  obtain ⟨hdigits, -⟩ := Joined.append_cons_inj_of_notMem (notMem_toDigits rfl other)
    (notMem_toDigits rfl number) heq
  have hvalue := congrArg (fun digits => Nat.ofDigitChars 10 digits 0) hdigits
  simpa using hvalue.symm

/-- Whether no placeholder of a number begins in a text that is followed by `behind`. -/
def NoneBegins (number : Nat) (text behind : List Char) : Prop :=
  ∀ start, start <:+ text → start ≠ [] → ¬ mark number <+: start ++ behind

/-- No placeholder begins in a text if none begins at its first character and none in the rest. -/
theorem noneBegins_cons_iff {c : Char} : NoneBegins number (c :: text) behind ↔
    ¬ mark number <+: c :: (text ++ behind) ∧ NoneBegins number text behind := by
  constructor
  · intro h
    exact ⟨h _ (List.suffix_refl _) (List.cons_ne_nil c text),
      fun start hstart => h start (List.suffix_cons_iff.mpr (.inr hstart))⟩
  · rintro ⟨hfirst, hrest⟩ start hstart hne
    rcases List.suffix_cons_iff.mp hstart with rfl | hstart
    · exact hfirst
    · exact hrest start hstart hne

/-- No placeholder reaches beyond its own text into the next placeholder. -/
theorem noneBegins_of_lacks (h : ¬ mark number <:+: text)
    (hbehind : ∀ c ∈ behind.head?, c = '\x7b') : NoneBegins number text behind := by
  intro start hstart hne hstarts
  have hinside : ¬ mark number <+: start := fun hmark =>
    h (hmark.isInfix.trans hstart.isInfix)
  rcases List.prefix_or_prefix_of_prefix hstarts (List.prefix_append start behind)
    with hmark | ⟨left, hleft⟩
  · exact hinside hmark
  · rw [← hleft, List.prefix_append_right_inj] at hstarts
    cases left with
    | nil => exact hinside (by rw [← hleft, List.append_nil])
    | cons c left =>
        -- The brace with which `behind` starts would stand within the placeholder.
        obtain ⟨rest, rfl⟩ := hstarts
        obtain rfl : c = '\x7b' := hbehind c rfl
        have htail := notMem_tail_mark number
        rw [← hleft, List.tail_append_of_ne_nil hne] at htail
        simp at htail

/-- Within a placeholder begins none of another number. -/
theorem noneBegins_mark (h : number ≠ other) (behind : List Char) :
    NoneBegins number (mark other) behind := by
  intro start hstart hne hstarts
  rw [mark_eq other, List.suffix_cons_iff, ← mark_eq] at hstart
  rcases hstart with rfl | hstart
  · exact h (number_unique hstarts (List.prefix_append (mark other) behind))
  · obtain ⟨c, rest, rfl⟩ := List.exists_cons_of_ne_nil hne
    obtain ⟨rfl, -⟩ : '\x7b' = c ∧ _ := by
      rwa [mark_eq, List.cons_append, List.cons_prefix_cons] at hstarts
    exact notMem_tail_mark other (by simpa [mark_eq] using hstart.mem List.mem_cons_self)

/-! ### Replacing one number -/

/-- Characters that are to be skipped are skipped. -/
theorem replaceFrom_length_append (pattern replacement skipped behind : List Char) :
    replaceFrom pattern replacement skipped.length (skipped ++ behind) =
      replaceFrom pattern replacement 0 behind := by
  induction skipped with
  | nil => rfl
  | cons c skipped ih => exact ih

/-- A placeholder that comes first is replaced. -/
theorem replaceFrom_mark_append (number : Nat) (replacement behind : List Char) :
    replaceFrom (mark number) replacement 0 (mark number ++ behind) =
      replacement ++ replaceFrom (mark number) replacement 0 behind := by
  have hfound : (mark number).isPrefixOf ('\x7b' :: ((mark number).tail ++ behind)) = true := by
    rw [List.isPrefixOf_iff_prefix, ← mark_append]
    exact List.prefix_append (mark number) behind
  rw [mark_append, replaceFrom, if_pos hfound, ← List.length_tail, replaceFrom_length_append]

/-- A text in which no placeholder begins is left as it is. -/
theorem replaceFrom_append_of_noneBegins (h : NoneBegins number text behind)
    (replacement : List Char) :
    replaceFrom (mark number) replacement 0 (text ++ behind) =
      text ++ replaceFrom (mark number) replacement 0 behind := by
  induction text with
  | nil => rfl
  | cons c text ih =>
      obtain ⟨hfirst, hrest⟩ := noneBegins_cons_iff.mp h
      rw [List.cons_append, replaceFrom, if_neg (by rwa [List.isPrefixOf_iff_prefix]), ih hrest]
      rfl

namespace Cut

/-- Whether the placeholders of the numbers from `first` on below `count` are those at which a text
is cut. -/
def IsCutAt (first count : Nat) : Cut → Prop
  | rest text => ∀ number, first ≤ number → number < count → ¬ mark number <:+: text
  | hole before other behind =>
    (∀ number, first ≤ number → number < count → ¬ mark number <:+: before) ∧
      (first ≤ other ∧ other < count) ∧ behind.IsCutAt first count

/-- A text before the first piece stays before it when the holes are filled. -/
theorem fillWith_prepend (value : Nat → List Char) (text : List Char) (pieces : Cut) :
    (pieces.prepend text).fillWith value = text ++ pieces.fillWith value := by
  cases pieces with
  | rest last => rfl
  | hole before other behind => exact List.append_assoc text before _

/-- Text in front of a cut text belongs to what stands before the first placeholder. -/
theorem IsCutAt.prepend {first : Nat} {pieces : Cut} (h : pieces.IsCutAt first count)
    (htext : ∀ number, first ≤ number → number < count → ∀ next, next <+: pieces.fillWith mark →
      ¬ mark number <:+: next → ¬ mark number <:+: text ++ next) :
    (pieces.prepend text).IsCutAt first count := by
  cases pieces with
  | rest last =>
      intro number hfirst hcount
      exact htext number hfirst hcount last (List.prefix_refl last) (h number hfirst hcount)
  | hole before other behind =>
      refine ⟨fun number hfirst hcount => ?_, h.2⟩
      have hbefore := h.1 number hfirst hcount
      exact htext number hfirst hcount before (List.prefix_append before _) hbefore

/-- The empty text before a cut changes nothing. -/
theorem prepend_nil (pieces : Cut) : pieces.prepend [] = pieces := by
  cases pieces <;> rfl

/-- Texts are put before a cut one before the other. -/
theorem prepend_prepend (text more : List Char) (pieces : Cut) :
    (pieces.prepend more).prepend text = pieces.prepend (text ++ more) := by
  cases pieces <;> simp [prepend]

/-- Replacing the placeholders of a number is filling those at which the text is cut. -/
theorem replaceFrom_fillWith_mark {first : Nat} {pieces : Cut} (hcut : pieces.IsCutAt first count)
    (hnumber : first ≤ number ∧ number < count) (replacement : List Char) :
    replaceFrom (mark number) replacement 0 (pieces.fillWith mark) =
      (pieces.fillOne number replacement).fillWith mark := by
  induction pieces with
  | rest last =>
      have hnone : NoneBegins number last [] :=
        noneBegins_of_lacks (hcut number hnumber.1 hnumber.2) (by simp)
      have hreplaced := replaceFrom_append_of_noneBegins hnone replacement
      rwa [replaceFrom, List.append_nil] at hreplaced
  | hole before other behind ih =>
      obtain ⟨hbefore, -, hbehind⟩ := hcut
      have hnone : NoneBegins number before (mark other ++ behind.fillWith mark) :=
        noneBegins_of_lacks (hbefore number hnumber.1 hnumber.2) (by simp [mark_eq])
      rw [fillWith, fillOne, replaceFrom_append_of_noneBegins hnone]
      split
      next heq =>
        rw [heq, replaceFrom_mark_append, ih hbehind, fillWith_prepend, List.append_assoc]
      next hne =>
        rw [replaceFrom_append_of_noneBegins (noneBegins_mark (Ne.symm hne) _), ih hbehind]
        rfl

end Cut

/-! ### What the next numbers find -/

/-- Whether a text neither holds the placeholder of a number nor ends with the beginning of one, so
that it takes part in none whatever comes next. -/
def IsClear (number : Nat) (text : List Char) : Prop :=
  ¬ mark number <:+: text ∧ ∀ start ∈ (mark number).inits, start <:+ text → start = []

/-- Decides whether a text is clear: a placeholder has finitely many beginnings. -/
instance (number : Nat) (text : List Char) : Decidable (IsClear number text) :=
  inferInstanceAs (Decidable (_ ∧ _))

/-- Behind a clear text a placeholder is found only in what comes next. -/
theorem IsClear.not_infix_append (h : IsClear number text) (hbehind : ¬ mark number <:+: behind) :
    ¬ mark number <:+: text ++ behind := by
  rw [List.infix_append_iff]
  rintro (htext | hinside | ⟨start, stop, hmark, hstart, hstop⟩)
  · exact h.1 htext
  · exact hbehind hinside
  · have hinit : start ∈ (mark number).inits :=
      (List.mem_inits _ _).mpr (hmark ▸ List.prefix_append start stop)
    obtain rfl : start = [] := h.2 start hinit hstart
    rw [hmark] at hbehind
    exact hbehind hstop.isInfix

/-- Clear texts one after the other are clear. -/
theorem IsClear.append (h : IsClear number text) (hbehind : IsClear number behind) :
    IsClear number (text ++ behind) := by
  refine ⟨h.not_infix_append hbehind.1, fun start hinit hstart => ?_⟩
  rcases List.suffix_or_suffix_of_suffix hstart (List.suffix_append text behind)
    with hshort | ⟨left, rfl⟩
  · exact hbehind.2 start hinit hshort
  · -- The beginning of a placeholder that is longer than `behind` began in `text`.
    have hleft : left = [] := by
      obtain ⟨earlier, heq⟩ := hstart
      rw [← List.append_assoc] at heq
      refine h.2 left ?_ ⟨earlier, List.append_cancel_right heq⟩
      rw [List.mem_inits] at hinit ⊢
      exact (List.prefix_append left behind).trans hinit
    rw [hleft, List.nil_append] at hinit ⊢
    exact hbehind.2 behind hinit (List.suffix_refl behind)

namespace Cut

/-- Whether no argument brings in a placeholder of a later number below `count`, be it alone or with
the text between the placeholder before it and its own. -/
def Keeps (value : Nat → List Char) (count : Nat) : Cut → Prop
  | rest _ => True
  | hole before number behind =>
    (∀ later < count, number < later → IsClear later (before ++ value number)) ∧
      behind.Keeps value count

/-- Decides whether the arguments keep the placeholders, hole by hole. -/
instance decidableKeeps (value : Nat → List Char) (count : Nat) :
    (pieces : Cut) → Decidable (pieces.Keeps value count)
  | rest _ => isTrue trivial
  | hole _ _ behind =>
    have := decidableKeeps value count behind
    inferInstanceAs (Decidable (_ ∧ _))

variable {value : Nat → List Char} {first : Nat} {pieces : Cut}

/-- A clear text may be put before a cut whose placeholders are kept. -/
theorem Keeps.prepend (h : pieces.Keeps value count) (hcut : pieces.IsCutAt first count)
    (htext : ∀ number, first ≤ number → number < count → IsClear number text) :
    (pieces.prepend text).Keeps value count := by
  cases pieces with
  | rest last => trivial
  | hole before other behind =>
      refine ⟨fun later hcount hlater => ?_, h.2⟩
      have hclear := htext later (Nat.le_of_lt (Nat.lt_of_le_of_lt hcut.2.1.1 hlater)) hcount
      rw [List.append_assoc]
      exact hclear.append (h.1 later hcount hlater)

/-- Once the first number is filled, a text is cut at the placeholders of the others. -/
theorem isCutAt_fillOne (hcut : pieces.IsCutAt first count) (hkeeps : pieces.Keeps value count) :
    (pieces.fillOne first (value first)).IsCutAt (first + 1) count ∧
      (pieces.fillOne first (value first)).Keeps value count := by
  induction pieces with
  | rest last => exact ⟨fun number hfirst => hcut number (Nat.le_of_succ_le hfirst), trivial⟩
  | hole before other behind ih =>
      obtain ⟨hbefore, ⟨hfirst, hcount⟩, hcutBehind⟩ := hcut
      obtain ⟨hclear, hkeepsBehind⟩ := hkeeps
      obtain ⟨hcutFilled, hkeepsFilled⟩ := ih hcutBehind hkeepsBehind
      rw [fillOne]
      split
      next heq =>
        rw [heq] at hclear
        have htext (number : Nat) (hnumber : first + 1 ≤ number) (hcount : number < count) :
            IsClear number (before ++ value first) :=
          hclear number hcount hnumber
        exact ⟨hcutFilled.prepend fun number hnumber hcount next _ =>
            (htext number hnumber hcount).not_infix_append,
          hkeepsFilled.prepend hcutFilled htext⟩
      next hne =>
        have hlater : first + 1 ≤ other := Nat.lt_of_le_of_ne hfirst (Ne.symm hne)
        exact ⟨⟨fun number hnumber => hbefore number (Nat.le_of_succ_le hnumber),
          ⟨hlater, hcount⟩, hcutFilled⟩, hclear, hkeepsFilled⟩

/-- Filling one hole first and all others after it is filling all at once. -/
theorem fillWith_fillOne (value : Nat → List Char) (number : Nat) (pieces : Cut) :
    (pieces.fillOne number (value number)).fillWith value = pieces.fillWith value := by
  induction pieces with
  | rest last => rfl
  | hole before other behind ih =>
      rw [fillOne]
      split
      next heq => rw [fillWith_prepend, ih, fillWith, heq, List.append_assoc]
      next => rw [fillWith, fillWith, ih]

/-- A text is cut nowhere if no number is left. -/
theorem fillWith_eq_of_isCutAt {other : Nat → List Char} (h : pieces.IsCutAt first count)
    (hcount : count ≤ first) : pieces.fillWith value = pieces.fillWith other := by
  cases pieces with
  | rest last => rfl
  | hole before number behind =>
      exact absurd (Nat.lt_of_le_of_lt h.2.1.1 h.2.1.2) (Nat.not_lt.mpr hcount)

end Cut

/-! ### The cut of a template -/

/-- Nothing leads a text that begins with none of the placeholders. -/
theorem leading?_eq_none_iff :
    leading? count text = none ↔ ∀ number < count, ¬ mark number <+: text := by
  simp [leading?, List.find?_eq_none, ← List.isPrefixOf_iff_prefix]

/-- The number that leads a text is that of the placeholder it begins with. -/
theorem leading?_eq_some_iff :
    leading? count text = some number ↔ number < count ∧ mark number <+: text := by
  have hfound {found : Nat} (h : leading? count text = some found) :
      found < count ∧ mark found <+: text := by
    have hstarts := List.find?_some h
    exact ⟨List.mem_range.mp (List.mem_of_find?_eq_some h),
      List.isPrefixOf_iff_prefix.mp hstarts⟩
  refine ⟨hfound, fun h => ?_⟩
  cases hleading : leading? count text with
  | none => exact absurd h.2 (leading?_eq_none_iff.mp hleading number h.1)
  | some found => rw [number_unique (hfound hleading).2 h.2]

/-- Characters that are to be skipped are not cut again. -/
theorem cutFrom_length_append (count : Nat) (skipped behind : List Char) :
    cutFrom count skipped.length (skipped ++ behind) = cutFrom count 0 behind := by
  induction skipped with
  | nil => rfl
  | cons c skipped ih => exact ih

/-- A placeholder that comes first becomes a hole. -/
theorem cutFrom_mark_append (hnumber : number < count) (behind : List Char) :
    cutFrom count 0 (mark number ++ behind) = .hole [] number (cutFrom count 0 behind) := by
  have hfound : leading? count ('\x7b' :: ((mark number).tail ++ behind)) = some number := by
    rw [← mark_append]
    exact leading?_eq_some_iff.mpr ⟨hnumber, List.prefix_append (mark number) behind⟩
  rw [mark_append, cutFrom, hfound]
  dsimp only
  rw [← List.length_tail, cutFrom_length_append]

/-- A text in which no placeholder begins stays before the first hole. -/
theorem cutFrom_append_of_noneBegins (h : ∀ number < count, NoneBegins number text behind) :
    cutFrom count 0 (text ++ behind) = (cutFrom count 0 behind).prepend text := by
  induction text with
  | nil => rw [List.nil_append, Cut.prepend_nil]
  | cons c text ih =>
      have hleading : leading? count (c :: (text ++ behind)) = none :=
        leading?_eq_none_iff.mpr fun number hnumber =>
          (noneBegins_cons_iff.mp (h number hnumber)).1
      rw [List.cons_append, cutFrom, hleading]
      dsimp only
      rw [ih fun number hnumber => (noneBegins_cons_iff.mp (h number hnumber)).2,
        Cut.prepend_prepend, List.singleton_append]

/-- A text is cut at all placeholders of the numbers. -/
theorem cutFrom_spec (count : Nat) : ∀ text : List Char,
    (cutFrom count 0 text).fillWith mark = text ∧ (cutFrom count 0 text).IsCutAt 0 count
  | [] => ⟨rfl, fun number _ _ h => mark_ne_nil number (List.infix_nil.mp h)⟩
  | c :: rest => by
      cases hleading : leading? count (c :: rest) with
      | none =>
          obtain ⟨hfill, hcut⟩ := cutFrom_spec count rest
          rw [cutFrom, hleading]
          dsimp only
          refine ⟨by rw [Cut.fillWith_prepend, hfill, List.singleton_append],
            hcut.prepend fun number _ hcount next hnext hnone hholds => ?_⟩
          rw [hfill] at hnext
          -- a placeholder in the piece starts with its first character or lies behind it
          rcases List.infix_cons_iff.mp hholds with hstarts | hinside
          · exact leading?_eq_none_iff.mp hleading number hcount
              (hstarts.trans ((List.prefix_cons_inj c).mpr hnext))
          · exact hnone hinside
      | some number =>
          obtain ⟨hcount, behind, hbehind⟩ := leading?_eq_some_iff.mp hleading
          have hshorter : behind.length < rest.length + 1 := by
            have hlength := congrArg List.length hbehind
            have hmark := List.length_pos_of_ne_nil (mark_ne_nil number)
            simp only [List.length_append, List.length_cons] at hlength
            omega
          obtain ⟨hfill, hcut⟩ := cutFrom_spec count behind
          rw [← hbehind, cutFrom_mark_append hcount]
          refine ⟨by rw [Cut.fillWith, hfill, List.nil_append], ?_⟩
          exact ⟨fun other _ _ h => mark_ne_nil other (List.infix_nil.mp h),
            ⟨Nat.zero_le number, hcount⟩, hcut⟩
  termination_by text => text.length

/-- What is cut at all placeholders of the numbers is the cut of its text. -/
theorem cutFrom_fillWith_mark {pieces : Cut} (h : pieces.IsCutAt 0 count) :
    cutFrom count 0 (pieces.fillWith mark) = pieces := by
  induction pieces with
  | rest last =>
      have hnone : ∀ number < count, NoneBegins number last [] := fun number hnumber =>
        noneBegins_of_lacks (h number (Nat.zero_le number) hnumber) (by simp)
      have hcut := cutFrom_append_of_noneBegins hnone
      rw [List.append_nil] at hcut
      rw [Cut.fillWith, hcut, cutFrom, Cut.prepend, List.append_nil]
  | hole before other behind ih =>
      obtain ⟨hbefore, ⟨-, hother⟩, hbehind⟩ := h
      have hnone : ∀ number < count,
          NoneBegins number before (mark other ++ behind.fillWith mark) := fun number hnumber =>
        noneBegins_of_lacks (hbefore number (Nat.zero_le number) hnumber) (by simp [mark_eq])
      rw [Cut.fillWith, cutFrom_append_of_noneBegins hnone, cutFrom_mark_append hother, ih hbehind,
        Cut.prepend, List.append_nil]

/-- A template has one cut: the one at all placeholders of the numbers. -/
theorem cut_eq_iff {template : String} {pieces : Cut} : cut template count = pieces ↔
    pieces.fillWith mark = template.toList ∧ pieces.IsCutAt 0 count := by
  constructor
  · rintro rfl
    exact cutFrom_spec count template.toList
  · rintro ⟨hfill, hcut⟩
    rw [cut, ← hfill, cutFrom_fillWith_mark hcut]

/-! ### One number after the other -/

/-- The numbers from `first` on are filled in a text that is cut at their placeholders, and what each
of them leaves is a text that is cut at those of the numbers that follow. -/
theorem fillFrom_eq {arguments rest : List String} {first : Nat} {pieces : Cut}
    (hrest : arguments.drop first = rest) (hcut : pieces.IsCutAt first arguments.length)
    (hkeeps : pieces.Keeps (argumentAt arguments) arguments.length) :
    fillFrom first (String.ofList (pieces.fillWith mark)) rest =
      String.ofList (pieces.fillWith (argumentAt arguments)) := by
  induction rest generalizing first pieces with
  | nil =>
      rw [fillFrom, Cut.fillWith_eq_of_isCutAt hcut (List.drop_eq_nil_iff.mp hrest)]
  | cons argument rest ih =>
      have hargument : arguments[first]? = some argument := by
        rw [← List.head?_drop, hrest, List.head?_cons]
      have hvalue : argument.toList = argumentAt arguments first := by
        rw [argumentAt, List.getD_eq_getElem?_getD, hargument, Option.getD_some]
      obtain ⟨hlt, -⟩ := List.getElem?_eq_some_iff.mp hargument
      obtain ⟨hcutFilled, hkeepsFilled⟩ := Cut.isCutAt_fillOne hcut hkeeps
      have hleft : arguments.drop (first + 1) = rest := by
        rw [← List.tail_drop, hrest, List.tail_cons]
      rw [fillFrom, replaceAll, String.toList_ofList, hvalue, ← mark,
        Cut.replaceFrom_fillWith_mark hcut ⟨Nat.le_refl first, hlt⟩,
        ih hleft hcutFilled hkeepsFilled, Cut.fillWith_fillOne]

/-- **Arguments stand in a filled template as they are.** Of each placeholder of the template, let
its argument with the text between it and the placeholder before hold no placeholder of a later
argument, nor end with the beginning of one. Then filling the template replaces its placeholders by
the arguments of their numbers and changes nothing else. -/
theorem fill_eq_substitute (template : String) (arguments : List String)
    (hkeeps : (cut template arguments.length).Keeps (argumentAt arguments) arguments.length) :
    fill template arguments = substitute template arguments := by
  obtain ⟨hfill, hcut⟩ := cut_eq_iff.mp (rfl : cut template arguments.length = _)
  have hfilled := fillFrom_eq (List.drop_zero) hcut hkeeps
  rwa [hfill, String.ofList_toList] at hfilled

/-- The placeholders that these arguments bring in have no argument or that of an earlier number. -/
theorem fill_eq_substitute_keptBraces :
    let template := "from '\x7b0\x7d' to '\x7b1\x7d'"
    let arguments := ["Box\x7b2\x7d", "\x7b0\x7d"]
    (cut template arguments.length).Keeps (argumentAt arguments) arguments.length ∧
    fill template arguments = "from 'Box\x7b2\x7d' to '\x7b0\x7d'" := by
  intro template arguments
  have hkeeps : (cut template arguments.length).Keeps (argumentAt arguments) arguments.length := by
    decide
  refine ⟨hkeeps, ?_⟩
  rw [fill_eq_substitute template arguments hkeeps]
  decide

/-- A placeholder that the first argument brings in is filled with the second one. -/
theorem refilled_firstArgument :
    let template := "\x7b0\x7d"
    let arguments := ["\x7b1\x7d", "x"]
    substitute template arguments = "\x7b1\x7d" ∧ fill template arguments = "x" := by
  decide

/-! ### The messages of the catalog -/

/-- A text without an opening brace is clear, whatever the number. -/
theorem isClear_of_notMem (h : '\x7b' ∉ text) : IsClear number text := by
  refine ⟨fun hholds => h (hholds.mem (by simp [mark_eq])), fun start hinit hstart => ?_⟩
  cases start with
  | nil => rfl
  | cons c start =>
      rw [List.mem_inits, mark_eq, List.cons_prefix_cons] at hinit
      obtain ⟨rfl, -⟩ := hinit
      exact absurd (hstart.mem List.mem_cons_self) h

namespace Cut

/-- Whether the text around the placeholders has no opening brace. -/
def IsPlain : Cut → Prop
  | rest text => '\x7b' ∉ text
  | hole before _ behind => '\x7b' ∉ before ∧ behind.IsPlain

/-- Decides whether a cut is plain, text by text. -/
instance decidableIsPlain : (pieces : Cut) → Decidable pieces.IsPlain
  | rest text => inferInstanceAs (Decidable ('\x7b' ∉ text))
  | hole _ _ behind =>
    have := decidableIsPlain behind
    inferInstanceAs (Decidable (_ ∧ _))

variable {value : Nat → List Char} {first fewer : Nat} {pieces : Cut}

/-- A plain cut stays one when there are more arguments. -/
theorem IsPlain.isCutAt (h : pieces.IsPlain) (hcut : pieces.IsCutAt first fewer)
    (hle : fewer ≤ count) : pieces.IsCutAt first count := by
  induction pieces with
  | rest last => exact fun number _ _ => (isClear_of_notMem h).1
  | hole before other behind ih =>
      obtain ⟨-, ⟨hfirst, hfewer⟩, hbehind⟩ := hcut
      exact ⟨fun number _ _ => (isClear_of_notMem h.1).1,
        ⟨hfirst, Nat.lt_of_lt_of_le hfewer hle⟩, ih h.2 hbehind⟩

/-- Arguments without opening braces, the last one apart, keep the placeholders of a plain cut. -/
theorem IsPlain.keeps (h : pieces.IsPlain)
    (hvalue : ∀ number, number + 1 < count → '\x7b' ∉ value number) :
    pieces.Keeps value count := by
  induction pieces with
  | rest last => trivial
  | hole before other behind ih =>
      refine ⟨fun later hcount hlater => ?_, ih h.2⟩
      have hother := hvalue other (Nat.lt_of_le_of_lt hlater hcount)
      exact isClear_of_notMem (by simp [h.1, hother])

/-- One argument has none that is later. -/
theorem keeps_of_count_lt_two (value : Nat → List Char) (hcount : count < 2) (pieces : Cut) :
    pieces.Keeps value count := by
  induction pieces with
  | rest last => trivial
  | hole before other behind ih => exact ⟨fun later _ _ => by omega, ih⟩

end Cut

/-- In the messages of the catalog arguments stand as they are if none but the last has an opening
brace. -/
theorem keeps_of_mem_catalog {entry : MessageEntry} (hentry : entry ∈ MessageEntry.catalog)
    {arguments : List String}
    (harguments : ∀ argument ∈ arguments.dropLast, '\x7b' ∉ argument.toList) :
    (cut entry.template arguments.length).Keeps (argumentAt arguments) arguments.length := by
  have hcatalog : ∀ entry ∈ MessageEntry.catalog, (cut entry.template 2).IsPlain := by
    decide +kernel
  have hplain := hcatalog entry hentry
  rcases Nat.lt_or_ge arguments.length 2 with hfew | hmany
  · exact Cut.keeps_of_count_lt_two _ hfew _
  · obtain ⟨hfill, hcut⟩ := cut_eq_iff.mp (rfl : cut entry.template 2 = _)
    rw [cut_eq_iff.mpr ⟨hfill, hplain.isCutAt hcut hmany⟩]
    refine hplain.keeps fun number hnumber => ?_
    have hlt : number < arguments.dropLast.length := by
      rw [List.length_dropLast]
      omega
    have hvalue : arguments.getD number "" = arguments.dropLast[number] := by
      simp [List.getElem?_eq_getElem (show number < arguments.length by omega)]
    rw [argumentAt, hvalue]
    exact harguments _ (List.getElem_mem hlt)

end Template

end Portability
