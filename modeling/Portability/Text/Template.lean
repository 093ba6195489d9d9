/-!
# Message templates

A template is a text with numbered placeholders, a number in braces. Filling one replaces the
placeholders one number after the other, so a placeholder that an earlier argument brought in is
filled by the later arguments too.
-/

namespace Portability

namespace Template

/-- Replaces every occurrence of a non-empty `pattern`, from left to right and without overlap.
`skip` characters of the text belong to the occurrence found last. -/
def replaceFrom (pattern replacement : List Char) : Nat → List Char → List Char
  | _, [] => []
  | skip + 1, _ :: rest => replaceFrom pattern replacement skip rest
  | 0, c :: rest =>
    if pattern.isPrefixOf (c :: rest) then
      replacement ++ replaceFrom pattern replacement (pattern.length - 1) rest
    else c :: replaceFrom pattern replacement 0 rest

/-- `text` with every occurrence of `pattern` replaced. -/
def replaceAll (text pattern replacement : String) : String :=
  String.ofList (replaceFrom pattern.toList replacement.toList 0 text.toList)

/-- The placeholder of the argument numbered `i`. -/
def placeholder (i : Nat) : String :=
  "\x7b" ++ toString i ++ "\x7d"

/-- `template` with the placeholders from number `first` on replaced by `arguments`. -/
def fillFrom (first : Nat) (template : String) : List String → String
  | [] => template
  | argument :: rest =>
    fillFrom (first + 1) (replaceAll template (placeholder first) argument) rest

/-- `template` with its placeholders replaced by `arguments`, in the order of their numbers. -/
def fill (template : String) (arguments : List String) : String :=
  fillFrom 0 template arguments

end Template

end Portability
