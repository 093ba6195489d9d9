import Portability.Json.Record

/-!
# Passing modes

How an argument is handed to its parameter.
-/

namespace Portability

/-- The passing mode of a parameter or an argument; `none` passes a value. -/
inductive RefKind where
  | none
  | ref
  | out
  | in
  deriving DecidableEq, Repr, Inhabited

namespace RefKind

/-- The word in front of an argument passed in this mode, with the blank after it. -/
def keyword : RefKind → String
  | none => ""
  | ref => "ref "
  | out => "out "
  | .in => "in "

/-- The names of the ways to pass a value in documents. -/
instance : Named RefKind where
  all := [.none, .ref, .out, .in]
  name
    | .none => "None"
    | .ref => "Ref"
    | .out => "Out"
    | .in => "In"

end RefKind

end Portability
