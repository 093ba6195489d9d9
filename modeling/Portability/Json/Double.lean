/-!
# Binary floating-point numbers

A finite double is a sign and a *rank*, its place among the non-negative doubles in increasing
order. The value of a rank is a whole number of *units*, the smallest positive double, so sums,
products and roundings are computed with natural numbers only.

* `Double.unitsOfRank` is the value of a rank, `Double.rankOfRatio` the rank nearest to a quotient
  of units, a tie going to the even rank.
* `Double.shortest` is the decimal with the fewest digits that reads back as the same double, a
  tie between two of them going as the `TieRule` says.
-/

namespace Portability

/-- A power of two. -/
def twoTo (n : Nat) : Nat :=
  Nat.pow 2 n

/-- A power of ten. -/
def tenTo (n : Nat) : Nat :=
  Nat.pow 10 n

/-- The quotient `num / den` rounded to the nearest natural number, a half to the even one. -/
def roundHalfEven (num den : Nat) : Nat :=
  let quotient := num / den
  let twiceRest := 2 * (num % den)
  if twiceRest < den then quotient
  else if den < twiceRest then quotient + 1
  else quotient + quotient % 2

/-- A finite double: a sign and a place among the non-negative doubles. The two zeros differ. -/
structure Double where
  negative : Bool
  rank : Nat
  deriving DecidableEq, Repr, Inhabited

/-- A decimal number: its digits as a natural number, and the power of ten they are scaled by. -/
structure Decimal where
  digits : Nat
  exponent : Int
  deriving DecidableEq, Repr, Inhabited

/-- Which of two equally near neighbours on a decimal grid is taken. -/
inductive TieRule where
  /-- The one with an even last digit. -/
  | toEven
  /-- The greater one. -/
  | up
  deriving DecidableEq, Repr, Inhabited

/-- The grid point that a value halfway between `below` and `below + 1` goes to. -/
def TieRule.choose (tie : TieRule) (below : Nat) : Nat :=
  match tie with
  | toEven => below + below % 2
  | up => below + 1

namespace Double

/-- The units in one, a power of two. -/
def one : Nat := twoTo 1074

/-- Below this rank doubles are finite. -/
def rankLimit : Nat := 2047 * twoTo 52

/-- The value of a rank in units. Ranks below `2 ^ 52` are evenly spaced, and from there on the
spacing doubles every `2 ^ 52` ranks. -/
def unitsOfRank (rank : Nat) : Nat :=
  if rank < twoTo 52 then rank
  else (rank % twoTo 52 + twoTo 52) * twoTo (rank / twoTo 52 - 1)

/-- The rank nearest to `num / den` units. -/
def rankOfRatio (num den : Nat) : Nat :=
  let shift := (num / den).log2 - 52
  shift * twoTo 52 + roundHalfEven num (den * twoTo shift)

/-- The rank of the product of two values in units, `none` beyond the finite doubles. -/
def mulRank? (a b : Nat) : Option Nat :=
  let rank := rankOfRatio (a * b) one
  if rank < rankLimit then some rank else none

/-- The rank of the quotient of two values in units. -/
def divRank (a b : Nat) : Nat :=
  rankOfRatio (a * one) b

/-- The units of the double nearest to a natural number. -/
def unitsOfNat (n : Nat) : Nat :=
  unitsOfRank (rankOfRatio (n * one) 1)

/-- The double nearest to an integer of at most 64 bits. -/
def ofInt (i : Int) : Double where
  negative := i < 0
  rank := rankOfRatio (i.natAbs * one) 1

/-- The rank of `significand` scaled by a power of ten, for a significand of at most 64 bits:
the significand is rounded first, then multiplied or divided by a rounded power of ten, and by
more than one power when a quotient needs an exponent below -308. `none` beyond the finite
doubles. -/
def scaledRank? (significand : Nat) (exponent : Int) : Option Nat :=
  go (exponent.natAbs / 308) (unitsOfNat significand) exponent
where
  /-- `rounds` bounds the divisions by `10 ^ 308` that are still to come. -/
  go : Nat → Nat → Int → Option Nat
  | rounds, units, exponent =>
    if exponent.natAbs ≤ 308 then
      if 0 ≤ exponent then mulRank? units (unitsOfNat (tenTo exponent.natAbs))
      else some (divRank units (unitsOfNat (tenTo exponent.natAbs)))
    else if units = 0 then some 0
    else if 0 ≤ exponent then none
    else
      match rounds with
      | 0 => some 0
      | rounds + 1 =>
        go rounds (unitsOfRank (divRank units (unitsOfNat (tenTo 308)))) (exponent + 308)

/-! ### The shortest decimal -/

/-- The neighbours of a value on a decimal grid that read back as the value, and the nearer of the
two where both do; of two equally near ones the one that the tie rule chooses. All values are in
half units. -/
def onGrid? (tie : TieRule) (low value high : Nat) (closed : Bool) (exponent : Int) :
    Option Nat :=
  let stepNum := 2 * one * (if 0 ≤ exponent then tenTo exponent.natAbs else 1)
  let stepDen := if 0 ≤ exponent then 1 else tenTo exponent.natAbs
  let below := value * stepDen / stepNum
  let inside (c : Nat) : Bool :=
    let point := c * stepNum
    if closed then low * stepDen ≤ point && point ≤ high * stepDen
    else low * stepDen < point && point < high * stepDen
  match inside below, inside (below + 1) with
  | false, false => none
  | true, false => some below
  | false, true => some (below + 1)
  | true, true =>
    let less := value * stepDen - below * stepNum
    let more := (below + 1) * stepNum - value * stepDen
    if less < more then some below
    else if more < less then some (below + 1)
    else some (tie.choose below)

/-- The decimal on the coarsest grid, from `10 ^ exponent` down, that reads back as the value. -/
def shortestFrom (tie : TieRule) (low value high : Nat) (closed : Bool) : Nat → Int → Decimal
  | 0, exponent => ⟨0, exponent⟩
  | grids + 1, exponent =>
    match onGrid? tie low value high closed exponent with
    | some digits => ⟨digits, exponent⟩
    | none => shortestFrom tie low value high closed grids (exponent - 1)

/-- The decimal with the fewest digits among those that read back as the magnitude of the double,
and the nearest to it of those, the tie rule choosing between two that are equally near. -/
def shortest (d : Double) (tie : TieRule) : Decimal :=
  if d.rank = 0 then ⟨0, 0⟩
  else
    let units := unitsOfRank d.rank
    let low := unitsOfRank (d.rank - 1) + units
    let high := units + unitsOfRank (d.rank + 1)
    let whole := units / one
    let start := if whole = 0 then 0 else (Nat.toDigits 10 whole).length
    shortestFrom tie low (2 * units) high (d.rank % 2 == 0) (start + 345) start

/-! ### Texts -/

/-- The sign of a double, the negative zero included. -/
def signText (d : Double) : String :=
  if d.negative then "-" else ""

/-- Decimal digits with the point placed after the first `point` of them. -/
def placePoint (digits : List Char) (point : Int) : String :=
  if point ≤ 0 then
    "0." ++ String.ofList (List.replicate point.natAbs '0' ++ digits)
  else if digits.length ≤ point.natAbs then
    String.ofList (digits ++ List.replicate (point.natAbs - digits.length) '0')
  else
    String.ofList (digits.take point.natAbs) ++ "." ++ String.ofList (digits.drop point.natAbs)

/-- The shortest decimal of a double without an exponent, a whole number without a point. Of two
equally near decimals the greater magnitude is written. -/
def positional (d : Double) : String :=
  let decimal := d.shortest .up
  let digits := Nat.toDigits 10 decimal.digits
  d.signText ++ placePoint digits (digits.length + decimal.exponent)

/-- The shortest decimal of a double as a JSON number. Between `10 ^ -5` and `10 ^ 16` it is written
without an exponent, a whole number with `.0`; elsewhere one digit stands before the point and the
exponent carries its sign. Of two equally near decimals the one with an even last digit is
written. -/
def jsonText (d : Double) : String :=
  let decimal := d.shortest .toEven
  let digits := Nat.toDigits 10 decimal.digits
  let point : Int := digits.length + decimal.exponent
  let body :=
    if d.rank = 0 then "0.0"
    else if -5 < point ∧ point ≤ 16 then
      if digits.length ≤ point then placePoint digits point ++ ".0" else placePoint digits point
    else
      let mantissa :=
        match digits with
        | first :: second :: rest => String.ofList (first :: '.' :: second :: rest)
        | _ => String.ofList digits
      mantissa ++ "e" ++ (if 0 < point then "+" else "") ++ toString (point - 1)
  d.signText ++ body

end Double

end Portability
