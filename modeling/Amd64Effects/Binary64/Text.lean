import Amd64Effects.Binary64.Rounding

/-!
# The text of a floating-point number

A number is written with its shortest decimal. It is written positionally while its leading digit
stands between the fourth place after the point and the sixteenth before it, and then always has a
digit on both sides of the point; else it is written with an exponent, which has no plus sign and no
leading zero.
-/

namespace Amd64Effects.Binary64

/-!
## The shortest decimal of a number

A finite number is written with the fewest digits that round to it. For one digit, two digits and so
on up to seventeen, the number lies between two neighbours on the grid of decimals with that many
digits; the first grid on which one of them rounds to the number decides. Where both do, the closer
one is taken, and of two equally close ones the greater.

Seventeen digits are enough for every finite number. The exact decimal that follows them is there so
that the result rounds to the number by its definition.
-/

/-- A finite magnitude as an exact decimal: units of `2^-1074` are `5^1074` units of `10^-1074`. -/
def exactDecimal (n : Nat) : Decimal :=
  ⟨units n * Nat.pow 5 1074, -1074⟩

/-- The neighbours of a decimal on the grid of the given power of ten, the lower one first. -/
def gridBelow (d : Decimal) (step : Int) : Decimal :=
  ⟨d.digits / Nat.pow 10 (step - d.exponent).toNat, step⟩

def gridAbove (d : Decimal) (step : Int) : Decimal :=
  ⟨d.digits / Nat.pow 10 (step - d.exponent).toNat + 1, step⟩

/-- Whether a decimal is closer to its neighbour below than to the one above. -/
def isCloserBelow (d : Decimal) (step : Int) : Bool :=
  let size := Nat.pow 10 (step - d.exponent).toNat
  2 * (d.digits % size) < size

/-- The neighbour of a decimal on a grid that rounds to a magnitude, where there is one. -/
def onGrid? (n : Nat) (d : Decimal) (step : Int) : Option Decimal :=
  let below := gridBelow d step
  let above := gridAbove d step
  match magnitudeOf below == n, magnitudeOf above == n with
  | true, true => some (if isCloserBelow d step then below else above)
  | true, false => some below
  | false, true => some above
  | false, false => none

/-- The powers of ten of the grids that are tried, for one digit to seventeen. -/
def grids (leadingExponent : Int) : List Int :=
  (List.range 17).map fun (places : Nat) => leadingExponent - places

/-- The shortest decimal that rounds to a finite magnitude. -/
def shortest (n : Nat) : Decimal :=
  let d := exactDecimal n
  (((grids d.leadingExponent).findSome? (onGrid? n d)).getD d).normalized

/-! ## Digits, point and exponent -/

/-- Digits with a point among them or beside them, filled up with zeros. -/
def positional (digits : List Char) (leadingExponent : Int) : List Char :=
  if leadingExponent < 0 then
    '0' :: '.' :: (List.replicate (-leadingExponent - 1).toNat '0' ++ digits)
  else
    let before := leadingExponent.toNat + 1
    if before < digits.length then digits.take before ++ '.' :: digits.drop before
    else digits ++ List.replicate (before - digits.length) '0' ++ ['.', '0']

/-- One digit before the point, the others behind it, and the exponent of the first. -/
def scientific (digits : List Char) (leadingExponent : Int) : List Char :=
  let mantissa := match digits with
    | first :: second :: rest => first :: '.' :: second :: rest
    | _ => digits
  mantissa ++ 'e' :: (toString leadingExponent).toList

/-- The characters of a positive finite magnitude. -/
def renderFinite (n : Nat) : List Char :=
  let d := shortest n
  let digits := Nat.toDigits 10 d.digits
  if -4 ≤ d.leadingExponent ∧ d.leadingExponent ≤ 15 then positional digits d.leadingExponent
  else scientific digits d.leadingExponent

/-- The characters of a magnitude. -/
def renderMagnitude (n : Nat) : List Char :=
  if n = 0 then ['0', '.', '0']
  else if n < infinity then renderFinite n
  else "inf".toList

/-- The characters of a number. Only what is no number has no sign. -/
def render (x : Binary64) : List Char :=
  if x.isNaN then "NaN".toList
  else if x.isNegative then '-' :: renderMagnitude x.magnitude
  else renderMagnitude x.magnitude

end Amd64Effects.Binary64
