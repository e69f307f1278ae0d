import Amd64Effects.Binary64

/-!
# Rounding a decimal to 64 bits

The nearest number of 64 bits, and of two nearest ones the one with an even magnitude. A value that
rounds past the greatest finite number becomes infinite.

The scale is found first: `scaleOf` leaves at most 53 bits before the point. The scaled value is
then rounded to a whole number. That number may reach the next power of two; the magnitude is then
the next one all the same, since scale and fraction are adjacent in it.
-/

namespace Amd64Effects

/-!
## Decimals

A decimal is a natural number of digits scaled by a power of ten. The same value has many decimals
(`30 · 10^1` and `3 · 10^2`); `normalized` chooses the one without trailing zeros.
-/

/-- The value `digits · 10^exponent`. -/
structure Decimal where
  digits : Nat
  exponent : Int
  deriving DecidableEq, Repr

namespace Decimal

/-- The exponent of the leading digit: the value lies between this power of ten and the next. -/
def leadingExponent (d : Decimal) : Int :=
  d.exponent + (Nat.toDigits 10 d.digits).length - 1

/-- Divides by ten as long as that leaves no remainder, at most `fuel` times. -/
def stripZeros : (fuel : Nat) → Decimal → Decimal
  | 0, d => d
  | fuel + 1, d =>
    if d.digits % 10 = 0 then stripZeros fuel ⟨d.digits / 10, d.exponent + 1⟩ else d

/-- The decimal of the same value without trailing zeros. -/
def normalized (d : Decimal) : Decimal :=
  stripZeros (Nat.toDigits 10 d.digits).length d

/-- The value as a quotient of two natural numbers. -/
def numerator (d : Decimal) : Nat :=
  d.digits * Nat.pow 10 d.exponent.toNat

def denominator (d : Decimal) : Nat :=
  Nat.pow 10 (-d.exponent).toNat

theorem denominator_pos (d : Decimal) : 0 < d.denominator :=
  Nat.pow_pos (by decide)

end Decimal

/-! ## Rounding -/

/-- The whole number that is nearest to a quotient; a half goes to the even neighbour. -/
def roundDiv (numerator denominator : Nat) : Nat :=
  let q := numerator / denominator
  let r := numerator % denominator
  if 2 * r < denominator then q
  else if denominator < 2 * r then q + 1
  else if q % 2 = 0 then q else q + 1

theorem roundDiv_of_dvd {numerator denominator : Nat} (hpos : 0 < denominator)
    (h : denominator ∣ numerator) : roundDiv numerator denominator = numerator / denominator := by
  unfold roundDiv
  simp [Nat.mod_eq_zero_of_dvd h, hpos]

/-- A quotient is at most half a unit away from the number it is rounded to. -/
theorem roundDiv_near (numerator : Nat) {denominator : Nat} (hpos : 0 < denominator) :
    2 * (roundDiv numerator denominator * denominator) ≤ 2 * numerator + denominator ∧
      2 * numerator ≤ 2 * (roundDiv numerator denominator * denominator) + denominator := by
  have hdiv := Nat.div_add_mod numerator denominator
  rw [Nat.mul_comm] at hdiv
  unfold roundDiv
  dsimp only
  split
  · omega
  · split
    · rw [Nat.add_mul]
      have := Nat.mod_lt numerator hpos
      omega
    · split
      · omega
      · rw [Nat.add_mul]
        omega

namespace Binary64

/-- The power of two by which a whole number of units is divided to leave at most 53 bits. -/
def scaleOf (units : Nat) : Nat := units.log2 - 52

/-- The magnitude nearest to a quotient of units, not bounded by that of infinity. -/
def roundedMagnitude (numerator denominator : Nat) : Nat :=
  let scale := scaleOf (numerator / denominator)
  scale * Nat.pow 2 52 + roundDiv numerator (denominator * Nat.pow 2 scale)

/--
The magnitude nearest to a decimal. Decimals far outside the range of finite numbers are recognized
by their leading digit, so that no power of ten is computed for them.
-/
def magnitudeOf (d : Decimal) : Nat :=
  if d.digits = 0 then 0
  else if 400 < d.leadingExponent then infinity
  else if d.leadingExponent < -400 then 0
  else min infinity (roundedMagnitude (d.numerator * Nat.pow 2 1074) d.denominator)

/-- The number nearest to a signed decimal. -/
def ofDecimal (negative : Bool) (d : Decimal) : Binary64 :=
  ofParts negative (magnitudeOf d)

theorem magnitudeOf_le_infinity (d : Decimal) : magnitudeOf d ≤ infinity := by
  unfold magnitudeOf
  split
  · exact Nat.zero_le _
  · split
    · exact Nat.le_refl _
    · split
      · exact Nat.zero_le _
      · exact Nat.min_le_left _ _

/-- Rounding never leaves the numbers. -/
theorem isNaN_ofDecimal (negative : Bool) (d : Decimal) : (ofDecimal negative d).isNaN = false := by
  have hle := magnitudeOf_le_infinity d
  have hlt : magnitudeOf d < Nat.pow 2 63 := Nat.lt_of_le_of_lt hle (by decide)
  simp only [ofDecimal, isNaN, magnitude_ofParts hlt, decide_eq_false_iff_not]
  omega

end Binary64

end Amd64Effects
