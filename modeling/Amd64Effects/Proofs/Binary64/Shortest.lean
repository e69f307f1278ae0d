import Amd64Effects.Binary64.Text
import Amd64Effects.Proofs.Binary64.Rounding

/-!
# The shortest decimal rounds to its number

A decimal is taken from a grid only if it rounds to the number (`magnitudeOf_of_onGrid?`), and the
exact decimal, which stands in where no grid has one, does so too (`magnitudeOf_exactDecimal`).
-/

namespace Amd64Effects.Binary64

variable {n : Nat}

/-! ## The exact decimal -/

theorem exactDecimal_bounds (hpos : 0 < n) (hfinite : n < infinity) :
    10 ^ 674 ≤ (exactDecimal n).digits ∧ (exactDecimal n).digits < 10 ^ 1475 := by
  have hleast : 10 ^ 674 ≤ Nat.pow 5 1074 := by decide +kernel
  have hgreatest : 2 ^ 2098 * Nat.pow 5 1074 < 10 ^ 1475 := by decide +kernel
  unfold exactDecimal
  simp only
  generalize Nat.pow 5 1074 = c at hleast hgreatest ⊢
  constructor
  · exact Nat.le_trans hleast (Nat.le_mul_of_pos_left c (units_pos hpos))
  · exact Nat.lt_of_le_of_lt (Nat.mul_le_mul_right c (Nat.le_of_lt (units_lt hfinite))) hgreatest

theorem exactDecimal_digits_pos (hpos : 0 < n) : 0 < (exactDecimal n).digits := by
  have hpow : ∀ k, 0 < Nat.pow 5 k := fun k => Nat.pow_pos (by decide)
  exact Nat.mul_pos (units_pos hpos) (hpow 1074)

/-- The leading digit is far inside the range in which decimals are rounded. -/
theorem leadingExponent_exactDecimal (hpos : 0 < n) (hfinite : n < infinity) :
    -400 ≤ (exactDecimal n).leadingExponent ∧ (exactDecimal n).leadingExponent ≤ 400 := by
  obtain ⟨hleast, hgreatest⟩ := exactDecimal_bounds hpos hfinite
  have hdigits := exactDecimal_digits_pos hpos
  have hexponent : (exactDecimal n).exponent = -1074 := rfl
  have hlower := (Decimal.lt_length_toDigits_iff hdigits 674).mpr hleast
  have hupper := mt (Decimal.lt_length_toDigits_iff hdigits 1475).mp (Nat.not_le_of_lt hgreatest)
  unfold Decimal.leadingExponent
  omega

/-- Powers of five and of two make up the power of ten below them. -/
theorem roundedMagnitude_mul_pow (a k : Nat) :
    roundedMagnitude (a * Nat.pow 5 k * Nat.pow 2 k) (Nat.pow 10 k) = roundedMagnitude a 1 := by
  have hpow : Nat.pow 5 k * Nat.pow 2 k = Nat.pow 10 k := (Nat.mul_pow 5 2 k).symm
  have hpos : 0 < Nat.pow 10 k := Nat.pow_pos (by decide)
  rw [Nat.mul_assoc, hpow]
  calc roundedMagnitude (a * Nat.pow 10 k) (Nat.pow 10 k)
      = roundedMagnitude (a * Nat.pow 10 k) (1 * Nat.pow 10 k) := by rw [Nat.one_mul]
    _ = roundedMagnitude a 1 := roundedMagnitude_mul_right a 1 hpos

theorem roundedMagnitude_exactDecimal (n : Nat) :
    roundedMagnitude ((exactDecimal n).numerator * Nat.pow 2 1074) (exactDecimal n).denominator =
      n := by
  have hnumerator : (exactDecimal n).numerator = units n * Nat.pow 5 1074 := Nat.mul_one _
  have hexponent : (-(exactDecimal n).exponent).toNat = 1074 := rfl
  rw [hnumerator, Decimal.denominator, hexponent]
  generalize 1074 = k
  rw [roundedMagnitude_mul_pow, roundedMagnitude_units]

theorem magnitudeOf_exactDecimal (hpos : 0 < n) (hfinite : n < infinity) :
    magnitudeOf (exactDecimal n) = n := by
  obtain ⟨hlower, hupper⟩ := leadingExponent_exactDecimal hpos hfinite
  have hdigits := Nat.ne_of_gt (exactDecimal_digits_pos hpos)
  unfold magnitudeOf
  rw [if_neg hdigits, if_neg (by omega), if_neg (by omega), roundedMagnitude_exactDecimal]
  exact Nat.min_eq_right (Nat.le_of_lt hfinite)

/-! ## The shortest decimal -/

theorem magnitudeOf_normalized (d : Decimal) : magnitudeOf d.normalized = magnitudeOf d := by
  obtain ⟨zeros, hzeros⟩ := d.exists_normalized
  calc magnitudeOf d.normalized = magnitudeOf (d.normalized.scaled zeros) :=
        (magnitudeOf_scaled _ zeros).symm
    _ = magnitudeOf d := by rw [← hzeros]

theorem magnitudeOf_of_onGrid? {exact d : Decimal} {step : Int}
    (h : onGrid? n exact step = some d) : magnitudeOf d = n := by
  unfold onGrid? at h
  dsimp only at h
  split at h
  · next hbelow habove =>
    rw [← Option.some.inj h]
    split
    · exact beq_iff_eq.mp hbelow
    · exact beq_iff_eq.mp habove
  · next hbelow _ =>
    rw [← Option.some.inj h]
    exact beq_iff_eq.mp hbelow
  · next _ habove =>
    rw [← Option.some.inj h]
    exact beq_iff_eq.mp habove
  · simp at h

theorem magnitudeOf_shortest (hpos : 0 < n) (hfinite : n < infinity) :
    magnitudeOf (shortest n) = n := by
  unfold shortest
  dsimp only
  rw [magnitudeOf_normalized]
  cases hfind : (grids (exactDecimal n).leadingExponent).findSome?
      (onGrid? n (exactDecimal n)) with
  | some d =>
    obtain ⟨step, -, hgrid⟩ := List.exists_of_findSome?_eq_some hfind
    exact magnitudeOf_of_onGrid? hgrid
  | none => exact magnitudeOf_exactDecimal hpos hfinite

end Amd64Effects.Binary64
