import Mathlib.Algebra.Group.Nat.Defs
import Amd64Effects.Binary64.Rounding

/-!
# Decimals of one value

Zeros behind the digits of a decimal do not change its value if its exponent is lowered by as many
(`scaled`). Nor do they move its leading digit, and dropping them all is what `normalized` does.
-/

namespace Amd64Effects.Decimal

/-! ## Zeros behind the digits -/

/-- The decimal of the same value with more zeros behind its digits. -/
def scaled (d : Decimal) (zeros : Nat) : Decimal :=
  ⟨d.digits * 10 ^ zeros, d.exponent - zeros⟩

@[simp] theorem scaled_zero (d : Decimal) : d.scaled 0 = d := by
  simp [scaled]

theorem scaled_scaled (d : Decimal) (j k : Nat) : (d.scaled j).scaled k = d.scaled (j + k) := by
  simp only [scaled, Nat.pow_add, Nat.mul_assoc, Decimal.mk.injEq, true_and]
  omega

theorem length_toDigits_mul_pow {n : Nat} (hn : 0 < n) (k : Nat) :
    (Nat.toDigits 10 (n * 10 ^ k)).length = (Nat.toDigits 10 n).length + k := by
  induction k with
  | zero => simp
  | succ k ih =>
    have hpos : 0 < n * 10 ^ k := Nat.mul_pos hn (Nat.pow_pos (by decide))
    have happend : Nat.toDigits 10 (n * 10 ^ k) ++ Nat.toDigits 10 0 =
        Nat.toDigits 10 (10 * (n * 10 ^ k) + 0) :=
      Nat.toDigits_append_toDigits (by decide) hpos (by decide)
    have hvalue : n * 10 ^ (k + 1) = 10 * (n * 10 ^ k) + 0 := by
      rw [Nat.pow_succ, ← Nat.mul_assoc, Nat.mul_comm, Nat.add_zero]
    rw [hvalue, ← happend, List.length_append, ih, Nat.toDigits_zero]
    rfl

/-- The leading digit stays at its place. -/
theorem leadingExponent_scaled {d : Decimal} (hd : 0 < d.digits) (zeros : Nat) :
    (d.scaled zeros).leadingExponent = d.leadingExponent := by
  simp only [leadingExponent, scaled, length_toDigits_mul_pow hd]
  omega

/-- The quotients are equal; what is compared are their cross products. -/
theorem numerator_scaled (d : Decimal) (zeros : Nat) :
    (d.scaled zeros).numerator * d.denominator = d.numerator * (d.scaled zeros).denominator := by
  simp only [numerator, denominator, scaled, Nat.pow_eq, Nat.mul_assoc, ← Nat.pow_add]
  congr 2
  omega

/-! ## The leading digit -/

theorem lt_length_toDigits_iff {n : Nat} (hn : 0 < n) (k : Nat) :
    k < (Nat.toDigits 10 n).length ↔ 10 ^ k ≤ n := by
  cases k with
  | zero => exact iff_of_true Nat.length_toDigits_pos hn
  | succ k =>
    rw [← Nat.not_le, Nat.length_toDigits_le_iff (by decide) (Nat.succ_pos k), Nat.not_lt]

/-- A value is at least the power of ten of its leading digit. -/
theorem le_numerator {d : Decimal} (hd : 0 < d.digits) {k : Nat} (hk : k ≤ d.leadingExponent) :
    10 ^ k * d.denominator ≤ d.numerator := by
  unfold leadingExponent at hk
  have hlength := Nat.length_toDigits_pos (b := 10) (n := d.digits)
  have hdigits := (lt_length_toDigits_iff hd _).mp (Nat.sub_one_lt_of_lt hlength)
  simp only [numerator, denominator, Nat.pow_eq]
  calc 10 ^ k * 10 ^ (-d.exponent).toNat = 10 ^ (k + (-d.exponent).toNat) :=
        (Nat.pow_add 10 _ _).symm
    _ ≤ 10 ^ ((Nat.toDigits 10 d.digits).length - 1 + d.exponent.toNat) :=
        Nat.pow_le_pow_right (by decide) (by omega)
    _ = 10 ^ ((Nat.toDigits 10 d.digits).length - 1) * 10 ^ d.exponent.toNat := Nat.pow_add 10 _ _
    _ ≤ d.digits * 10 ^ d.exponent.toNat := Nat.mul_le_mul_right _ hdigits

/-- A value is below the power of ten before its leading digit. -/
theorem numerator_lt {d : Decimal} {k : Nat} (hk : d.leadingExponent < k) :
    d.numerator < 10 ^ k * d.denominator := by
  unfold leadingExponent at hk
  have hdigits : d.digits < 10 ^ (Nat.toDigits 10 d.digits).length :=
    (Nat.length_toDigits_le_iff (by decide) Nat.length_toDigits_pos).mp (Nat.le_refl _)
  simp only [numerator, denominator, Nat.pow_eq]
  calc d.digits * 10 ^ d.exponent.toNat
      < 10 ^ (Nat.toDigits 10 d.digits).length * 10 ^ d.exponent.toNat :=
        Nat.mul_lt_mul_of_pos_right hdigits (Nat.pow_pos (by decide))
    _ = 10 ^ ((Nat.toDigits 10 d.digits).length + d.exponent.toNat) := (Nat.pow_add 10 _ _).symm
    _ ≤ 10 ^ (k + (-d.exponent).toNat) := Nat.pow_le_pow_right (by decide) (by omega)
    _ = 10 ^ k * 10 ^ (-d.exponent).toNat := Nat.pow_add 10 _ _

/-! ## Dropping zeros -/

theorem exists_stripZeros (fuel : Nat) (d : Decimal) :
    ∃ zeros, d = (stripZeros fuel d).scaled zeros := by
  induction fuel generalizing d with
  | zero => exact ⟨0, (scaled_zero d).symm⟩
  | succ fuel ih =>
    unfold stripZeros
    split
    · next hmod =>
      obtain ⟨zeros, hzeros⟩ := ih ⟨d.digits / 10, d.exponent + 1⟩
      have hone : d = scaled ⟨d.digits / 10, d.exponent + 1⟩ 1 := by
        obtain ⟨digits, exponent⟩ := d
        simp only at hmod
        simp only [scaled, Decimal.mk.injEq]
        omega
      exact ⟨zeros + 1,
        calc d = scaled ⟨d.digits / 10, d.exponent + 1⟩ 1 := hone
          _ = ((stripZeros fuel ⟨d.digits / 10, d.exponent + 1⟩).scaled zeros).scaled 1 :=
            congrArg (scaled · 1) hzeros
          _ = _ := scaled_scaled _ zeros 1⟩
    · exact ⟨0, (scaled_zero d).symm⟩

theorem exists_normalized (d : Decimal) : ∃ zeros, d = d.normalized.scaled zeros :=
  exists_stripZeros _ d

end Amd64Effects.Decimal
