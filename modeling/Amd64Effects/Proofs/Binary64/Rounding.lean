import Amd64Effects.Binary64.Rounding
import Amd64Effects.Proofs.Decimal

/-!
# What a decimal is rounded to

Rounding depends on the value of a decimal alone and not on how many zeros stand behind its digits
(`magnitudeOf_scaled`). A quotient of units that is the exact value of a magnitude is rounded to
that magnitude (`roundedMagnitude_units`).

The greatest finite number is odd, so half a unit above it is already rounded up, and from there on
all decimals become infinite (`magnitudeOf_eq_infinity_iff`).
-/

namespace Amd64Effects

theorem roundDiv_mul_right (numerator denominator : Nat) {c : Nat} (hc : 0 < c) :
    roundDiv (numerator * c) (denominator * c) = roundDiv numerator denominator := by
  unfold roundDiv
  dsimp only
  rw [Nat.mul_div_mul_right _ _ hc, Nat.mul_mod_mul_right, ← Nat.mul_assoc]
  simp only [Nat.mul_lt_mul_right hc]

namespace Binary64

/-! ## Equal quotients -/

theorem roundedMagnitude_mul_right (numerator denominator : Nat) {c : Nat} (hc : 0 < c) :
    roundedMagnitude (numerator * c) (denominator * c) =
      roundedMagnitude numerator denominator := by
  unfold roundedMagnitude
  dsimp only
  rw [Nat.mul_div_mul_right _ _ hc, Nat.mul_right_comm denominator c, roundDiv_mul_right _ _ hc]

theorem roundedMagnitude_congr {a b a' b' : Nat} (hb : 0 < b) (hb' : 0 < b')
    (h : a * b' = a' * b) : roundedMagnitude a b = roundedMagnitude a' b' :=
  calc roundedMagnitude a b = roundedMagnitude (a * b') (b * b') :=
        (roundedMagnitude_mul_right a b hb').symm
    _ = roundedMagnitude (a' * b) (b' * b) := by rw [h, Nat.mul_comm b]
    _ = roundedMagnitude a' b' := roundedMagnitude_mul_right a' b' hb

theorem magnitudeOf_scaled (d : Decimal) (zeros : Nat) :
    magnitudeOf (d.scaled zeros) = magnitudeOf d := by
  have hpow : 10 ^ zeros ≠ 0 := Nat.ne_of_gt (Nat.pow_pos (by decide))
  have hdigits : (d.scaled zeros).digits = 0 ↔ d.digits = 0 :=
    Nat.mul_eq_zero.trans (or_iff_left hpow)
  unfold magnitudeOf
  simp only [hdigits]
  split
  · rfl
  · next hd =>
    have hquotient : (d.scaled zeros).numerator * Nat.pow 2 1074 * d.denominator =
        d.numerator * Nat.pow 2 1074 * (d.scaled zeros).denominator := by
      rw [Nat.mul_right_comm, Decimal.numerator_scaled, Nat.mul_right_comm]
    rw [Decimal.leadingExponent_scaled (Nat.pos_of_ne_zero hd),
      roundedMagnitude_congr (Decimal.denominator_pos _) d.denominator_pos hquotient]

/-! ## Exact values -/

/-- The scale leaves a whole number of at most 53 bits, and of all 53 unless nothing is divided. -/
theorem scaleOf_spec (n : Nat) :
    n < 2 ^ (scaleOf n + 53) ∧ (scaleOf n = 0 ∨ 2 ^ (scaleOf n + 52) ≤ n) := by
  have hlt : n < 2 ^ (n.log2 + 1) := Nat.lt_log2_self
  unfold scaleOf
  constructor
  · exact Nat.lt_of_lt_of_le hlt (Nat.pow_le_pow_right (by decide) (by omega))
  · by_cases h : n.log2 ≤ 52
    · exact Or.inl (by omega)
    · have hne : n ≠ 0 := by
        rintro rfl
        simp at h
      rw [Nat.sub_add_cancel (by omega)]
      exact Or.inr (Nat.log2_self_le hne)

theorem scaleOf_unique {n s : Nat} (hlt : n < 2 ^ (s + 53)) (hle : s = 0 ∨ 2 ^ (s + 52) ≤ n) :
    scaleOf n = s := by
  obtain ⟨hlt', hle'⟩ := scaleOf_spec n
  have le_of : ∀ {i j : Nat}, 2 ^ (i + 52) ≤ n → n < 2 ^ (j + 53) → i ≤ j := by
    intro i j hi hj
    have hpow := (Nat.pow_lt_pow_iff_right (by decide : 1 < 2)).mp (Nat.lt_of_le_of_lt hi hj)
    omega
  apply Nat.le_antisymm
  · rcases hle' with hzero | hle'
    · omega
    · exact le_of hle' hlt
  · rcases hle with hzero | hle
    · omega
    · exact le_of hle hlt'

/-- What the scale of a magnitude leaves of it; the leading one of a fraction is a unit of scale. -/
def significand (n : Nat) : Nat :=
  n - (n / 2 ^ 52 - 1) * 2 ^ 52

theorem significand_lt (n : Nat) : significand n < 2 ^ 53 := by
  unfold significand
  omega

theorem le_significand {n : Nat} (h : n / 2 ^ 52 - 1 ≠ 0) : 2 ^ 52 ≤ significand n := by
  unfold significand
  omega

theorem units_eq (n : Nat) : units n = significand n * 2 ^ (n / 2 ^ 52 - 1) := by
  unfold units significand
  simp only [Nat.pow_eq]
  split
  · next hscale =>
    rw [hscale]
    simp
    omega
  · congr 1
    omega

theorem scaleOf_units (n : Nat) : scaleOf (units n) = n / 2 ^ 52 - 1 := by
  have hpos : 0 < 2 ^ (n / 2 ^ 52 - 1) := Nat.two_pow_pos _
  rw [units_eq]
  apply scaleOf_unique
  · rw [Nat.add_comm, Nat.pow_add]
    exact Nat.mul_lt_mul_of_pos_right (significand_lt n) hpos
  · by_cases h : n / 2 ^ 52 - 1 = 0
    · exact Or.inl h
    · rw [Nat.add_comm, Nat.pow_add]
      exact Or.inr (Nat.mul_le_mul_right _ (le_significand h))

/-- The exact value of a magnitude is rounded to it. -/
theorem roundedMagnitude_units (n : Nat) : roundedMagnitude (units n) 1 = n := by
  have hpos : 0 < 2 ^ (n / 2 ^ 52 - 1) := Nat.two_pow_pos _
  have hround : roundDiv (units n) (2 ^ (n / 2 ^ 52 - 1)) = significand n := by
    rw [units_eq, roundDiv_of_dvd hpos (Nat.dvd_mul_left _ _), Nat.mul_div_cancel _ hpos]
  unfold roundedMagnitude
  simp only [Nat.div_one, Nat.one_mul, scaleOf_units, Nat.pow_eq, hround]
  unfold significand
  omega

theorem units_lt_two_pow {n k : Nat} (h : n / 2 ^ 52 - 1 + 53 ≤ k) : units n < 2 ^ k :=
  calc units n = significand n * 2 ^ (n / 2 ^ 52 - 1) := units_eq n
    _ < 2 ^ 53 * 2 ^ (n / 2 ^ 52 - 1) :=
      Nat.mul_lt_mul_of_pos_right (significand_lt n) (Nat.two_pow_pos _)
    _ = 2 ^ (53 + (n / 2 ^ 52 - 1)) := (Nat.pow_add 2 53 _).symm
    _ ≤ 2 ^ k := Nat.pow_le_pow_right (by decide) (by omega)

theorem units_lt {n : Nat} (h : n < infinity) : units n < 2 ^ 2098 := by
  apply units_lt_two_pow
  unfold infinity at h
  rw [Nat.pow_eq] at h
  omega

theorem units_pos {n : Nat} (h : 0 < n) : 0 < units n := by
  have hpos : 0 < significand n := by
    unfold significand
    omega
  rw [units_eq]
  exact Nat.mul_pos hpos (Nat.two_pow_pos _)

/-! ## Overflow -/

/-- Half a unit of the greatest scale above the greatest finite number. -/
def overflowBound : Nat := (Nat.pow 2 54 - 1) * Nat.pow 2 970

theorem roundDiv_le {a d m : Nat} (hd : 0 < d) (h : a ≤ m * d) : roundDiv a d ≤ m := by
  have hnear := (roundDiv_near a hd).1
  apply Nat.le_of_not_lt
  intro hlt
  have hmul := Nat.mul_le_mul_right d (Nat.succ_le_of_lt hlt)
  rw [Nat.succ_mul] at hmul
  omega

theorem le_roundDiv {a d m : Nat} (hd : 0 < d) (h : m * d ≤ a) : m ≤ roundDiv a d := by
  have hnear := (roundDiv_near a hd).2
  apply Nat.le_of_not_lt
  intro hlt
  have hmul := Nat.mul_le_mul_right d (Nat.succ_le_of_lt hlt)
  rw [Nat.succ_mul] at hmul
  omega

/-- From half the way between an odd number and the next, a quotient is rounded up. -/
theorem lt_roundDiv_iff {a d m : Nat} (hd : 0 < d) (hodd : m % 2 = 1) :
    m < roundDiv a d ↔ (2 * m + 1) * d ≤ 2 * a := by
  have hnear := roundDiv_near a hd
  have hhalf : (2 * m + 1) * d = 2 * (m * d) + d := by rw [Nat.add_mul, Nat.mul_assoc, Nat.one_mul]
  constructor
  · intro hlt
    have hmul := Nat.mul_le_mul_right d (Nat.succ_le_of_lt hlt)
    rw [Nat.succ_mul] at hmul
    omega
  · intro hle
    apply Nat.lt_of_not_le
    intro hge
    have hmul := Nat.mul_le_mul_right d hge
    -- only the half itself is left, and it goes to the even neighbour
    have hdiv : a / d = m := Nat.div_eq_of_lt_le (by omega) (by rw [Nat.succ_mul]; omega)
    have hrest : 2 * (a % d) = d := by
      rw [Nat.mod_eq_sub_mul_div, hdiv, Nat.mul_comm d]
      omega
    unfold roundDiv at hge
    dsimp only at hge
    rw [hdiv, hrest, if_neg (Nat.lt_irrefl _), if_neg (Nat.lt_irrefl _), if_neg (by omega)] at hge
    omega

theorem overflowBound_mul (b : Nat) :
    overflowBound * Nat.pow 2 1074 * b = (2 ^ 54 - 1) * (b * 2 ^ 2044) := by
  have hunits : overflowBound * Nat.pow 2 1074 = (2 ^ 54 - 1) * 2 ^ 2044 := by decide +kernel
  generalize 2 ^ 2044 = w at hunits ⊢
  rw [hunits, Nat.mul_assoc, Nat.mul_comm w]

/-- A scale against one that is given: not above it, the next, or one that is greater still. -/
theorem scale_cases (b s k : Nat) :
    s ≤ k ∧ b * 2 ^ s ≤ b * 2 ^ k ∨ s = k + 1 ∧ b * 2 ^ s = 2 * (b * 2 ^ k) ∨
      k + 2 ≤ s ∧ 4 * (b * 2 ^ k) ≤ b * 2 ^ s := by
  have hmono : ∀ {i j : Nat}, i ≤ j → b * 2 ^ i ≤ b * 2 ^ j :=
    fun h => Nat.mul_le_mul_left b (Nat.pow_le_pow_right (by decide) h)
  have hsucc : ∀ i : Nat, b * 2 ^ (i + 1) = 2 * (b * 2 ^ i) := by
    intro i
    rw [Nat.pow_succ, ← Nat.mul_assoc, Nat.mul_comm]
  rcases Nat.lt_trichotomy s (k + 1) with hs | rfl | hs
  · exact Or.inl ⟨by omega, hmono (by omega)⟩
  · exact Or.inr (Or.inl ⟨rfl, hsucc k⟩)
  · have hle := hmono (show k + 1 + 1 ≤ s by omega)
    rw [hsucc, hsucc] at hle
    exact Or.inr (Or.inr ⟨hs, by omega⟩)

/-- A quotient of units is rounded to infinity from the bound on. -/
theorem infinity_le_roundedMagnitude_iff {a b : Nat} (hb : 0 < b) :
    infinity ≤ roundedMagnitude a b ↔ overflowBound * Nat.pow 2 1074 * b ≤ a := by
  obtain ⟨hlt, hle⟩ := scaleOf_spec (a / b)
  have hunfold : roundedMagnitude a b =
      scaleOf (a / b) * 2 ^ 52 + roundDiv a (b * 2 ^ scaleOf (a / b)) := rfl
  have hinfinity : infinity = 2047 * 2 ^ 52 := rfl
  rw [hunfold, hinfinity, overflowBound_mul]
  generalize scaleOf (a / b) = s at hlt hle ⊢
  rw [Nat.div_lt_iff_lt_mul hb, Nat.pow_add, Nat.mul_comm, ← Nat.mul_assoc] at hlt
  rw [Nat.le_div_iff_mul_le hb, Nat.pow_add, Nat.mul_comm, ← Nat.mul_assoc] at hle
  have hpos : 0 < b * 2 ^ s := Nat.mul_pos hb (Nat.two_pow_pos s)
  have hcases := scale_cases b s 2044
  generalize b * 2 ^ 2044 = w at hcases ⊢
  generalize b * 2 ^ s = d at hlt hle hpos hcases ⊢
  have hround : roundDiv a d ≤ 2 ^ 53 := roundDiv_le hpos (by omega)
  rcases hcases with ⟨hs, hd⟩ | ⟨hs, hd⟩ | ⟨hs, hd⟩
  · constructor <;> intro h <;> omega
  · -- between the greatest finite number and the next power of two
    have hodd := lt_roundDiv_iff hpos (show (2 ^ 53 - 1) % 2 = 1 from rfl) (a := a)
    omega
  · have hround' : 2 ^ 52 ≤ roundDiv a d := le_roundDiv hpos (by omega)
    constructor <;> intro h <;> omega

/-- A decimal is rounded to infinity from the bound on. -/
theorem magnitudeOf_eq_infinity_iff (d : Decimal) :
    magnitudeOf d = infinity ↔ overflowBound * d.denominator ≤ d.numerator := by
  have hdenominator := d.denominator_pos
  have hbound : 10 ^ 0 ≤ overflowBound := by decide +kernel
  have hbound' : overflowBound ≤ 10 ^ 400 := by decide +kernel
  have hinfinity : 0 ≠ infinity := by decide
  have above : ∀ {c : Nat}, c ≤ overflowBound → d.numerator < c * d.denominator →
      ¬overflowBound * d.denominator ≤ d.numerator := by
    intro c hc hlt hle
    exact absurd (Nat.mul_le_mul_right d.denominator hc) (by omega)
  unfold magnitudeOf
  split
  · next hd =>
    have hlt : d.numerator < 1 * d.denominator := by
      simpa [Decimal.numerator, hd] using hdenominator
    exact iff_of_false hinfinity (above hbound hlt)
  · next hd =>
    split
    · next hlarge =>
      have hle := Decimal.le_numerator (Nat.pos_of_ne_zero hd) (k := 400) (by omega)
      exact iff_of_true rfl (Nat.le_trans (Nat.mul_le_mul_right d.denominator hbound') hle)
    · split
      · next hsmall =>
        have hlt := Decimal.numerator_lt (d := d) (k := 0) (by omega)
        exact iff_of_false hinfinity (above hbound hlt)
      · have hpow : ∀ k, 0 < Nat.pow 2 k := fun k => Nat.two_pow_pos k
        have hmin : ∀ n, min infinity n = infinity ↔ infinity ≤ n := by omega
        rw [hmin, infinity_le_roundedMagnitude_iff hdenominator, Nat.mul_right_comm]
        exact Nat.mul_le_mul_right_iff (hpow 1074)

theorem magnitude_ofDecimal (negative : Bool) (d : Decimal) :
    (ofDecimal negative d).magnitude = magnitudeOf d :=
  magnitude_ofParts (Nat.lt_of_le_of_lt (magnitudeOf_le_infinity d) (by decide))

theorem isFinite_ofDecimal (negative : Bool) (d : Decimal) :
    (ofDecimal negative d).isFinite = true ↔ d.numerator < overflowBound * d.denominator := by
  have hle := magnitudeOf_le_infinity d
  have hinfinity := magnitudeOf_eq_infinity_iff d
  rw [isFinite, magnitude_ofDecimal, decide_eq_true_eq]
  omega

/-- What is not finite is infinity, with the sign of the decimal. -/
theorem ofDecimal_of_overflow (negative : Bool) {d : Decimal}
    (h : overflowBound * d.denominator ≤ d.numerator) :
    ofDecimal negative d = ofParts negative infinity := by
  rw [ofDecimal, (magnitudeOf_eq_infinity_iff d).mpr h]

end Binary64

end Amd64Effects
