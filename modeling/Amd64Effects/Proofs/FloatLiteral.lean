import Amd64Effects.Numeral
import Amd64Effects.Proofs.Numeral

/-!
# The parts of a floating-point literal

What is read of a literal that is put together from its parts: the digits before the point, those
behind it, and the exponent (`decimal?_whole`, `decimal?_point`).
-/

namespace Amd64Effects

open Text Numeral

namespace FloatLiteral

/-! ## Pieces -/

theorem splitDigits_run {digits rest : List Char} (hdigits : ∀ c ∈ digits, c.isDigit = true)
    (hrest : StopsAt Char.isDigit rest) : splitDigits (digits ++ rest) = (digits, rest) := by
  unfold splitDigits
  rw [takeWhile_run hdigits hrest, dropWhile_run hdigits hrest]

theorem splitFraction_of_stopsAt {rest : List Char} (h : StopsAt (· == '.') rest) :
    splitFraction rest = ([], rest) := by
  unfold splitFraction
  split
  · exact absurd (stopsAt_cons.mp h) (by decide)
  · rfl

/-! ## Exponents -/

theorem exponentValue?_of_splitSign {text : List Char} {negative : Bool} {n : Nat}
    (h : splitSign text = (negative, Nat.toDigits 10 n)) :
    exponentValue? text = some (if negative then -(n : Int) else n) := by
  unfold exponentValue?
  simp [h, all_isDigit_toDigits, decimalValue_toDigits]

/-- A written integer is read back. -/
theorem exponentValue?_toString (e : Int) : exponentValue? (toString e).toList = some e := by
  rw [Int.toString_eq_repr, Int.repr_eq_if]
  by_cases h : 0 ≤ e
  · rw [if_pos h, Nat.toList_repr, exponentValue?_of_splitSign (splitSign_toDigits _),
      if_neg Bool.false_ne_true, Int.toNat_of_nonneg h]
  · have hminus : ("-" ++ (-e).toNat.repr).toList = '-' :: Nat.toDigits 10 (-e).toNat := by
      simp
    rw [if_neg h, hminus, exponentValue?_of_splitSign rfl, if_pos rfl,
      Int.toNat_of_nonneg (by omega), Int.neg_neg]

/-! ## Literals -/

section

variable {whole fraction rest : List Char} (hne : whole ≠ [])
  (hwhole : ∀ c ∈ whole, c.isDigit = true)

include hne hwhole

/-- A literal without a point. -/
theorem decimal?_whole (hrest : StopsAt Char.isDigit rest) (hpoint : StopsAt (· == '.') rest) :
    decimal? (whole ++ rest) = (exponent? rest).map fun e => ⟨decimalValue whole, e⟩ := by
  unfold decimal?
  rw [splitDigits_run hwhole hrest]
  simp [splitFraction_of_stopsAt hpoint, hne]

/-- A literal with digits behind its point. -/
theorem decimal?_point (hfraction : ∀ c ∈ fraction, c.isDigit = true)
    (hrest : StopsAt Char.isDigit rest) :
    decimal? (whole ++ '.' :: (fraction ++ rest)) =
      (exponent? rest).map fun e => ⟨decimalValue (whole ++ fraction), e - fraction.length⟩ := by
  have hpoint : StopsAt Char.isDigit ('.' :: (fraction ++ rest)) := stopsAt_cons.mpr (by decide)
  unfold decimal?
  rw [splitDigits_run hwhole hpoint]
  simp [splitFraction, splitDigits_run hfraction hrest, hne]

/-- A literal that ends with the digits behind its point. -/
theorem decimal?_fraction (hfraction : ∀ c ∈ fraction, c.isDigit = true) :
    decimal? (whole ++ '.' :: fraction) =
      some ⟨decimalValue (whole ++ fraction), -(fraction.length : Int)⟩ := by
  have h := decimal?_point hne hwhole hfraction (stopsAt_nil _)
  rw [List.append_nil] at h
  simp [h, exponent?]

end

/-- A literal that does not begin with a digit has no decimal. -/
theorem decimal?_eq_none {text : List Char} (h : StopsAt Char.isDigit text) :
    decimal? text = none := by
  unfold decimal? splitDigits
  simp [takeWhile_of_stopsAt h]

theorem value?_of_decimal? {text : List Char} {d : Decimal} (h : decimal? text = some d) :
    value? text = some (Binary64.ofDecimal false d) := by
  unfold value?
  split
  · rw [decimal?_eq_none (stopsAt_cons.mpr (by decide))] at h
    simp at h
  · rw [h, Option.map_some]

/-- What has a value is a literal behind its sign. -/
theorem exists_literal_of_value? {text : List Char} {x : Binary64} (h : value? text = some x) :
    ∃ negative literal d, text = (if negative then '-' :: literal else literal) ∧
      decimal? literal = some d ∧ x = Binary64.ofDecimal negative d := by
  unfold value? at h
  split at h
  · next literal =>
    obtain ⟨d, hd, hx⟩ := Option.map_eq_some_iff.mp h
    exact ⟨true, literal, d, rfl, hd, hx.symm⟩
  · obtain ⟨d, hd, hx⟩ := Option.map_eq_some_iff.mp h
    exact ⟨false, text, d, rfl, hd, hx.symm⟩

end FloatLiteral

end Amd64Effects
