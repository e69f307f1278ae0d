import Amd64Effects.Binary64.Text
import Amd64Effects.Proofs.Binary64.Shortest
import Amd64Effects.Proofs.FloatLiteral

/-!
# The text of a number is read back

Both ways to write a decimal, positionally and with an exponent, give a literal of the same value
(`decimal?_positional`, `decimal?_positional_zeros`, `decimal?_scientific`). What is written is the
shortest decimal of a number, and that rounds to the number; so a finite number is read back from
its text (`value?_render`). Infinity is not: its text has no digits.
-/

namespace Amd64Effects.Binary64

open Text FloatLiteral
open Numeral (decimalValue)

/-! ## Digits and an exponent -/

section

variable {digits : List Char} (hne : digits ≠ []) (hdigits : ∀ c ∈ digits, c.isDigit = true)

include hne hdigits

/-- A point before the digits or among them. -/
theorem decimal?_positional {leadingExponent : Int}
    (hpoint : leadingExponent < 0 ∨ leadingExponent.toNat + 1 < digits.length) :
    decimal? (positional digits leadingExponent) =
      some ⟨decimalValue digits, leadingExponent + 1 - digits.length⟩ := by
  unfold positional
  split
  · next hneg =>
    have hfraction : ∀ c ∈ List.replicate (-leadingExponent - 1).toNat '0' ++ digits,
        c.isDigit = true :=
      List.forall_mem_append.mpr ⟨by simp, hdigits⟩
    have hdecimal := decimal?_fraction (show ['0'] ≠ [] by simp) (by simp) hfraction
    have hvalue := Numeral.decimalValue_zeros_append ((-leadingExponent - 1).toNat + 1) digits
    rw [List.replicate_succ, List.cons_append] at hvalue
    rw [List.singleton_append, List.singleton_append, hvalue] at hdecimal
    rw [hdecimal, List.length_append, List.length_replicate]
    congr 2
    omega
  · have hbefore := hpoint.resolve_left ‹_›
    have hwhole : digits.take (leadingExponent.toNat + 1) ≠ [] := by simpa using hne
    have hdecimal := decimal?_fraction hwhole (fun c hc => hdigits c (List.mem_of_mem_take hc))
      (fun c hc => hdigits c (List.mem_of_mem_drop (i := leadingExponent.toNat + 1) hc))
    rw [List.take_append_drop, List.length_drop] at hdecimal
    dsimp only
    rw [if_pos hbefore, hdecimal]
    congr 2
    omega

/-- A point behind the digits, with zeros before and after it. -/
theorem decimal?_positional_zeros {leadingExponent : Int} (hnonneg : 0 ≤ leadingExponent)
    (hbehind : digits.length ≤ leadingExponent.toNat + 1) :
    decimal? (positional digits leadingExponent) =
      some (Decimal.scaled ⟨decimalValue digits, leadingExponent + 1 - digits.length⟩
        (leadingExponent.toNat + 1 - digits.length + 1)) := by
  unfold positional
  dsimp only
  rw [if_neg (by omega), if_neg (by omega)]
  generalize hzeros : leadingExponent.toNat + 1 - digits.length = zeros
  have hwhole : ∀ c ∈ digits ++ List.replicate zeros '0', c.isDigit = true :=
    List.forall_mem_append.mpr ⟨hdigits, by simp⟩
  have hfraction : ∀ c ∈ ['0'], c.isDigit = true := by simp
  have hdecimal := decimal?_fraction (List.append_ne_nil_of_left_ne_nil hne _) hwhole hfraction
  have hvalue := Numeral.decimalValue_append_zeros digits (zeros + 1)
  rw [List.replicate_succ', ← List.append_assoc] at hvalue
  rw [hdecimal, hvalue, Decimal.scaled]
  simp
  omega

theorem decimal?_scientific (leadingExponent : Int) :
    decimal? (scientific digits leadingExponent) =
      some ⟨decimalValue digits, leadingExponent + 1 - digits.length⟩ := by
  have hexponent : exponent? ('e' :: (toString leadingExponent).toList) = some leadingExponent :=
    exponentValue?_toString leadingExponent
  have hstop : ∀ p : Char → Bool, p 'e' = false →
      StopsAt p ('e' :: (toString leadingExponent).toList) :=
    fun p => stopsAt_cons.mpr
  unfold scientific
  split
  · next first second rest =>
    have hdecimal := decimal?_point (List.cons_ne_nil first [])
      (by simpa using hdigits first List.mem_cons_self)
      (fun c hc => hdigits c (List.mem_cons_of_mem first hc)) (hstop _ (by decide))
    rw [hexponent] at hdecimal
    refine hdecimal.trans ?_
    simp only [Option.map_some, List.singleton_append, List.length_cons]
    congr 2
    omega
  · next hsingle =>
    have hlength : digits.length = 1 := by
      match digits, hne, hsingle with
      | [_], _, _ => rfl
      | first :: second :: rest, _, hsingle => exact absurd rfl (hsingle first second rest)
    rw [decimal?_whole hne hdigits (hstop _ (by decide)) (hstop _ (by decide)), hexponent,
      Option.map_some, hlength]
    congr 2
    omega

end

/-! ## Numbers -/

/-- The text of a positive finite magnitude is that of its shortest decimal. -/
theorem exists_decimal?_renderFinite (n : Nat) :
    ∃ zeros, decimal? (renderFinite n) = some ((shortest n).scaled zeros) := by
  unfold renderFinite
  generalize shortest n = d
  have hne : Nat.toDigits 10 d.digits ≠ [] := Nat.toDigits_ne_nil
  have hdigits : ∀ c ∈ Nat.toDigits 10 d.digits, c.isDigit = true :=
    fun _ => Numeral.isDigit_of_mem_toDigits
  have hdecimal : (⟨decimalValue (Nat.toDigits 10 d.digits),
      d.leadingExponent + 1 - (Nat.toDigits 10 d.digits).length⟩ : Decimal) = d := by
    rw [Numeral.decimalValue_toDigits, Decimal.leadingExponent]
    obtain ⟨digits, exponent⟩ := d
    simp
  dsimp only
  split
  · by_cases hpoint : d.leadingExponent < 0 ∨
        d.leadingExponent.toNat + 1 < (Nat.toDigits 10 d.digits).length
    · refine ⟨0, ?_⟩
      rw [decimal?_positional hne hdigits hpoint, hdecimal, Decimal.scaled_zero]
    · rw [decimal?_positional_zeros hne hdigits (by omega) (by omega), hdecimal]
      exact ⟨_, rfl⟩
  · refine ⟨0, ?_⟩
    rw [decimal?_scientific hne hdigits, hdecimal, Decimal.scaled_zero]

/-- The text of a finite magnitude stands for a decimal that rounds to it. -/
theorem exists_decimal?_renderMagnitude {n : Nat} (h : n < infinity) :
    ∃ d, decimal? (renderMagnitude n) = some d ∧ magnitudeOf d = n := by
  unfold renderMagnitude
  by_cases hzero : n = 0
  · rw [if_pos hzero, hzero]
    exact ⟨⟨0, -1⟩, by decide, rfl⟩
  · rw [if_neg hzero, if_pos h]
    obtain ⟨zeros, hdecimal⟩ := exists_decimal?_renderFinite n
    refine ⟨_, hdecimal, ?_⟩
    rw [magnitudeOf_scaled, magnitudeOf_shortest (Nat.pos_of_ne_zero hzero) h]

/-- A finite number is read back from its text, with its sign. -/
theorem value?_render {x : Binary64} (h : x.isFinite = true) : value? x.render = some x := by
  have hlt : x.magnitude < infinity := of_decide_eq_true h
  have hnumber : ¬x.isNaN = true := by
    simp only [isNaN, decide_eq_true_eq]
    omega
  obtain ⟨d, hdecimal, hmagnitude⟩ := exists_decimal?_renderMagnitude hlt
  have hparts : ofDecimal x.isNegative d = x := by
    rw [ofDecimal, hmagnitude, ofParts_parts]
  unfold render
  rw [if_neg hnumber]
  cases hsign : x.isNegative with
  | true =>
    rw [hsign] at hparts
    rw [if_pos rfl, value?, hdecimal, Option.map_some, hparts]
  | false =>
    rw [hsign] at hparts
    rw [if_neg Bool.false_ne_true, value?_of_decimal? hdecimal, hparts]

end Amd64Effects.Binary64
