import Amd64Effects.Proofs.Numeral

/-!
# What a numeral denotes

A numeral in digits of ASCII stands for an integer, whether or not that fits a word of 64 bits. It
is read as that integer if it fits, and has no value if it does not (`value?_of_denotes`). Nothing
else has a value (`value?_eq_some_iff`).

`Denotes` follows the grammar of numerals: digits in decimal, or in hexadecimal behind their mark,
and an optional sign in front.
-/

namespace Amd64Effects.Numeral

/-! ## Integers of numerals -/

/-- The number of a numeral without a sign. -/
inductive DenotesNat : List Char → Nat → Prop
  | decimal {digits : List Char} (hne : digits ≠ []) (h : ∀ c ∈ digits, c.isDigit = true) :
      DenotesNat digits (decimalValue digits)
  | hexadecimal {x : Char} {digits : List Char} (hx : x = 'x' ∨ x = 'X') (hne : digits ≠ [])
      (h : ∀ c ∈ digits, isHexDigit c = true) : DenotesNat ('0' :: x :: digits) (hexValue digits)

/-- The integer of a numeral, which may have a sign. -/
inductive Denotes : List Char → Int → Prop
  | unsigned {text : List Char} {n : Nat} (h : DenotesNat text n) : Denotes text n
  | plus {text : List Char} {n : Nat} (h : DenotesNat text n) : Denotes ('+' :: text) n
  | minus {text : List Char} {n : Nat} (h : DenotesNat text n) : Denotes ('-' :: text) (-n)

/-! ## Numerals without a sign -/

theorem hexDigits?_mark {x : Char} (hx : x = 'x' ∨ x = 'X') (digits : List Char) :
    hexDigits? ('0' :: x :: digits) = some digits := by
  rcases hx with rfl | rfl <;> rfl

theorem DenotesNat.magnitude?_eq {text : List Char} {n : Nat} (h : DenotesNat text n) :
    magnitude? text = some n := by
  unfold magnitude?
  cases h with
  | decimal hne h =>
    rw [hexDigits?_of_isDigits (Text.isDigits_of_isDigit hne h)]
    have hall := List.all_eq_true.mpr h
    simp [hne, hall]
  | @hexadecimal x digits hx hne h =>
    rw [hexDigits?_mark hx]
    have hall := List.all_eq_true.mpr h
    simp [hne, hall]

theorem DenotesNat.isUnsigned {text : List Char} {n : Nat} (h : DenotesNat text n) :
    isUnsigned text = true := by
  cases h with
  | decimal hne h => exact isUnsigned_of_isDigits (Text.isDigits_of_isDigit hne h)
  | @hexadecimal x digits hx hne h =>
    unfold Numeral.isUnsigned
    rw [hexDigits?_mark hx]
    have hall := List.all_eq_true.mpr h
    simp [hne, hall]

theorem DenotesNat.splitSign_eq {text : List Char} {n : Nat} (h : DenotesNat text n) :
    splitSign text = (false, text) :=
  splitSign_of_isUnsigned h.isUnsigned

theorem denotesNat_of_magnitude? {text : List Char} {n : Nat} (h : magnitude? text = some n) :
    DenotesNat text n := by
  unfold magnitude? at h
  split at h
  · next digits hdigits =>
    obtain ⟨x, hx, rfl⟩ := eq_of_hexDigits? hdigits
    split at h
    · next hguard =>
      rw [Bool.and_eq_true, Bool.not_eq_true', List.isEmpty_eq_false_iff, List.all_eq_true]
        at hguard
      rw [← Option.some.inj h]
      exact .hexadecimal hx hguard.1 hguard.2
    · simp at h
  · split at h
    · next hguard =>
      rw [Bool.and_eq_true, Bool.not_eq_true', List.isEmpty_eq_false_iff, List.all_eq_true]
        at hguard
      rw [← Option.some.inj h]
      exact .decimal hguard.1 hguard.2
    · simp at h

/-! ## Values -/

/-- A numeral has the value that it denotes, unless that does not fit. -/
theorem value?_of_denotes {text : List Char} {v : Int} (h : Denotes text v) :
    value? text = toWord? v := by
  unfold value?
  cases h with
  | unsigned h => rw [h.splitSign_eq, h.magnitude?_eq, Option.bind_some, if_neg Bool.false_ne_true]
  | plus h =>
    rw [splitSign, h.magnitude?_eq, Option.bind_some, if_neg Bool.false_ne_true]
  | minus h => rw [splitSign, h.magnitude?_eq, Option.bind_some, if_pos rfl]

theorem Denotes.isSigned {text : List Char} {v : Int} (h : Denotes text v) :
    isSigned text = true := by
  unfold Numeral.isSigned
  cases h with
  | unsigned h =>
    rw [h.splitSign_eq]
    exact h.isUnsigned
  | plus h => exact h.isUnsigned
  | minus h => exact h.isUnsigned

theorem denotes_of_value? {text : List Char} {w : Int64} (h : value? text = some w) :
    Denotes text w.toInt := by
  obtain ⟨n, hn, hw⟩ := Option.bind_eq_some_iff.mp h
  rw [toWord?_eq_some_iff.mp hw]
  have hnat := denotesNat_of_magnitude? hn
  unfold splitSign at hnat ⊢
  split at hnat
  · exact .minus hnat
  · exact .plus hnat
  · exact .unsigned hnat

/-- A numeral has a value if it denotes one, in digits of ASCII, that fits. -/
theorem value?_eq_some_iff {text : List Char} {w : Int64} :
    value? text = some w ↔ Denotes text w.toInt := by
  constructor
  · exact denotes_of_value?
  · intro h
    rw [value?_of_denotes h]
    exact toWord?_toInt w

end Amd64Effects.Numeral
