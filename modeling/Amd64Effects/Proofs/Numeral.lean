import Mathlib.Algebra.Group.Int.Defs
import Mathlib.Algebra.Group.Nat.Defs
import Amd64Effects.Proofs.Text.Classes
import Amd64Effects.Proofs.Text.Pieces

/-!
# The shape of a numeral

Which characters a numeral is made of, and which of them come first: a numeral that is written is
also one that can be read (`isSigned_ofWord`), with a plus in front as well where it is not
negative (`value?_plus_ofWord`). No numeral holds a mark that could end an operand or begin another
part of it.
-/

namespace Amd64Effects.Numeral

/-! ## Written numerals -/

theorem ofWord_of_nonneg {v : Int64} (h : 0 ≤ v.toInt) :
    ofWord v = Nat.toDigits 10 v.toInt.natAbs := by
  unfold ofWord
  rw [if_neg (by omega)]

theorem ofWord_of_neg {v : Int64} (h : v.toInt < 0) :
    ofWord v = '-' :: Nat.toDigits 10 v.toInt.natAbs := by
  unfold ofWord
  rw [if_pos h]

theorem isDigit_of_mem_toDigits {n : Nat} {c : Char} (h : c ∈ Nat.toDigits 10 n) :
    c.isDigit = true :=
  List.all_eq_true.mp (all_isDigit_toDigits n) c h

theorem isDigits_toDigits (n : Nat) : Text.isDigits (Nat.toDigits 10 n) = true :=
  Text.isDigits_of_isDigit Nat.toDigits_ne_nil fun _ hc => isDigit_of_mem_toDigits hc

theorem isUnsigned_toDigits (n : Nat) : isUnsigned (Nat.toDigits 10 n) = true := by
  unfold isUnsigned
  rw [hexDigits?_toDigits]
  exact isDigits_toDigits n

theorem isDigits_ofWord {v : Int64} (h : 0 ≤ v.toInt) : Text.isDigits (ofWord v) = true := by
  rw [ofWord_of_nonneg h]
  exact isDigits_toDigits _

theorem isSigned_ofWord (v : Int64) : isSigned (ofWord v) = true := by
  unfold isSigned
  by_cases h : v.toInt < 0
  · rw [ofWord_of_neg h]
    exact isUnsigned_toDigits _
  · rw [ofWord_of_nonneg (by omega), splitSign_toDigits]
    exact isUnsigned_toDigits _

theorem isSigned_plus_ofWord {v : Int64} (h : 0 ≤ v.toInt) :
    isSigned ('+' :: ofWord v) = true := by
  unfold isSigned
  rw [ofWord_of_nonneg h]
  exact isUnsigned_toDigits _

/-- A numeral with a plus stands for the same word as without. -/
theorem value?_plus_ofWord {v : Int64} (h : 0 ≤ v.toInt) : value? ('+' :: ofWord v) = some v := by
  have hvalue := value?_ofWord v
  rw [ofWord_of_nonneg h] at hvalue ⊢
  unfold value? at hvalue ⊢
  rw [splitSign_toDigits] at hvalue
  exact hvalue

theorem ofWord_ne_nil (v : Int64) : ofWord v ≠ [] := by
  unfold ofWord
  split
  · simp
  · exact Nat.toDigits_ne_nil

/-! ## The value of digits -/

theorem decimalValue_toDigits (n : Nat) : decimalValue (Nat.toDigits 10 n) = n :=
  Nat.ofDigitChars_ten_toDigits

theorem decimalValue_zeros_append (k : Nat) (digits : List Char) :
    decimalValue (List.replicate k '0' ++ digits) = decimalValue digits := by
  unfold decimalValue
  rw [Nat.ofDigitChars_append, Nat.ofDigitChars_replicate_zero, Nat.mul_zero]

theorem decimalValue_append_zeros (digits : List Char) (k : Nat) :
    decimalValue (digits ++ List.replicate k '0') = decimalValue digits * 10 ^ k := by
  unfold decimalValue
  rw [Nat.ofDigitChars_append, Nat.ofDigitChars_replicate_zero, Nat.mul_comm]

/-! ## Characters of a numeral -/

/-- The digits behind the mark of a hexadecimal numeral, and the mark. -/
theorem eq_of_hexDigits? {text digits : List Char} (h : hexDigits? text = some digits) :
    ∃ x, (x = 'x' ∨ x = 'X') ∧ text = '0' :: x :: digits := by
  unfold hexDigits? at h
  split at h
  · exact ⟨'x', Or.inl rfl, by rw [Option.some.inj h]⟩
  · exact ⟨'X', Or.inr rfl, by rw [Option.some.inj h]⟩
  · simp at h

/-- A numeral without a sign begins with a digit. -/
theorem exists_cons_of_isUnsigned {text : List Char} (h : isUnsigned text = true) :
    ∃ c rest, text = c :: rest ∧ Text.isDecimalDigit c = true := by
  unfold isUnsigned at h
  split at h
  · next digits hdigits =>
    obtain ⟨x, -, rfl⟩ := eq_of_hexDigits? hdigits
    exact ⟨'0', x :: digits, rfl, by decide⟩
  · exact Text.exists_cons_of_isDigits h

theorem head?_ne_plus_of_isUnsigned {text : List Char} (h : isUnsigned text = true) :
    text.head? ≠ some '+' := by
  obtain ⟨c, rest, rfl, hc⟩ := exists_cons_of_isUnsigned h
  intro hplus
  rw [Option.some.inj hplus] at hc
  exact absurd hc (by decide)

theorem splitSign_of_isUnsigned {text : List Char} (h : isUnsigned text = true) :
    splitSign text = (false, text) := by
  obtain ⟨c, rest, rfl, hc⟩ := exists_cons_of_isUnsigned h
  unfold splitSign
  split
  · next heq =>
    rw [(List.cons.inj heq).1] at hc
    exact absurd hc (by decide)
  · next heq =>
    rw [(List.cons.inj heq).1] at hc
    exact absurd hc (by decide)
  · rfl

/-- All characters of a numeral without a sign could stand in a symbol. -/
theorem isNameChar_of_isUnsigned {text : List Char} (h : isUnsigned text = true) :
    ∀ c ∈ text, Text.isNameChar c = true := by
  unfold isUnsigned at h
  split at h
  · next digits hdigits =>
    obtain ⟨x, hx, rfl⟩ := eq_of_hexDigits? hdigits
    simp only [Bool.and_eq_true, List.all_eq_true] at h
    intro c hc
    rcases List.mem_cons.mp hc with rfl | hc
    · exact Text.isNameChar_of_isAlphanum (by decide)
    · rcases List.mem_cons.mp hc with rfl | hc
      · exact Text.isNameChar_of_isAlphanum (by rcases hx with rfl | rfl <;> decide)
      · exact Text.isNameChar_of_isAlphanum (Text.isAlphanum_of_isHexDigit (h.2 c hc))
  · exact Text.isNameChar_of_isDigits h

theorem eq_of_splitSign (text : List Char) :
    text = (splitSign text).2 ∨ text = '+' :: (splitSign text).2 ∨
      text = '-' :: (splitSign text).2 := by
  unfold splitSign
  split <;> simp

/-- A numeral begins with a sign or with a digit. -/
theorem exists_cons_of_isSigned {text : List Char} (h : isSigned text = true) :
    ∃ c rest, text = c :: rest ∧ (c = '+' ∨ c = '-' ∨ Text.isDecimalDigit c = true) := by
  rcases eq_of_splitSign text with heq | heq | heq
  · obtain ⟨c, rest, hcons, hc⟩ := exists_cons_of_isUnsigned h
    exact ⟨c, rest, heq.trans hcons, Or.inr (Or.inr hc)⟩
  · exact ⟨'+', _, heq, Or.inl rfl⟩
  · exact ⟨'-', _, heq, Or.inr (Or.inl rfl)⟩

theorem ne_nil_of_isSigned {text : List Char} (h : isSigned text = true) : text ≠ [] := by
  obtain ⟨c, rest, rfl, -⟩ := exists_cons_of_isSigned h
  exact List.cons_ne_nil c rest

/-- All characters of a numeral but for its sign could stand in a symbol. -/
theorem mem_of_isSigned {text : List Char} (h : isSigned text = true) {c : Char} (hc : c ∈ text) :
    c = '+' ∨ c = '-' ∨ Text.isNameChar c = true := by
  have hunsigned := isNameChar_of_isUnsigned h
  rcases eq_of_splitSign text with heq | heq | heq <;> rw [heq] at hc
  · exact Or.inr (Or.inr (hunsigned c hc))
  · rcases List.mem_cons.mp hc with rfl | hc
    · exact Or.inl rfl
    · exact Or.inr (Or.inr (hunsigned c hc))
  · rcases List.mem_cons.mp hc with rfl | hc
    · exact Or.inr (Or.inl rfl)
    · exact Or.inr (Or.inr (hunsigned c hc))

/-! ## Digits without a sign -/

theorem hexDigits?_of_isDigits {digits : List Char} (h : Text.isDigits digits = true) :
    hexDigits? digits = none := by
  cases hhex : hexDigits? digits with
  | none => rfl
  | some rest =>
    obtain ⟨x, hx, rfl⟩ := eq_of_hexDigits? hhex
    have hdigit : Text.isDecimalDigit x = true :=
      Text.isDecimalDigit_of_isDigits h x (List.mem_cons_of_mem _ List.mem_cons_self)
    rcases hx with rfl | rfl <;> exact absurd hdigit (by decide)

theorem isUnsigned_of_isDigits {digits : List Char} (h : Text.isDigits digits = true) :
    isUnsigned digits = true := by
  unfold isUnsigned
  rw [hexDigits?_of_isDigits h]
  exact h

theorem splitSign_of_isDigits {digits : List Char} (h : Text.isDigits digits = true) :
    splitSign digits = (false, digits) :=
  splitSign_of_isUnsigned (isUnsigned_of_isDigits h)

theorem isSigned_of_isDigits {digits : List Char} (h : Text.isDigits digits = true) :
    isSigned digits = true := by
  unfold isSigned
  rw [splitSign_of_isDigits h]
  exact isUnsigned_of_isDigits h

/-- Digits have a number if all of them are of ASCII. -/
theorem magnitude?_of_isDigits {digits : List Char} (h : Text.isDigits digits = true) :
    magnitude? digits = if digits.all Char.isDigit then some (decimalValue digits) else none := by
  unfold magnitude?
  rw [hexDigits?_of_isDigits h]
  simp [Text.ne_nil_of_isDigits h]

theorem value?_of_isDigits {digits : List Char} (h : Text.isDigits digits = true) :
    value? digits = if digits.all Char.isDigit then toWord? (decimalValue digits) else none := by
  unfold value?
  rw [splitSign_of_isDigits h, magnitude?_of_isDigits h]
  cases digits.all Char.isDigit <;> rfl

theorem toWord?_eq_some_iff {v : Int} {w : Int64} : toWord? v = some w ↔ w.toInt = v := by
  constructor
  · intro h
    unfold toWord? at h
    split at h
    · next hrange =>
      rw [← Option.some.inj h, Int64.toInt_ofInt_of_le]
      · exact hrange.1
      · have hmax : Int64.maxValue.toInt = 2 ^ 63 - 1 := by decide
        omega
    · simp at h
  · rintro rfl
    exact toWord?_toInt w

theorem value?_eq_some_of_isDigits {digits : List Char} (h : Text.isDigits digits = true)
    {v : Int64} :
    value? digits = some v ↔
      (∀ c ∈ digits, c.isDigit = true) ∧ v.toInt = decimalValue digits := by
  rw [value?_of_isDigits h, ← List.all_eq_true]
  cases digits.all Char.isDigit <;> simp [toWord?_eq_some_iff]

/-- Digits have no value if one is not of ASCII or if their number does not fit a word. -/
theorem value?_eq_none_of_isDigits {digits : List Char} (h : Text.isDigits digits = true) :
    value? digits = none ↔
      (∃ c ∈ digits, c.isDigit = false) ∨ 2 ^ 63 ≤ decimalValue digits := by
  have hmin : Int64.minValue.toInt = -2 ^ 63 := by decide
  have hmax : Int64.maxValue.toInt = 2 ^ 63 - 1 := by decide
  have hword : toWord? (decimalValue digits) = none ↔ 2 ^ 63 ≤ decimalValue digits := by
    unfold toWord?
    split <;> simp <;> omega
  rw [value?_of_isDigits h]
  by_cases hall : digits.all Char.isDigit = true
  · rw [if_pos hall, hword]
    rw [List.all_eq_true] at hall
    refine (or_iff_right ?_).symm
    rintro ⟨c, hc, hfalse⟩
    rw [hall c hc] at hfalse
    exact Bool.false_ne_true hfalse.symm
  · rw [if_neg hall]
    rw [Bool.not_eq_true, List.all_eq_false] at hall
    simpa using Or.inl hall

end Amd64Effects.Numeral
