import Amd64Effects.Proofs.Numeral.Denotation
import Mathlib.Data.Nat.Digits.Lemmas
import Mathlib.Tactic.Ring

/-!
# Integer literals

A literal is a sign, the mark of a radix and digits of that radix. Its value is the sum of its
digits, each times the power of the base that belongs to its place, and negative behind a minus.

A reader goes through the digits from the left and knows of no places. That it finds the value
nevertheless is `hexValue_eq_placeValue` for one radix and `decimalValue_eq_placeValue` for the
other. The texts of literals are those that denote an integer (`exists_literal_iff`).
-/

namespace Amd64Effects.Numeral

/-! ## Digits and places -/

/-- The digits, each at the place of its value. -/
def digitOrder : List Char := "0123456789abcdef".toList

/-- The value of a digit, whatever the case of a letter. -/
def digitValue (c : Char) : Nat := digitOrder.idxOf c.toLower

/-- The number of digits in a base, the greatest first. -/
def placeValue (base : Nat) (digits : List Char) : Nat :=
  Nat.ofDigits base (digits.map digitValue).reverse

theorem hexDigitValue_eq {c : Char} (h : isHexDigit c = true) : hexDigitValue c = digitValue c := by
  have hall : ∀ n ∈ List.range 128, isHexDigit (Char.ofNat n) = true →
      hexDigitValue (Char.ofNat n) = digitValue (Char.ofNat n) := by decide +kernel
  have halnum := Text.isAlphanum_iff.mp (Text.isAlphanum_of_isHexDigit h)
  have hc := hall c.toNat (List.mem_range.mpr (by omega))
  rw [Char.ofNat_toNat] at hc
  exact hc h

theorem toNat_sub_eq {c : Char} (h : c.isDigit = true) : c.toNat - '0'.toNat = digitValue c := by
  have hhex : isHexDigit c = true := by simp [isHexDigit, h]
  rw [← hexDigitValue_eq hhex, hexDigitValue, if_pos h]

/-- Going through digits from the left moves what was read before by one place each time. -/
theorem foldl_eq_ofDigits (base : Nat) (value : Char → Nat) (digits : List Char) (start : Nat) :
    digits.foldl (fun n c => base * n + value c) start =
      start * base ^ digits.length + Nat.ofDigits base (digits.map value).reverse := by
  induction digits generalizing start with
  | nil => simp
  | cons c rest ih =>
    rw [List.foldl_cons, ih, List.map_cons, Nat.ofDigits_reverse_cons, List.length_map,
      List.length_cons]
    ring

theorem hexValue_eq_placeValue {digits : List Char} (h : ∀ c ∈ digits, isHexDigit c = true) :
    hexValue digits = placeValue 16 digits := by
  unfold hexValue placeValue
  rw [foldl_eq_ofDigits, Nat.zero_mul, Nat.zero_add,
    List.map_congr_left fun c hc => hexDigitValue_eq (h c hc)]

theorem decimalValue_eq_placeValue {digits : List Char} (h : ∀ c ∈ digits, c.isDigit = true) :
    decimalValue digits = placeValue 10 digits := by
  unfold decimalValue placeValue Nat.ofDigitChars
  rw [foldl_eq_ofDigits 10 (fun c => c.toNat - '0'.toNat), Nat.zero_mul, Nat.zero_add,
    List.map_congr_left fun c hc => toNat_sub_eq (h c hc)]

/-! ## Literals -/

inductive Sign where
  | none | plus | minus
  deriving DecidableEq, Repr

def Sign.text : Sign → List Char
  | none => []
  | plus => ['+']
  | minus => ['-']

/-- Decimal, or hexadecimal with a small or a capital letter in its mark. -/
inductive Radix where
  | decimal
  | hexadecimal (isCapital : Bool)
  deriving DecidableEq, Repr

namespace Radix

def base : Radix → Nat
  | decimal => 10
  | hexadecimal _ => 16

def mark : Radix → List Char
  | decimal => []
  | hexadecimal isCapital => ['0', if isCapital then 'X' else 'x']

def isDigit : Radix → Char → Bool
  | decimal => Char.isDigit
  | hexadecimal _ => isHexDigit

end Radix

structure Literal where
  sign : Sign
  radix : Radix
  digits : List Char
  digits_ne_nil : digits ≠ []
  isDigit_digits : ∀ c ∈ digits, radix.isDigit c = true

namespace Literal

def text (l : Literal) : List Char :=
  l.sign.text ++ (l.radix.mark ++ l.digits)

def magnitude (l : Literal) : Nat :=
  placeValue l.radix.base l.digits

def value (l : Literal) : Int :=
  match l.sign with
  | .minus => -l.magnitude
  | .none | .plus => l.magnitude

/-- Whether the value fits a word of 64 bits with a sign. -/
def Fits (l : Literal) : Prop :=
  -2 ^ 63 ≤ l.value ∧ l.value ≤ 2 ^ 63 - 1

end Literal

/-! ## Literals and what they denote -/

theorem Literal.denotesNat (l : Literal) : DenotesNat (l.radix.mark ++ l.digits) l.magnitude := by
  obtain ⟨sign, radix, digits, hne, hdigits⟩ := l
  cases radix with
  | decimal =>
    show DenotesNat digits (placeValue 10 digits)
    rw [← decimalValue_eq_placeValue hdigits]
    exact .decimal hne hdigits
  | hexadecimal isCapital =>
    show DenotesNat ('0' :: (if isCapital then 'X' else 'x') :: digits) (placeValue 16 digits)
    rw [← hexValue_eq_placeValue hdigits]
    refine .hexadecimal ?_ hne hdigits
    cases isCapital
    · exact Or.inl rfl
    · exact Or.inr rfl

theorem Literal.denotes (l : Literal) : Denotes l.text l.value := by
  have hnat := l.denotesNat
  unfold text value
  cases l.sign with
  | none => exact .unsigned hnat
  | plus => exact .plus hnat
  | minus => exact .minus hnat

theorem DenotesNat.exists_literal {text : List Char} {n : Nat} (h : DenotesNat text n)
    (sign : Sign) : ∃ l : Literal, l.sign = sign ∧ l.text = sign.text ++ text ∧
      l.magnitude = n := by
  cases h with
  | decimal hne hdigits =>
    exact ⟨⟨sign, .decimal, _, hne, hdigits⟩, rfl, rfl, (decimalValue_eq_placeValue hdigits).symm⟩
  | hexadecimal hx hne hdigits =>
    have hvalue := (hexValue_eq_placeValue hdigits).symm
    rcases hx with rfl | rfl
    · exact ⟨⟨sign, .hexadecimal false, _, hne, hdigits⟩, rfl, rfl, hvalue⟩
    · exact ⟨⟨sign, .hexadecimal true, _, hne, hdigits⟩, rfl, rfl, hvalue⟩

/-- The texts that denote an integer are those of the literals with this value. -/
theorem exists_literal_iff {text : List Char} {v : Int} :
    (∃ l : Literal, l.text = text ∧ l.value = v) ↔ Denotes text v := by
  constructor
  · rintro ⟨l, rfl, rfl⟩
    exact l.denotes
  · intro h
    cases h with
    | unsigned h =>
      obtain ⟨l, hsign, htext, rfl⟩ := h.exists_literal .none
      exact ⟨l, htext, by simp [Literal.value, hsign]⟩
    | plus h =>
      obtain ⟨l, hsign, htext, rfl⟩ := h.exists_literal .plus
      exact ⟨l, htext, by simp [Literal.value, hsign]⟩
    | minus h =>
      obtain ⟨l, hsign, htext, rfl⟩ := h.exists_literal .minus
      exact ⟨l, htext, by simp [Literal.value, hsign]⟩

/-! ## Signs in front of a numeral -/

section

variable {sign : Sign} {body : List Char}

theorem splitSign_text_append (h : isUnsigned body = true) :
    splitSign (sign.text ++ body) = (decide (sign = .minus), body) := by
  cases sign with
  | none => exact splitSign_of_isUnsigned h
  | plus => rfl
  | minus => rfl

theorem isSigned_text_append (h : isUnsigned body = true) :
    isSigned (sign.text ++ body) = true := by
  unfold isSigned
  rw [splitSign_text_append h]
  exact h

theorem head?_text_append_ne_plus (h : isUnsigned body = true) (hsign : sign ≠ .plus) :
    (sign.text ++ body).head? ≠ some '+' := by
  cases sign with
  | none => exact head?_ne_plus_of_isUnsigned h
  | plus => exact absurd rfl hsign
  | minus => simp [Sign.text]

/-- Digits of which one is not of ASCII have no value, whatever sign is in front of them. -/
theorem value?_text_append_eq_none (h : Text.isDigits body = true)
    (hforeign : ∃ c ∈ body, c.isDigit = false) : value? (sign.text ++ body) = none := by
  have hall : body.all Char.isDigit = false := List.all_eq_false.mpr (by simpa using hforeign)
  unfold value?
  rw [splitSign_text_append (isUnsigned_of_isDigits h), magnitude?_of_isDigits h, hall]
  rfl

end

theorem Literal.isUnsigned (l : Literal) : isUnsigned (l.radix.mark ++ l.digits) = true :=
  l.denotesNat.isUnsigned

/-! ## Words of literals -/

theorem Literal.fits_iff {l : Literal} : l.Fits ↔ ∃ w : Int64, w.toInt = l.value := by
  constructor
  · rintro ⟨hlow, hhigh⟩
    exact ⟨Int64.ofInt l.value, Int64.toInt_ofInt_of_le hlow (by omega)⟩
  · rintro ⟨w, hw⟩
    have hlow := w.le_toInt
    have hhigh := w.toInt_lt
    exact ⟨by omega, by omega⟩

theorem Literal.value?_text (l : Literal) : value? l.text = toWord? l.value :=
  value?_of_denotes l.denotes

/-- A literal whose value does not fit has no value. -/
theorem Literal.value?_text_eq_none {l : Literal} (h : ¬l.Fits) : value? l.text = none := by
  rw [value?_text, Option.eq_none_iff_forall_not_mem]
  intro w hw
  exact h (fits_iff.mpr ⟨w, toWord?_eq_some_iff.mp hw⟩)

-- leading zeros do not count, and the digits of a literal may be of either case
example : placeValue 16 "00fF".toList = 255 := by decide

end Amd64Effects.Numeral
