import Amd64Effects.Binary64.Rounding
import Amd64Effects.Text.Word

/-!
# Numerals

The text of an integer. A numeral is read in decimal, or in hexadecimal after `0x`, and may have a
sign before it; it is written in decimal, with a sign only if it is negative.

Its value has to fit a word of 64 bits with a sign. There are numerals without a value: those that
do not fit, and those with a decimal digit of another script than ASCII.
-/

namespace Amd64Effects

namespace Numeral

/-! ## Digits -/

def isHexDigit (c : Char) : Bool :=
  c.isDigit || ('a' ≤ c && c ≤ 'f') || ('A' ≤ c && c ≤ 'F')

/-- The value of a hexadecimal digit. -/
def hexDigitValue (c : Char) : Nat :=
  if c.isDigit then c.toNat - '0'.toNat
  else if 'a' ≤ c then c.toNat - 'a'.toNat + 10
  else c.toNat - 'A'.toNat + 10

/-- The value of hexadecimal digits, the greatest first. -/
def hexValue (digits : List Char) : Nat :=
  digits.foldl (fun n c => 16 * n + hexDigitValue c) 0

/-- The value of decimal digits, the greatest first. -/
def decimalValue (digits : List Char) : Nat :=
  Nat.ofDigitChars 10 digits 0

/-- What follows the mark of a hexadecimal numeral. -/
def hexDigits? : List Char → Option (List Char)
  | '0' :: 'x' :: digits => some digits
  | '0' :: 'X' :: digits => some digits
  | _ => none

/-! ## Shape -/

/-- Whether a text is a numeral without a sign. -/
def isUnsigned (text : List Char) : Bool :=
  match hexDigits? text with
  | some digits => !digits.isEmpty && digits.all isHexDigit
  | none => Text.isDigits text

/-- A sign and what follows it. Without a sign a numeral is not negative. -/
def splitSign : List Char → Bool × List Char
  | '-' :: rest => (true, rest)
  | '+' :: rest => (false, rest)
  | text => (false, text)

/-- Whether a text is a numeral, with or without a sign. -/
def isSigned (text : List Char) : Bool :=
  isUnsigned (splitSign text).2

/-! ## Value -/

/-- The value of a numeral without a sign, where its digits have one. -/
def magnitude? (text : List Char) : Option Nat :=
  match hexDigits? text with
  | some digits => if !digits.isEmpty && digits.all isHexDigit then some (hexValue digits) else none
  | none => if !text.isEmpty && text.all Char.isDigit then some (decimalValue text) else none

/-- The word of an integer, where it fits one. -/
def toWord? (v : Int) : Option Int64 :=
  if Int64.minValue.toInt ≤ v ∧ v ≤ Int64.maxValue.toInt then some (Int64.ofInt v) else none

/-- The value of a numeral, where it has one. -/
def value? (text : List Char) : Option Int64 :=
  (magnitude? (splitSign text).2).bind fun n =>
    toWord? (if (splitSign text).1 then -(n : Int) else n)

/-! ## Writing -/

/-- The numeral of a word. -/
def ofWord (v : Int64) : List Char :=
  if v.toInt < 0 then '-' :: Nat.toDigits 10 v.toInt.natAbs else Nat.toDigits 10 v.toInt.natAbs

theorem toWord?_toInt (v : Int64) : toWord? v.toInt = some v := by
  unfold toWord?
  rw [if_pos ⟨v.minValue_le_toInt, v.toInt_le⟩, Int64.ofInt_toInt]

/-! ## Reading what was written -/

theorem all_isDigit_toDigits (n : Nat) : (Nat.toDigits 10 n).all Char.isDigit = true := by
  rw [List.all_eq_true]
  exact fun c hc => Nat.isDigit_of_mem_toDigits (by decide) (by decide) hc

theorem hexDigits?_toDigits (n : Nat) : hexDigits? (Nat.toDigits 10 n) = none := by
  unfold hexDigits?
  have h := all_isDigit_toDigits n
  split
  · rename_i heq
    rw [heq] at h
    simp at h
  · rename_i heq
    rw [heq] at h
    simp at h
  · rfl

theorem magnitude?_toDigits (n : Nat) : magnitude? (Nat.toDigits 10 n) = some n := by
  unfold magnitude?
  rw [hexDigits?_toDigits]
  simp [all_isDigit_toDigits, decimalValue, Nat.ofDigitChars_toDigits]

theorem splitSign_toDigits (n : Nat) :
    splitSign (Nat.toDigits 10 n) = (false, Nat.toDigits 10 n) := by
  have h := all_isDigit_toDigits n
  unfold splitSign
  split
  · rename_i heq
    rw [heq] at h
    simp at h
  · rename_i heq
    rw [heq] at h
    simp at h
  · rfl

theorem value?_toDigits (n : Nat) : value? (Nat.toDigits 10 n) = toWord? n := by
  unfold value?
  rw [splitSign_toDigits, magnitude?_toDigits, Option.bind_some, if_neg Bool.false_ne_true]

theorem value?_minus_toDigits (n : Nat) : value? ('-' :: Nat.toDigits 10 n) = toWord? (-n) := by
  unfold value?
  rw [show splitSign ('-' :: Nat.toDigits 10 n) = (true, Nat.toDigits 10 n) from rfl]
  rw [magnitude?_toDigits, Option.bind_some, if_pos rfl]

/-- A written word is read back. -/
theorem value?_ofWord (v : Int64) : value? (ofWord v) = some v := by
  rw [← toWord?_toInt v]
  unfold ofWord
  split
  · rw [value?_minus_toDigits]
    congr 1
    omega
  · rw [value?_toDigits]
    congr 1
    omega

end Numeral

/-!
## Floating-point literals

A literal has digits before its point, may have digits behind it, and may have an exponent of ten.
All digits are of ASCII. It stands for the number of 64 bits that is nearest to it.
-/

namespace FloatLiteral

/-- The digits at the front of a text, and what follows them. -/
def splitDigits (text : List Char) : List Char × List Char :=
  (text.takeWhile Char.isDigit, text.dropWhile Char.isDigit)

/-- The digits behind a point, where there is one, and what follows them. -/
def splitFraction : List Char → List Char × List Char
  | '.' :: rest => splitDigits rest
  | rest => ([], rest)

/-- The value of the digits of an exponent. -/
def exponentValue? (text : List Char) : Option Int :=
  let (negative, digits) := Numeral.splitSign text
  if !digits.isEmpty && digits.all Char.isDigit then
    some (if negative then -(Numeral.decimalValue digits : Int) else Numeral.decimalValue digits)
  else none

/-- The exponent at the end of a literal; without one it is zero. -/
def exponent? : List Char → Option Int
  | [] => some 0
  | 'e' :: rest => exponentValue? rest
  | 'E' :: rest => exponentValue? rest
  | _ => none

/-- The decimal of a literal without a sign. -/
def decimal? (text : List Char) : Option Decimal :=
  let (whole, rest) := splitDigits text
  let (fraction, rest) := splitFraction rest
  if whole.isEmpty then none
  else (exponent? rest).map fun e =>
    ⟨Numeral.decimalValue (whole ++ fraction), e - fraction.length⟩

/-- The number that a literal stands for. -/
def value? : List Char → Option Binary64
  | '-' :: text => (decimal? text).map (Binary64.ofDecimal true)
  | text => (decimal? text).map (Binary64.ofDecimal false)

end FloatLiteral

end Amd64Effects
