import Amd64Effects.Numeral
import Amd64Effects.Text.Pieces

/-!
# Classes of characters

A reader that takes the longest run of a class stops at the right place only if the character behind
the run is in another class. This module tells the classes apart: no blank and none of the marks
that separate the parts of a line may stand in a symbol (`isNameChar_of_isBlank`,
`isNameChar_of_isSeparator`), and no digit may begin one.

The classes of Unicode are tables with hundreds of intervals, so two of them are told apart by
comparing their intervals (`CodePoints.Disjoint`) and not their characters.
-/

namespace Amd64Effects.Text

/-! ## Disjoint tables -/

/-- Each interval of one table lies before or behind each interval of the other. -/
def CodePoints.Disjoint (s t : CodePoints) : Prop :=
  ∀ a ∈ s, ∀ b ∈ t, a.2 < b.1 ∨ b.2 < a.1

instance (s t : CodePoints) : Decidable (CodePoints.Disjoint s t) :=
  decidable_of_iff (s.all fun a => t.all fun b => Nat.ble (a.2 + 1) b.1 || Nat.ble (b.2 + 1) a.1)
    (by simp only [CodePoints.Disjoint, List.all_eq_true, Bool.or_eq_true, Nat.ble_eq,
      Nat.lt_iff_add_one_le])

theorem CodePoints.Disjoint.contains_eq_false {s t : CodePoints} {c : Char} (h : s.Disjoint t)
    (hc : s.contains c = true) : t.contains c = false := by
  obtain ⟨a, ha, hlow, hhigh⟩ := CodePoints.contains_iff.mp hc
  rw [Bool.eq_false_iff]
  intro ht
  obtain ⟨b, hb, hlow', hhigh'⟩ := CodePoints.contains_iff.mp ht
  rcases h a ha b hb with hab | hba
  · omega
  · omega

/-! ## Symbols -/

/-- The intervals of the characters that may stand in a symbol. -/
def nameRanges : CodePoints :=
  alphabetic ++ marks ++ decimalZeros.map (fun z => (z, z + 9)) ++ connectors ++ joiners ++
    [(0x2E, 0x2E), (0xB7, 0xB7)]

theorem isDecimalDigit_eq_contains (c : Char) :
    isDecimalDigit c = CodePoints.contains (decimalZeros.map fun z => (z, z + 9)) c := by
  simp only [isDecimalDigit, CodePoints.contains, List.any_map, Function.comp_def]
  congr 1
  funext z
  rw [Bool.eq_iff_iff]
  simp only [Bool.and_eq_true, decide_eq_true_eq]
  omega

theorem isDot_eq_contains (c : Char) :
    isDot c = CodePoints.contains [(0x2E, 0x2E), (0xB7, 0xB7)] c := by
  have toNat_eq : ∀ d : Char, c = d ↔ c.toNat = d.toNat := fun d => Char.toNat_inj.symm
  rw [Bool.eq_iff_iff]
  simp only [isDot, CodePoints.contains, List.any_cons, List.any_nil, Bool.or_false,
    Bool.or_eq_true, Bool.and_eq_true, decide_eq_true_eq, toNat_eq,
    show '.'.toNat = 0x2E from rfl, show '·'.toNat = 0xB7 from rfl]
  omega

theorem isNameChar_eq_contains (c : Char) : isNameChar c = nameRanges.contains c := by
  have append : ∀ s t : CodePoints,
      CodePoints.contains (s ++ t) c = (s.contains c || t.contains c) :=
    fun s t => List.any_append
  simp only [nameRanges, append, isNameChar, isWordChar, isDecimalDigit_eq_contains,
    isDot_eq_contains]

/-- No blank may stand in a symbol. -/
theorem isNameChar_of_isBlank {c : Char} (h : isBlank c = true) : isNameChar c = false := by
  rw [isNameChar_eq_contains]
  have hdisjoint : blanks.Disjoint nameRanges := by decide +kernel
  exact hdisjoint.contains_eq_false h

/-- The punctuation of ASCII but for the full stop and the underscore. -/
def separators : CodePoints :=
  [(0x21, 0x2D), (0x2F, 0x2F), (0x3A, 0x40), (0x5B, 0x5E), (0x60, 0x60), (0x7B, 0x7E)]

/-- Whether a character can only stand between symbols and numerals: a comma, a colon, a bracket. -/
def isSeparator (c : Char) : Bool :=
  separators.contains c

theorem isNameChar_of_isSeparator {c : Char} (h : isSeparator c = true) : isNameChar c = false := by
  rw [isNameChar_eq_contains]
  have hdisjoint : separators.Disjoint nameRanges := by decide +kernel
  exact hdisjoint.contains_eq_false h

theorem isBlank_of_isSeparator {c : Char} (h : isSeparator c = true) : isBlank c = false := by
  have hdisjoint : separators.Disjoint blanks := by decide
  exact hdisjoint.contains_eq_false h

/-- Of two classes that have nothing in common each excludes the other. -/
theorem eq_false_of_excludes {p q : Char → Bool} {c : Char} (h : p c = true → q c = false)
    (hq : q c = true) : p c = false := by
  rw [Bool.eq_false_iff]
  intro hp
  rw [h hp] at hq
  exact Bool.false_ne_true hq

theorem isBlank_of_isNameChar {c : Char} (h : isNameChar c = true) : isBlank c = false :=
  eq_false_of_excludes isNameChar_of_isBlank h

theorem isSeparator_of_isNameChar {c : Char} (h : isNameChar c = true) : isSeparator c = false :=
  eq_false_of_excludes isNameChar_of_isSeparator h

theorem isSeparator_of_isBlank {c : Char} (h : isBlank c = true) : isSeparator c = false :=
  eq_false_of_excludes isBlank_of_isSeparator h

theorem ne_of_isSeparator {c d : Char} (hc : isSeparator c = false) (hd : isSeparator d = true) :
    c ≠ d := by
  rintro rfl
  rw [hd] at hc
  exact Bool.false_ne_true hc.symm

/-! ## Letters and digits -/

theorem isUpper_iff {c : Char} : c.isUpper = true ↔ 65 ≤ c.toNat ∧ c.toNat ≤ 90 :=
  decide_eq_true_iff.trans (and_congr UInt32.le_iff_toNat_le UInt32.le_iff_toNat_le)

theorem isLower_iff {c : Char} : c.isLower = true ↔ 97 ≤ c.toNat ∧ c.toNat ≤ 122 :=
  Bool.and_eq_true_iff.trans (and_congr (decide_eq_true_iff.trans UInt32.le_iff_toNat_le)
    (decide_eq_true_iff.trans UInt32.le_iff_toNat_le))

theorem isDigit_iff {c : Char} : c.isDigit = true ↔ 48 ≤ c.toNat ∧ c.toNat ≤ 57 :=
  Bool.and_eq_true_iff.trans (and_congr (decide_eq_true_iff.trans UInt32.le_iff_toNat_le)
    (decide_eq_true_iff.trans UInt32.le_iff_toNat_le))

theorem isAlpha_iff {c : Char} :
    c.isAlpha = true ↔ 65 ≤ c.toNat ∧ c.toNat ≤ 90 ∨ 97 ≤ c.toNat ∧ c.toNat ≤ 122 :=
  Bool.or_eq_true_iff.trans (or_congr isUpper_iff isLower_iff)

theorem isAlphanum_iff {c : Char} :
    c.isAlphanum = true ↔
      (65 ≤ c.toNat ∧ c.toNat ≤ 90 ∨ 97 ≤ c.toNat ∧ c.toNat ≤ 122) ∨
        48 ≤ c.toNat ∧ c.toNat ≤ 57 :=
  Bool.or_eq_true_iff.trans (or_congr isAlpha_iff isDigit_iff)

theorem isNameChar_of_isAlpha {c : Char} (h : c.isAlpha = true) : isNameChar c = true := by
  rw [isNameChar_eq_contains, CodePoints.contains_iff]
  rcases isAlpha_iff.mp h with hupper | hlower
  · exact ⟨(0x41, 0x5A), by decide, hupper⟩
  · exact ⟨(0x61, 0x7A), by decide, hlower⟩

theorem isNameChar_of_isAlphanum {c : Char} (h : c.isAlphanum = true) : isNameChar c = true := by
  rcases Bool.or_eq_true_iff.mp h with halpha | hdigit
  · exact isNameChar_of_isAlpha halpha
  · exact isNameChar_of_isDecimalDigit (isDecimalDigit_of_isDigit hdigit)

/-- A character that may begin a symbol may also stand further behind. -/
theorem isNameChar_of_isNameStart {c : Char} (h : isNameStart c = true) : isNameChar c = true := by
  simp only [isNameStart, Bool.or_eq_true, decide_eq_true_eq] at h
  rcases h with (halpha | rfl) | hdot
  · exact isNameChar_of_isAlpha halpha
  · decide +kernel
  · simp [isNameChar, hdot]

theorem isNameChar_of_isName {text : List Char} (h : isName text = true) :
    ∀ c ∈ text, isNameChar c = true := by
  cases text with
  | nil => simp [isName] at h
  | cons d rest =>
    rw [isName_cons, Bool.and_eq_true, List.all_eq_true] at h
    intro c hc
    rcases List.mem_cons.mp hc with rfl | hc
    · exact isNameChar_of_isNameStart h.1
    · exact h.2 c hc

theorem ne_nil_of_isName {text : List Char} (h : isName text = true) : text ≠ [] := by
  rintro rfl
  exact Bool.false_ne_true h

theorem ne_nil_of_isDigits {text : List Char} (h : isDigits text = true) : text ≠ [] := by
  rintro rfl
  exact Bool.false_ne_true h

theorem isDecimalDigit_of_isDigits {text : List Char} (h : isDigits text = true) :
    ∀ c ∈ text, isDecimalDigit c = true := by
  simp only [isDigits, Bool.and_eq_true, List.all_eq_true] at h
  exact h.2

/-- Digits of ASCII are decimal digits. -/
theorem isDigits_of_isDigit {digits : List Char} (hne : digits ≠ [])
    (h : ∀ c ∈ digits, c.isDigit = true) : isDigits digits = true := by
  have hall : digits.all isDecimalDigit = true :=
    List.all_eq_true.mpr fun c hc => isDecimalDigit_of_isDigit (h c hc)
  simp [isDigits, hall, hne]

theorem exists_cons_of_isDigits {text : List Char} (h : isDigits text = true) :
    ∃ c rest, text = c :: rest ∧ isDecimalDigit c = true := by
  obtain ⟨c, rest, hcons⟩ := List.exists_cons_of_ne_nil (ne_nil_of_isDigits h)
  exact ⟨c, rest, hcons, isDecimalDigit_of_isDigits h c (by simp [hcons])⟩

theorem isNameChar_of_isDigits {text : List Char} (h : isDigits text = true) :
    ∀ c ∈ text, isNameChar c = true :=
  fun c hc => isNameChar_of_isDecimalDigit (isDecimalDigit_of_isDigits h c hc)

/-- No digit, of whatever script, begins a symbol. -/
theorem isNameStart_of_isDecimalDigit {c : Char} (h : isDecimalDigit c = true) :
    isNameStart c = false := by
  have hzeros : ∀ z ∈ decimalZeros, z = 0x30 ∨ 0x660 ≤ z := by decide
  obtain ⟨z, hz, hc⟩ := List.any_eq_true.mp h
  simp only [Bool.and_eq_true, decide_eq_true_eq] at hc
  -- a digit of ASCII, or one of a script that lies behind all that may begin a symbol
  have hcode : 48 ≤ c.toNat ∧ c.toNat ≤ 57 ∨ 0x660 ≤ c.toNat := by
    rcases hzeros z hz with rfl | hlarge <;> omega
  rw [Bool.eq_false_iff]
  intro hstart
  simp only [isNameStart, Bool.or_eq_true, decide_eq_true_eq, isDot_eq_contains,
    CodePoints.contains_iff] at hstart
  rcases hstart with (halpha | rfl) | ⟨r, hr, hrange⟩
  · have hletter := isAlpha_iff.mp halpha
    omega
  · simp at hcode
  · simp at hr
    rcases hr with rfl | rfl <;> simp at hrange <;> omega

theorem isName_of_isDigits {text : List Char} (h : isDigits text = true) : isName text = false := by
  obtain ⟨c, rest, rfl, hc⟩ := exists_cons_of_isDigits h
  rw [isName_cons, isNameStart_of_isDecimalDigit hc, Bool.false_and]

/-- The digits of a hexadecimal numeral are letters and digits of ASCII. -/
theorem isAlphanum_of_isHexDigit {c : Char} (h : Numeral.isHexDigit c = true) :
    c.isAlphanum = true := by
  have hval : c.val.toNat = c.toNat := rfl
  simp only [Numeral.isHexDigit, isDigit_iff, Bool.or_eq_true, Bool.and_eq_true,
    decide_eq_true_eq, Char.le_def, UInt32.le_iff_toNat_le] at h
  rw [isAlphanum_iff]
  simp at h
  omega

end Amd64Effects.Text
