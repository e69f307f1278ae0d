import Amd64Effects.Text.Unicode

/-!
# Characters of words

What a symbol, a mnemonic and a numeral may be made of: the digits of all scripts, the letters, of
which only those of ASCII have two cases, and the characters of a word.
-/

namespace Amd64Effects.Text

/-!
## Decimal digits

A script with decimal digits of its own has ten of them in a row, from zero to nine: the general
category Decimal_Number of Unicode 16. A numeral may be made of the digits of any script, but only
those of ASCII are given a value.
-/

/-- The code point of each script's zero. -/
def decimalZeros : List Nat :=
  [0x30, 0x660, 0x6F0, 0x7C0, 0x966, 0x9E6, 0xA66, 0xAE6, 0xB66, 0xBE6, 0xC66, 0xCE6, 0xD66, 0xDE6,
    0xE50, 0xED0, 0xF20, 0x1040, 0x1090, 0x17E0, 0x1810, 0x1946, 0x19D0, 0x1A80, 0x1A90, 0x1B50,
    0x1BB0, 0x1C40, 0x1C50, 0xA620, 0xA8D0, 0xA900, 0xA9D0, 0xA9F0, 0xAA50, 0xABF0, 0xFF10, 0x104A0,
    0x10D30, 0x10D40, 0x11066, 0x110F0, 0x11136, 0x111D0, 0x112F0, 0x11450, 0x114D0, 0x11650,
    0x116C0, 0x116D0, 0x116DA, 0x11730, 0x118E0, 0x11950, 0x11BF0, 0x11C50, 0x11D50, 0x11DA0,
    0x11F50, 0x16130, 0x16A60, 0x16AC0, 0x16B50, 0x16D70, 0x1CCF0, 0x1D7CE, 0x1D7D8, 0x1D7E2,
    0x1D7EC, 0x1D7F6, 0x1E140, 0x1E2F0, 0x1E4F0, 0x1E5F1, 0x1E950, 0x1FBF0]

/-- Whether a character is a decimal digit of some script. -/
def isDecimalDigit (c : Char) : Bool :=
  decimalZeros.any fun z => z ≤ c.toNat && c.toNat < z + 10

theorem isDecimalDigit_of_isDigit {c : Char} (h : c.isDigit = true) : isDecimalDigit c = true := by
  simp only [Char.isDigit, Bool.and_eq_true, decide_eq_true_eq] at h
  have hlow : 48 ≤ c.toNat := h.1
  have hhigh : c.toNat ≤ 57 := h.2
  refine List.any_eq_true.mpr ⟨0x30, by decide, ?_⟩
  simp only [Bool.and_eq_true, decide_eq_true_eq]
  omega

/-!
## Letter case

Names are compared without regard to case, and only the twenty-six letters of ASCII have one:
`é` and the long `ſ` stay as they are, so no other letter can spell a register or an opcode.
-/

/-- The text with each lower-case ASCII letter made a capital. -/
def upper (text : List Char) : List Char :=
  text.map Char.toUpper

@[simp] theorem upper_nil : upper [] = [] := rfl

@[simp] theorem upper_cons (c : Char) (rest : List Char) :
    upper (c :: rest) = c.toUpper :: upper rest := rfl

@[simp] theorem length_upper (text : List Char) : (upper text).length = text.length := by
  simp [upper]

/-!
## Word characters

The characters of a word are the alphabetic ones, marks, decimal digits, the connectors (of which
the underscore is one), and the two joiners of zero width. The symbols of an assembler may also hold
full stops and middle dots, and begin with an ASCII letter, an underscore, or one of the two dots.
-/

/-- The punctuation that connects words: the general category Connector_Punctuation. -/
def connectors : CodePoints :=
  [(0x5F, 0x5F), (0x203F, 0x2040), (0x2054, 0x2054), (0xFE33, 0xFE34), (0xFE4D, 0xFE4F),
   (0xFF3F, 0xFF3F)]

/-- The joiner of zero width and its opposite. -/
def joiners : CodePoints := [(0x200C, 0x200D)]

def isWordChar (c : Char) : Bool :=
  alphabetic.contains c || marks.contains c || isDecimalDigit c || connectors.contains c ||
    joiners.contains c

def isDot (c : Char) : Bool :=
  c = '.' || c = '·'

/-- Whether a character may stand in a symbol after its first. -/
def isNameChar (c : Char) : Bool :=
  isWordChar c || isDot c

/-- Whether a symbol may begin with a character. -/
def isNameStart (c : Char) : Bool :=
  c.isAlpha || c = '_' || isDot c

/-- Whether a text is a symbol. -/
def isName : List Char → Bool
  | [] => false
  | c :: rest => isNameStart c && rest.all isNameChar

/-- Whether a text is made of decimal digits, of which there is at least one. -/
def isDigits (text : List Char) : Bool :=
  !text.isEmpty && text.all isDecimalDigit

theorem isName_cons (c : Char) (rest : List Char) :
    isName (c :: rest) = (isNameStart c && rest.all isNameChar) := rfl

/-- A digit may stand in a symbol. -/
theorem isNameChar_of_isDecimalDigit {c : Char} (h : isDecimalDigit c = true) :
    isNameChar c = true := by
  simp [isNameChar, isWordChar, h]

end Amd64Effects.Text
