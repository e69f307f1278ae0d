import Amd64Effects.Text.Unicode

/-!
# Formats of a text

How a text is shown: in quotes, in a colour, or filled up to the width of a column.
-/

namespace Amd64Effects.Text

/-!
## Quoted text

A text is quoted so that all its characters can be seen. Quotes and backslashes are written after a
backslash and the common controls with a letter. What is unprintable, ignorable or a mark that would
extend the character before it is written by its code point in hexadecimal: `\u` and the digits in
braces.
-/

/-- Whether a character can be shown as it is. -/
def isPrintable (c : Char) : Bool :=
  !unprintable.contains c && !ignorable.contains c

/-- Whether a character extends the one before it. -/
def isExtending (c : Char) : Bool :=
  extending.contains c

/-- The code point of a character, in hexadecimal. -/
def codePointEscape (c : Char) : List Char :=
  '\\' :: 'u' :: '\x7b' :: (Nat.toDigits 16 c.toNat ++ ['\x7d'])

/-- A character as it stands between quotes. -/
def escape (c : Char) : List Char :=
  match c with
  | '\x00' => ['\\', '0']
  | '\t' => ['\\', 't']
  | '\n' => ['\\', 'n']
  | '\r' => ['\\', 'r']
  | '"' => ['\\', '"']
  | '\\' => ['\\', '\\']
  | c => if isExtending c || !isPrintable c then codePointEscape c else [c]

/-- The text between quotes. -/
def quoted (text : String) : String :=
  "\"" ++ String.ofList (text.toList.flatMap escape) ++ "\""

/-!
## Coloured text

A terminal shows the text between two control sequences in a colour.
-/

inductive Colour where
  | red | green | yellow | blue
  deriving DecidableEq, Repr

/-- The number of a bright colour. -/
def Colour.code : Colour → String
  | .red => "91"
  | .green => "92"
  | .yellow => "93"
  | .blue => "94"

/-- The text in a colour. -/
def colour (c : Colour) (text : String) : String :=
  "\x1b[" ++ c.code ++ "m" ++ text ++ "\x1b[0m"

/-!
## Padding

A column of a listing is filled up with spaces on its right. A text that is already as wide as the
column, or wider, stays whole.
-/

/-- The text, filled up with spaces to `width` characters. -/
def padRight (width : Nat) (text : String) : String :=
  text ++ String.ofList (List.replicate (width - text.length) ' ')

theorem toList_padRight (width : Nat) (text : String) :
    (padRight width text).toList = text.toList ++ List.replicate (width - text.length) ' ' := by
  simp [padRight]

theorem length_padRight (width : Nat) (text : String) :
    (padRight width text).length = max width text.length := by
  rw [← String.length_toList, toList_padRight, List.length_append, List.length_replicate,
    String.length_toList]
  omega

end Amd64Effects.Text
