import Amd64Effects.Text.Unicode

/-!
# Pieces of a text

How a text is taken apart: the blanks around it, the fields between separators, and the lines.
-/

namespace Amd64Effects.Text

/-!
## Blanks

A blank is a character with the property White_Space. There are twenty-five of them; the zero-width
space and the byte order mark are not among them. Blanks around an operand or an instruction carry
no meaning, and `trim` takes them away.
-/

def blanks : CodePoints :=
  [(0x9, 0xD), (0x20, 0x20), (0x85, 0x85), (0xA0, 0xA0), (0x1680, 0x1680), (0x2000, 0x200A),
   (0x2028, 0x2029), (0x202F, 0x202F), (0x205F, 0x205F), (0x3000, 0x3000)]

def isBlank (c : Char) : Bool :=
  blanks.contains c

/-- Whether a text is empty but for blanks. -/
def allBlank (text : List Char) : Bool :=
  text.all isBlank

/-- The text from its first character that is no blank. -/
def skipBlanks (text : List Char) : List Char :=
  text.dropWhile isBlank

/-- The text up to its last character that is no blank. -/
def dropTrailingBlanks (text : List Char) : List Char :=
  (text.reverse.dropWhile isBlank).reverse

/-- The text without the blanks around it. -/
def trim (text : List Char) : List Char :=
  dropTrailingBlanks (skipBlanks text)

@[simp] theorem skipBlanks_nil : skipBlanks [] = [] := rfl

theorem skipBlanks_cons (c : Char) (rest : List Char) :
    skipBlanks (c :: rest) = if isBlank c then skipBlanks rest else c :: rest := by
  cases h : isBlank c <;> simp [skipBlanks, h]

theorem skipBlanks_eq_nil_iff {text : List Char} :
    skipBlanks text = [] ↔ allBlank text = true := by
  induction text with
  | nil => simp [allBlank]
  | cons c rest ih =>
    rw [skipBlanks_cons]
    cases h : isBlank c
    · simp [allBlank, h]
    · simpa [allBlank, h] using ih

@[simp] theorem dropTrailingBlanks_nil : dropTrailingBlanks [] = [] := rfl

/-- A text that ends in something else than a blank has no trailing blanks. -/
theorem dropTrailingBlanks_append_singleton {text : List Char} {c : Char} (h : isBlank c = false) :
    dropTrailingBlanks (text ++ [c]) = text ++ [c] := by
  simp [dropTrailingBlanks, h]

/-- A text without blanks at its ends is left as it is. -/
theorem trim_eq_self {c d : Char} {rest text : List Char} (hc : isBlank c = false)
    (hd : isBlank d = false) (hfirst : text = c :: rest) (hlast : ∃ front, text = front ++ [d]) :
    trim text = text := by
  obtain ⟨front, hfront⟩ := hlast
  have hskip : skipBlanks text = text := by
    rw [hfirst, skipBlanks_cons, hc]
    rfl
  rw [trim, hskip, hfront]
  exact dropTrailingBlanks_append_singleton hd

/-!
## Fields and lines

A text is divided at a separator into fields, of which there is always at least one, or into lines.
A line ends with a line feed, before which a carriage return is dropped; text behind the last line
feed is a line as well, but not if it is empty.
-/

/-- Puts a character in front of the first of several pieces, which is empty if there is none. -/
def consFirst (c : Char) : List (List Char) → List (List Char)
  | [] => [[c]]
  | piece :: pieces => (c :: piece) :: pieces

/-- The pieces of a text between the separators. -/
def fields (separator : Char) : List Char → List (List Char)
  | [] => [[]]
  | c :: rest =>
    if c = separator then [] :: fields separator rest else consFirst c (fields separator rest)

/-- The lines of a text, without their ends. -/
def lines : List Char → List (List Char)
  | [] => []
  | '\r' :: '\n' :: rest => [] :: lines rest
  | '\n' :: rest => [] :: lines rest
  | c :: rest => consFirst c (lines rest)

/-- A text without a separator is one field. -/
theorem fields_of_not_mem {separator : Char} {text : List Char} (h : separator ∉ text) :
    fields separator text = [text] := by
  induction text with
  | nil => rfl
  | cons c rest ih =>
    simp only [List.mem_cons, not_or] at h
    rw [fields, if_neg (Ne.symm h.1), ih h.2]
    rfl

/-- A separator ends the field before it. -/
theorem fields_append {separator : Char} {text : List Char} (h : separator ∉ text)
    (rest : List Char) :
    fields separator (text ++ separator :: rest) = text :: fields separator rest := by
  induction text with
  | nil => simp [fields]
  | cons c front ih =>
    simp only [List.mem_cons, not_or] at h
    rw [List.cons_append, fields, if_neg (Ne.symm h.1), ih h.2]
    rfl

theorem lines_ne_nil {text : List Char} (h : text ≠ []) : lines text ≠ [] := by
  fun_cases lines text with
  | case1 => exact absurd rfl h
  | case2 => simp
  | case3 => simp
  | case4 c rest =>
    unfold consFirst
    split <;> simp

/-- A line feed ends a line whatever follows it. -/
theorem lines_append_newline (front rest : List Char) :
    lines (front ++ '\n' :: rest) = lines (front ++ ['\n']) ++ lines rest := by
  fun_induction lines front with
  | case1 => simp [lines]
  | case2 tail ih => simp [lines, ih]
  | case3 tail ih => simp [lines, ih]
  | case4 c tail h1 h2 ih =>
    by_cases hc : c = '\r' ∧ tail = []
    · obtain ⟨rfl, rfl⟩ := hc
      simp [lines]
    · have h : ∀ l : List Char,
          lines (c :: (tail ++ '\n' :: l)) = consFirst c (lines (tail ++ '\n' :: l)) := by
        intro l
        rw [lines]
        · intro r hr hl
          cases tail with
          | nil => exact hc ⟨hr, rfl⟩
          | cons t ts =>
            simp only [List.cons_append, List.cons.injEq] at hl
            exact h1 ts hr (by rw [hl.1])
        · exact h2
      rw [List.cons_append, List.cons_append, h, h, ih]
      have hne : lines (tail ++ ['\n']) ≠ [] := lines_ne_nil (by simp)
      cases hl : lines (tail ++ ['\n']) with
      | nil => exact absurd hl hne
      | cons p ps => rfl

end Amd64Effects.Text
