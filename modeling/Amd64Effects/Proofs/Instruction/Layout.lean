import Amd64Effects.Instruction
import Amd64Effects.Proofs.Statement
import Amd64Effects.Table

/-!
# Laid out lines

The same instruction can be laid out in many ways: behind a label or not, with blanks around each
part, in small letters or capital ones, with a comment. `Layout` holds one such way and
`Layout.line` the line it gives, so that what is read can be compared with what was laid out
(`read_layout`).

Whatever the layout, the label, the letter case, the blanks and the comment have no part in the
result (`read_lineWith`); what is left is a list of arguments, and reading does not see the blanks
around them either (`ofArguments_map_trim`).
-/

namespace Amd64Effects

open Text

/-- The opcodes whose entry names the right slot, in whatever way, and not the left one. -/
def Opcode.OnlyTouchesRight (op : Opcode) : Prop :=
  (∃ f ∈ [Flag.rightAddress, .rightRead, .rightWrite], f ∈ (Table.amd64.get op).flags) ∧
    ∀ f ∈ [Flag.leftAddress, .leftRead, .leftWrite], f ∉ (Table.amd64.get op).flags

instance (op : Opcode) : Decidable op.OnlyTouchesRight :=
  inferInstanceAs (Decidable (_ ∧ _))

theorem Opcode.placesLoneOperandRight_iff {op : Opcode} :
    op.placesLoneOperandRight = true ↔ op.isBranch = true ∨ op.OnlyTouchesRight := by
  have hentry : Table.amd64.get op = op.entry := Table.get_ofFn Opcode.entry op
  unfold placesLoneOperandRight OnlyTouchesRight
  rw [hentry, Bool.or_eq_true, Bool.and_eq_true, Bool.not_eq_true', Bool.eq_false_iff,
    FlagSet.touchesLeft, FlagSet.touchesRight, Ne, FlagSet.containsAny_iff, FlagSet.containsAny_iff,
    not_exists, and_comm]
  simp only [not_and]

theorem Operand.read_trim (branch : Bool) (text : List Char) :
    read branch (trim text) = read branch text := by
  rw [read, trim_trim]
  rfl

namespace Instruction

open Statement

/-! ## Layouts -/

/-- Blanks that stay on the line. -/
def IsSpacing (text : List Char) : Prop :=
  ∀ c ∈ text, isBlank c = true ∧ c ≠ '\n'

instance (text : List Char) : Decidable (IsSpacing text) :=
  List.decidableBAll (fun c => isBlank c = true ∧ c ≠ '\n') text

theorem isSpacing_nil : IsSpacing [] := by
  simp [IsSpacing]

/-- A label with the blanks around it. -/
structure Label where
  indent : List Char
  name : List Char
  gap : List Char
  blank_indent : ∀ c ∈ indent, isBlank c = true
  isName_name : isName name = true
  blank_gap : ∀ c ∈ gap, isBlank c = true

/-- Whether a character separates nothing, so that it can be a part of an argument. -/
def IsArgumentChar (c : Char) : Prop :=
  c ≠ ',' ∧ IsTailChar c

instance : DecidablePred IsArgumentChar :=
  fun c => inferInstanceAs (Decidable (c ≠ ',' ∧ IsTailChar c))

/-- An argument with the blanks around it. -/
structure Argument where
  before : List Char
  text : List Char
  after : List Char
  spacing_before : IsSpacing before
  isArgumentChar_text : ∀ c ∈ text, IsArgumentChar c
  spacing_after : IsSpacing after

/-- A way to lay out an instruction of an opcode, but for the arguments. -/
structure Layout (op : Opcode) where
  label : Option Label
  indent : List Char
  mnemonic : List Char
  gap : List Char
  comment : List Char
  spacing_indent : IsSpacing indent
  upper_mnemonic : upper mnemonic = op.name.toList
  gap_ne_nil : gap ≠ []
  spacing_gap : IsSpacing gap
  isComment_comment : IsComment comment

def Label.render (l : Label) : List Char :=
  l.indent ++ (l.name ++ (l.gap ++ [':']))

def Argument.render (a : Argument) : List Char :=
  a.before ++ (a.text ++ a.after)

namespace Layout

/-- What stands before the mnemonic. -/
def front {op : Opcode} (l : Layout op) : List Char :=
  (l.label.elim [] Label.render) ++ l.indent

/-- The line with any text between the mnemonic and the comment. -/
def lineWith {op : Opcode} (l : Layout op) (tail : List Char) : List Char :=
  l.front ++ (l.mnemonic ++ (tail ++ l.comment))

/-- The line without arguments and without a blank behind the mnemonic. -/
def bareLine {op : Opcode} (l : Layout op) : List Char :=
  l.lineWith []

/-- The line with a blank, and then the arguments with commas between them. -/
def line {op : Opcode} (l : Layout op) (arguments : List Argument) : List Char :=
  l.lineWith (l.gap ++ [','].intercalate (arguments.map Argument.render))

end Layout

/-- The layout with a tab behind the opcode's name and nothing else. -/
def Layout.plain (op : Opcode) : Layout op where
  label := none
  indent := []
  mnemonic := op.name.toList
  gap := ['\t']
  comment := []
  spacing_indent := isSpacing_nil
  upper_mnemonic := op.name_spec.2
  gap_ne_nil := by decide
  spacing_gap := by decide
  isComment_comment := .absent

/-! ## The characters of a layout -/

theorem IsSpacing.isBlank {text : List Char} (h : IsSpacing text) :
    ∀ c ∈ text, Text.isBlank c = true :=
  fun c hc => (h c hc).1

theorem isArgumentChar_of_not_isSeparator {c : Char} (h : isSeparator c = false)
    (hnewline : c ≠ '\n') : IsArgumentChar c := by
  refine ⟨ne_of_isSeparator h (by decide), ?_⟩
  simp only [IsTailChar, List.mem_cons, not_or]
  exact ⟨ne_of_isSeparator h (by decide), ne_of_isSeparator h (by decide),
    ne_of_isSeparator h (by decide), hnewline, by simp⟩

/-- Blanks separate no arguments. -/
theorem IsSpacing.isArgumentChar {text : List Char} (h : IsSpacing text) :
    ∀ c ∈ text, IsArgumentChar c := fun c hc =>
  isArgumentChar_of_not_isSeparator (isSeparator_of_isBlank (h c hc).1) (h c hc).2

theorem Argument.isArgumentChar_render (a : Argument) : ∀ c ∈ a.render, IsArgumentChar c := by
  intro c hc
  rcases List.mem_append.mp hc with hbefore | hc
  · exact a.spacing_before.isArgumentChar c hbefore
  rcases List.mem_append.mp hc with htext | hafter
  · exact a.isArgumentChar_text c htext
  · exact a.spacing_after.isArgumentChar c hafter

theorem Argument.trim_render (a : Argument) : trim a.render = trim a.text := by
  rw [Argument.render, trim_blank_append a.spacing_before.isBlank,
    trim_append_blank a.spacing_after.isBlank]

theorem Label.isCodeChar_render (l : Label) : ∀ c ∈ l.render, IsCodeChar c := by
  intro c hc
  rcases List.mem_append.mp hc with hindent | hc
  · exact isCodeChar_of_isBlank (l.blank_indent c hindent)
  rcases List.mem_append.mp hc with hname | hc
  · exact isCodeChar_of_isNameChar (isNameChar_of_isName l.isName_name c hname)
  rcases List.mem_append.mp hc with hgap | hcolon
  · exact isCodeChar_of_isBlank (l.blank_gap c hgap)
  · rw [List.mem_singleton.mp hcolon]
    exact ⟨by decide, by decide⟩

namespace Layout

variable {op : Opcode} (l : Layout op)

theorem isWord_mnemonic : isWord l.mnemonic = true :=
  Opcode.isWord_of_upper l.upper_mnemonic

theorem isCodeChar_front : ∀ c ∈ l.front, IsCodeChar c := by
  intro c hc
  rcases List.mem_append.mp hc with hlabel | hindent
  · cases h : l.label with
    | none => simp [h] at hlabel
    | some label =>
      rw [h] at hlabel
      exact label.isCodeChar_render c hlabel
  · exact isCodeChar_of_isBlank (l.spacing_indent.isBlank c hindent)

/-- The comment is dropped, and nothing else. -/
theorem code_lineWith {tail : List Char} (h : IsTail tail) :
    code (l.lineWith tail) = l.front ++ (l.mnemonic ++ tail) := by
  have hline : l.lineWith tail = l.front ++ (l.mnemonic ++ tail) ++ l.comment := by
    simp [lineWith, List.append_assoc]
  rw [hline]
  refine code_append_comment ?_ l.isComment_comment
  intro c hc
  rcases List.mem_append.mp hc with hfront | hc
  · exact l.isCodeChar_front c hfront
  rcases List.mem_append.mp hc with hmnemonic | htail
  · have halnum := isAlphanum_of_isWord l.isWord_mnemonic c hmnemonic
    exact isCodeChar_of_isNameChar (isNameChar_of_isAlphanum halnum)
  · exact (h.chars c htail).isCodeChar

theorem ofCode?_front {tail : List Char} (h : IsTail tail) :
    ofCode? (l.front ++ (l.mnemonic ++ tail)) = some (some ⟨l.mnemonic, trim tail⟩) := by
  cases hlabel : l.label with
  | none =>
    have hfront : l.front = l.indent := by simp [front, hlabel]
    -- the mnemonic could be taken for a label, but no colon stands behind it
    rw [hfront, ofCode?_word l.spacing_indent.isBlank l.isWord_mnemonic h]
  | some label =>
    have hfront : l.front ++ (l.mnemonic ++ tail) = label.indent ++ (label.name ++
        (label.gap ++ ':' :: (l.indent ++ (l.mnemonic ++ tail)))) := by
      simp [front, hlabel, Label.render]
    rw [hfront]
    exact ofCode?_label label.blank_indent label.isName_name label.blank_gap
      (body?_word l.spacing_indent.isBlank l.isWord_mnemonic h)

/-- The label, the letter case and the comment of a layout have no part in what is read. -/
theorem read_lineWith {tail : List Char} (h : IsTail tail) :
    read (l.lineWith tail) = (ofArguments op
      (if allBlank (trim tail) then [] else fields ',' (trim tail))).map some := by
  have hnotBlank : ¬allBlank (l.front ++ (l.mnemonic ++ tail)) = true := by
    intro hblank
    have hmnemonic := l.isWord_mnemonic
    cases hlist : l.mnemonic with
    | nil => exact ne_nil_of_isWord hmnemonic hlist
    | cons c rest =>
      have halnum := isAlphanum_of_isWord hmnemonic c (by simp [hlist])
      have hc := allBlank_iff.mp hblank c (by simp [hlist])
      rw [isBlank_of_isNameChar (isNameChar_of_isAlphanum halnum)] at hc
      exact Bool.false_ne_true hc
  unfold read
  rw [l.code_lineWith h]
  simp only
  rw [if_neg hnotBlank, l.ofCode?_front h]
  simp only [ofStatement, Opcode.ofName?_of_upper l.upper_mnemonic]

end Layout

/-! ## Arguments -/

/-- A lone argument is read for the slot that its opcode touches. -/
theorem ofArguments_singleton (op : Opcode) (lone : List Char) :
    ofArguments op [lone] = (Operand.read op.isBranch lone).map fun o =>
      if op.isBranch = true ∨ op.OnlyTouchesRight then { opcode := op, right := o }
      else { opcode := op, left := o } := by
  rw [ofArguments]
  cases Operand.read op.isBranch lone with
  | error e => rfl
  | ok o =>
    simp only [← Opcode.placesLoneOperandRight_iff]
    by_cases hright : op.placesLoneOperandRight = true
    · rw [hright]
      rfl
    · rw [Bool.eq_false_iff.mpr hright]
      rfl

/-- Of two arguments the left one is the first to be at fault. -/
theorem ofArguments_pair (op : Opcode) (left right : List Char) :
    ofArguments op [left, right] =
      match Operand.read false left, Operand.read op.isBranch right with
      | .error e, _ => .error e
      | .ok _, .error e => .error e
      | .ok l, .ok r => .ok { opcode := op, left := l, right := r } := by
  rw [ofArguments]
  cases Operand.read false left with
  | error e => rfl
  | ok l => cases Operand.read op.isBranch right <;> rfl

/-- Blanks around the arguments have no part in what is read. -/
theorem ofArguments_map_trim (op : Opcode) (pieces : List (List Char)) :
    ofArguments op (pieces.map trim) = ofArguments op pieces := by
  match pieces with
  | [] => rfl
  | [lone] => simp only [List.map_cons, List.map_nil, ofArguments, Operand.read_trim]
  | [left, right] => simp only [List.map_cons, List.map_nil, ofArguments, Operand.read_trim]
  | _ :: _ :: _ :: _ => rfl

theorem ofArguments_congr {op : Opcode} {pieces others : List (List Char)}
    (h : pieces.map trim = others.map trim) : ofArguments op pieces = ofArguments op others := by
  rw [← ofArguments_map_trim op pieces, h, ofArguments_map_trim]

/-- Fields can be taken before or after the blanks around them are dropped. -/
theorem ofArguments_fields_trim (op : Opcode) (text : List Char) :
    ofArguments op (fields ',' (trim text)) = ofArguments op (fields ',' text) :=
  ofArguments_congr (map_trim_fields_trim (by decide) text)

namespace Layout

variable {op : Opcode} (l : Layout op)

theorem isTail_line (arguments : List Argument) :
    IsTail (l.gap ++ [','].intercalate (arguments.map Argument.render)) where
  blank := by
    intro c hc
    cases hgap : l.gap with
    | nil => exact absurd hgap l.gap_ne_nil
    | cons d rest =>
      rw [hgap, List.cons_append, List.head?_cons] at hc
      rw [← Option.some.inj hc]
      exact l.spacing_gap.isBlank d (by simp [hgap])
  chars := by
    intro c hc
    rcases List.mem_append.mp hc with hgap | hc
    · exact (l.spacing_gap.isArgumentChar c hgap).2
    · rcases mem_intercalate hc with rfl | ⟨piece, hpiece, hc⟩
      · decide
      · obtain ⟨a, -, rfl⟩ := List.mem_map.mp hpiece
        exact (a.isArgumentChar_render c hc).2

/-- What is read of a line is what its arguments give. -/
theorem read_line (arguments : List Argument) :
    read (l.line arguments) = (ofArguments op
      (if allBlank ([','].intercalate (arguments.map Argument.render)) then []
        else arguments.map Argument.text)).map some := by
  -- the reader asks whether the trimmed text is blank, and divides that one
  have hblank : ∀ text, allBlank (trim text) = allBlank text := by
    intro text
    rw [Bool.eq_iff_iff, ← trim_eq_nil_iff, ← trim_eq_nil_iff, trim_trim]
  unfold line
  rw [l.read_lineWith (l.isTail_line arguments), trim_blank_append l.spacing_gap.isBlank, hblank]
  split
  · rfl
  · next hnotBlank =>
    have hne : arguments.map Argument.render ≠ [] := by
      intro hnil
      exact hnotBlank (by simp [hnil, allBlank])
    have hcomma : ∀ piece ∈ arguments.map Argument.render, ',' ∉ piece := by
      intro piece hpiece hmem
      obtain ⟨a, -, rfl⟩ := List.mem_map.mp hpiece
      exact (a.isArgumentChar_render ',' hmem).1 rfl
    rw [ofArguments_fields_trim, fields_intercalate hne hcomma]
    congr 1
    refine ofArguments_congr ?_
    simp [Argument.trim_render]

theorem read_line_blank {a : Argument} (h : allBlank a.text = true) :
    read (l.line [a]) = .ok (some { opcode := op }) := by
  have hblank : allBlank a.render = true := by
    rwa [← trim_eq_nil_iff, a.trim_render, trim_eq_nil_iff]
  rw [l.read_line, List.map_singleton, List.intercalate_singleton, if_pos hblank]
  rfl

theorem read_line_singleton {a : Argument} (h : allBlank a.text = false) :
    read (l.line [a]) = (Operand.read op.isBranch a.text).map fun o =>
      some (if op.isBranch = true ∨ op.OnlyTouchesRight then { opcode := op, right := o }
        else { opcode := op, left := o }) := by
  have hnotBlank : ¬allBlank a.render = true := by
    rw [← trim_eq_nil_iff, a.trim_render, trim_eq_nil_iff, h]
    exact Bool.false_ne_true
  rw [l.read_line, List.map_singleton, List.intercalate_singleton, if_neg hnotBlank,
    List.map_singleton, ofArguments_singleton]
  cases Operand.read op.isBranch a.text with
  | error e => rfl
  | ok o => rfl

/-- Two arguments are not blank, even if each of them is. -/
theorem read_line_cons_cons (a b : Argument) (rest : List Argument) :
    read (l.line (a :: b :: rest)) =
      (ofArguments op ((a :: b :: rest).map Argument.text)).map some := by
  have hnotBlank :
      ¬allBlank ([','].intercalate ((a :: b :: rest).map Argument.render)) = true := by
    intro hblank
    have hcomma := allBlank_iff.mp hblank ',' (by simp [List.intercalate_cons_cons])
    exact absurd hcomma (by decide)
  rw [l.read_line, if_neg hnotBlank]

end Layout

/-! ## What is read -/

/--
However a line is laid out, what is read of it is put together from what is read of its arguments:
nothing for a mnemonic alone, one operand in the slot that the opcode touches, or two operands, of
which the left one is the first to be at fault.
-/
theorem read_layout {op : Opcode} (l : Layout op) :
    read l.bareLine = .ok (some { opcode := op }) ∧
    read (l.line []) = .ok (some { opcode := op }) ∧
    (∀ a : Argument, allBlank a.text = true →
      read (l.line [a]) = .ok (some { opcode := op })) ∧
    (∀ a : Argument, allBlank a.text = false →
      read (l.line [a]) = (Operand.read op.isBranch a.text).map fun o =>
        some (if op.isBranch = true ∨ op.OnlyTouchesRight then { opcode := op, right := o }
          else { opcode := op, left := o })) ∧
    (∀ a b : Argument, read (l.line [a, b]) =
      match Operand.read false a.text, Operand.read op.isBranch b.text with
      | .error e, _ => .error e
      | .ok _, .error e => .error e
      | .ok left, .ok right => .ok (some { opcode := op, left, right })) ∧
    ∀ (a b c : Argument) (rest : List Argument),
      read (l.line (a :: b :: c :: rest)) = .error (.tooManyOperands op) := by
  refine ⟨l.read_lineWith isTail_nil, l.read_line [], fun a h => l.read_line_blank h,
    fun a h => l.read_line_singleton h, fun a b => ?_, fun a b c rest => ?_⟩
  · rw [l.read_line_cons_cons, List.map_cons, List.map_singleton, ofArguments_pair]
    cases Operand.read false a.text with
    | error e => rfl
    | ok left => cases Operand.read op.isBranch b.text <;> rfl
  · rw [l.read_line_cons_cons]
    rfl

theorem read_layout_inc :
    let l : Layout .incq :=
      { label := some
          { indent := " ".toList
            name := "loop·1".toList
            gap := "\t".toList
            blank_indent := allBlank_iff.mp (by decide)
            isName_name := by decide +kernel
            blank_gap := allBlank_iff.mp (by decide) }
        indent := []
        mnemonic := "IncQ".toList
        gap := "  ".toList
        comment := "// count".toList
        spacing_indent := by decide
        upper_mnemonic := by decide +kernel
        gap_ne_nil := by decide
        spacing_gap := by decide
        isComment_comment := .slashes " count".toList }
    let a : Argument :=
      { before := []
        text := "ax".toList
        after := " ".toList
        spacing_before := by decide
        isArgumentChar_text := by simp [IsArgumentChar, IsTailChar]
        spacing_after := by decide }
    l.line [a] = " loop·1\t:IncQ  ax // count".toList ∧ allBlank a.text = false ∧
      read (l.line [a]) = .ok (some { opcode := .incq, right := { mode := .register .ax } }) := by
  intro l a
  have hblank : allBlank a.text = false := by decide
  refine ⟨rfl, hblank, ?_⟩
  rw [(read_layout l).2.2.2.1 a hblank]
  decide +kernel

end Instruction

end Amd64Effects
