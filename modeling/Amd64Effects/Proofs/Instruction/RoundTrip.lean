import Amd64Effects.Proofs.Instruction.Layout
import Amd64Effects.Proofs.Operand.RoundTrip

/-!
# Instructions are read back from their texts

An instruction with a right operand, or with none at all, is read again of its own text
(`read_text_eq_self`). One that has a left operand only is not always: its text has no comma, so the
opcode decides which slot the operand comes back in (`read_text_of_left`).

The text of an instruction is one of its layouts, so what is read of it is known once it is known
what the operands give. They are of the shapes that can be read, since they were read themselves
(`isReadable_of_read`).
-/

namespace Amd64Effects

open Text

/-! ## Operands -/

namespace Operand

/-- No operand but a target has another meaning before a branch. -/
theorem IsReadable.of_false {branch : Bool} {o : Operand} (h : IsReadable false o) :
    IsReadable branch o := by
  cases h with
  | absent => exact .absent
  | register r => exact .register r
  | immediate v => exact .immediate v
  | floatImmediate v => exact .floatImmediate v
  | memory offset hmode hindex => exact .memory offset hmode hindex
  | position hbranch hv => exact absurd hbranch Bool.false_ne_true
  | label hbranch hregister hname => exact absurd hbranch Bool.false_ne_true

theorem IsReadable.eq_absent {branch : Bool} {o : Operand} (h : IsReadable branch o)
    (habsent : o.isAbsent = true) : o = .absent := by
  cases h with
  | absent => rfl
  | memory offset hmode hindex => cases hmode <;> exact absurd habsent Bool.false_ne_true
  | register | immediate | floatImmediate | position | label =>
    exact absurd habsent Bool.false_ne_true

theorem IsOperandChar.isArgumentChar {c : Char} (h : IsOperandChar c) :
    Instruction.IsArgumentChar c := by
  rcases h with rfl | hname | hmark
  · decide
  · refine Instruction.isArgumentChar_of_not_isSeparator (isSeparator_of_isNameChar hname) ?_
    rintro rfl
    exact absurd hname (by decide +kernel)
  · have hmarks : (MemoryForm.marks.all fun m => Instruction.IsArgumentChar m) = true := by decide
    exact of_decide_eq_true (List.all_eq_true.mp hmarks c hmark)

/-- The text of an operand as an argument. -/
def IsReadable.argument {branch : Bool} {o : Operand} (h : IsReadable branch o)
    (hfloat : ∀ v, o.mode ≠ .floatImmediate v) : Instruction.Argument where
  before := []
  text := o.render
  after := []
  spacing_before := Instruction.isSpacing_nil
  isArgumentChar_text := fun c hc => (h.isOperandChar hfloat c hc).isArgumentChar
  spacing_after := Instruction.isSpacing_nil

theorem IsReadable.render_argument {branch : Bool} {o : Operand} (h : IsReadable branch o)
    (hfloat : ∀ v, o.mode ≠ .floatImmediate v) : (h.argument hfloat).render = o.render := by
  simp [Instruction.Argument.render, argument]

/-- An operand that is there has a text. -/
theorem IsReadable.allBlank_render {branch : Bool} {o : Operand} (h : IsReadable branch o)
    (hfloat : ∀ v, o.mode ≠ .floatImmediate v) (hpresent : o.isAbsent = false) :
    allBlank o.render = false := by
  rw [Bool.eq_false_iff]
  intro hblank
  have hread := h.read_render hfloat
  rw [read, trim_eq_nil_iff.mpr hblank] at hread
  have habsent : Operand.absent = o := Except.ok.inj hread
  rw [← habsent] at hpresent
  exact absurd hpresent (by decide)

end Operand

namespace Instruction

/-! ## What can be read -/

/-- An instruction whose operands can be read in their slots. -/
structure IsReadable (i : Instruction) : Prop where
  left : i.left.IsReadable false
  right : i.right.IsReadable i.opcode.isBranch
  line : i.line = none

theorem exists_of_map_eq_ok {ε α β : Type} {x : Except ε α} {f : α → β} {b : β}
    (h : x.map f = .ok b) : ∃ a, x = .ok a ∧ f a = b := by
  cases x with
  | error e => exact absurd h (by simp [Except.map])
  | ok a => exact ⟨a, rfl, Except.ok.inj h⟩

theorem isReadable_of_ofArguments {op : Opcode} {pieces : List (List Char)} {i : Instruction}
    (h : ofArguments op pieces = .ok i) : i.IsReadable := by
  match pieces with
  | [] =>
    rw [← Except.ok.inj h]
    exact ⟨.absent, .absent, rfl⟩
  | [lone] =>
    rw [ofArguments_singleton] at h
    obtain ⟨o, hread, rfl⟩ := exists_of_map_eq_ok h
    have hreadable := Operand.isReadable_of_read hread
    by_cases hright : op.isBranch = true ∨ op.OnlyTouchesRight
    · rw [if_pos hright]
      exact ⟨.absent, hreadable, rfl⟩
    -- what goes to the left slot was not read for a branch, so it is no target
    · rw [if_neg hright]
      rw [Bool.eq_false_iff.mpr fun hbranch => hright (Or.inl hbranch)] at hreadable
      exact ⟨hreadable, .absent, rfl⟩
  | [left, right] =>
    rw [ofArguments_pair] at h
    cases hleft : Operand.read false left with
    | error e => simp [hleft] at h
    | ok l =>
      cases hright : Operand.read op.isBranch right with
      | error e => simp [hleft, hright] at h
      | ok r =>
        rw [hleft, hright] at h
        rw [← Except.ok.inj h]
        exact ⟨Operand.isReadable_of_read hleft, Operand.isReadable_of_read hright, rfl⟩
  | _ :: _ :: _ :: _ => simp [ofArguments] at h

theorem isReadable_of_ofStatement {s : Statement} {i : Instruction} (h : ofStatement s = .ok i) :
    i.IsReadable := by
  unfold ofStatement at h
  split at h
  · simp at h
  · exact isReadable_of_ofArguments h

/-- Whatever the line, the instruction that is read of it holds operands that can be read. -/
theorem isReadable_of_read {line : List Char} {i : Instruction} (h : read line = .ok (some i)) :
    i.IsReadable := by
  unfold read at h
  simp only at h
  split at h
  · simp at h
  · split at h
    · simp at h
    · simp at h
    · next s _ =>
      obtain ⟨j, hj, hi⟩ := exists_of_map_eq_ok h
      rw [← Option.some.inj hi]
      exact isReadable_of_ofStatement hj

/-! ## Texts -/

section

variable {i : Instruction}

/-- The text of an instruction is its operands, laid out behind its name. -/
theorem render_eq_lineWith (h : i.line = none) :
    i.render = (Layout.plain i.opcode).lineWith i.operandText := by
  simp [render, lineText, h, Layout.lineWith, Layout.front, Layout.plain]

theorem IsReadable.read_render_bare (h : i.IsReadable) (hleft : i.left.isAbsent = true)
    (hright : i.right.isAbsent = true) : read i.render = .ok (some i) := by
  have hi : i = { opcode := i.opcode } := by
    obtain ⟨opcode, left, right, line⟩ := i
    have hleft : left = .absent := h.left.eq_absent hleft
    have hright : right = .absent := h.right.eq_absent hright
    have hline : line = none := h.line
    rw [hleft, hright, hline]
  have hoperands : i.operandText = [] := by simp [operandText, hleft, hright]
  rw [render_eq_lineWith h.line, hoperands, Layout.read_lineWith _ Statement.isTail_nil]
  conv_rhs => rw [hi]
  rfl

/-- With a right operand there is a comma, which keeps each operand in its slot. -/
theorem IsReadable.read_render_right (h : i.IsReadable) (hright : i.right.isAbsent = false)
    (hfloatLeft : ∀ v, i.left.mode ≠ .floatImmediate v)
    (hfloatRight : ∀ v, i.right.mode ≠ .floatImmediate v) : read i.render = .ok (some i) := by
  have hoperands : i.operandText = '\t' :: (i.left.render ++ ',' :: i.right.render) := by
    unfold operandText
    -- an absent left operand has an empty text, so both ways of writing are one
    cases hleft : i.left.isAbsent with
    | true => simp [hright, h.left.eq_absent hleft]
    | false => simp [hright]
  have hline : i.render = (Layout.plain i.opcode).line
      [h.left.argument hfloatLeft, h.right.argument hfloatRight] := by
    rw [render_eq_lineWith h.line, hoperands, Layout.line]
    simp [Layout.plain, List.intercalate_cons_cons, Operand.IsReadable.render_argument]
  rw [hline, Layout.read_line_cons_cons, List.map_cons, List.map_singleton, ofArguments_pair]
  simp only [Operand.IsReadable.argument, h.left.read_render hfloatLeft,
    h.right.read_render hfloatRight]
  obtain ⟨opcode, left, right, line⟩ := i
  have hnone : line = none := h.line
  rw [hnone]
  rfl

/-- Without a comma the opcode decides the slot. -/
theorem IsReadable.read_render_left (h : i.IsReadable) (hleft : i.left.isAbsent = false)
    (hright : i.right.isAbsent = true) (hfloat : ∀ v, i.left.mode ≠ .floatImmediate v) :
    read i.render = .ok (some (if i.opcode.isBranch = true ∨ i.opcode.OnlyTouchesRight then
      { i with left := .absent, right := i.left } else i)) := by
  have hoperands : i.operandText = '\t' :: i.left.render := by
    simp [operandText, hleft, hright]
  have hline : i.render = (Layout.plain i.opcode).line [h.left.argument hfloat] := by
    rw [render_eq_lineWith h.line, hoperands, Layout.line]
    simp [Layout.plain, Operand.IsReadable.render_argument]
  have hread : Operand.read i.opcode.isBranch i.left.render = .ok i.left :=
    h.left.of_false.read_render hfloat
  rw [hline, Layout.read_line_singleton _ (h.left.allBlank_render hfloat hleft)]
  simp only [Operand.IsReadable.argument, hread]
  have hnone := h.line
  have habsent := h.right.eq_absent hright
  obtain ⟨opcode, left, right, line⟩ := i
  simp only at hnone habsent
  rw [hnone, habsent]
  rfl

end

/-! ## The round trip -/

/--
What was read of a line is read again of its own text if it has a right operand or no operand: the
same opcode with the same operands, each in its slot.
-/
theorem read_text_eq_self {line : String} {i : Instruction}
    (h : read line.toList = .ok (some i))
    (hslots : i.right.isAbsent = false ∨ i.left.isAbsent = true ∧ i.right.isAbsent = true)
    (hfloatLeft : ∀ v, i.left.mode ≠ .floatImmediate v)
    (hfloatRight : ∀ v, i.right.mode ≠ .floatImmediate v) :
    read i.text.toList = .ok (some i) := by
  have hreadable := isReadable_of_read h
  rw [text, String.toList_ofList]
  rcases hslots with hright | ⟨hleft, hright⟩
  · exact hreadable.read_render_right hright hfloatLeft hfloatRight
  · exact hreadable.read_render_bare hleft hright

theorem read_text_eq_self_jump :
    let i : Instruction := { opcode := .jne, right := { mode := .target, symbol := some "loop" } }
    read " next: jne  loop // again".toList = .ok (some i) ∧ i.text = "JNE\t,loop" ∧
      read i.text.toList = .ok (some i) := by
  intro i
  have hread : read " next: jne  loop // again".toList = .ok (some i) := by decide +kernel
  refine ⟨hread, by decide +kernel, ?_⟩
  exact read_text_eq_self hread (Or.inl rfl) (by simp [i, Operand.absent]) (by simp [i])

/--
What was read of a line with a left operand only is read again of its own text with that operand
alone: in the left slot, unless a lone operand of the opcode goes to the right one.
-/
theorem read_text_of_left {line : String} {i : Instruction}
    (h : read line.toList = .ok (some i)) (hleft : i.left.isAbsent = false)
    (hright : i.right.isAbsent = true) (hfloat : ∀ v, i.left.mode ≠ .floatImmediate v) :
    read i.text.toList =
      .ok (some (if i.opcode.isBranch = true ∨ i.opcode.OnlyTouchesRight then
        { i with left := .absent, right := i.left } else i)) := by
  rw [text, String.toList_ofList]
  exact (isReadable_of_read h).read_render_left hleft hright hfloat

theorem read_text_of_left_push :
    let i : Instruction := { opcode := .pushq, left := { mode := .indirect .bx, offset := 8 } }
    read "PUSHQ 8(BX), // kept".toList = .ok (some i) ∧ i.text = "PUSHQ\t8(BX)" ∧
      read i.text.toList = .ok (some i) := by
  intro i
  have hread : read "PUSHQ 8(BX), // kept".toList = .ok (some i) := by decide +kernel
  have hslot : ¬(i.opcode.isBranch = true ∨ i.opcode.OnlyTouchesRight) := by decide +kernel
  refine ⟨hread, by decide +kernel, ?_⟩
  rw [read_text_of_left hread rfl rfl (by simp [i]), if_neg hslot]

/-- `INCQ AX,` has a left operand only, but the text of it is read with a right one. -/
theorem not_forall_read_text_of_left :
    ¬∀ (line : String) (i : Instruction), read line.toList = .ok (some i) →
      i.left.isAbsent = false → (∀ v, i.left.mode ≠ .floatImmediate v) →
      i.right.isAbsent = true → read i.text.toList = .ok (some i) := by
  intro h
  have hread := h "INCQ AX," { opcode := .incq, left := { mode := .register .ax } }
    (by decide +kernel) rfl (by simp) rfl
  revert hread
  decide +kernel

end Instruction

end Amd64Effects
