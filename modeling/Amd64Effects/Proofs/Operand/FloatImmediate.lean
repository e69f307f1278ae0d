import Amd64Effects.Operand.Text
import Amd64Effects.Proofs.Binary64.Text
import Amd64Effects.Proofs.Operand.Readable

/-!
# Floating-point immediates

A finite immediate is read back from its text with all its bits (`read_render_of_isFinite`). A
literal that is too great is not refused but stands for infinity, and the text of infinity is no
literal: such an operand cannot be read back. `read_text_of_read_floatImmediate` says for each
literal which of the two it is.
-/

namespace Amd64Effects.Operand

open Text

/-! ## Literals that are read -/

/-- Only a literal in brackets is read as a floating-point immediate. -/
theorem floatImmediate?_of_read {branch : Bool} {text : List Char} {o : Operand} {v : Binary64}
    (h : read branch text = .ok o) (hmode : o.mode = .floatImmediate v) :
    floatImmediate? (trim text) = some v ∧ o = { mode := .floatImmediate v } := by
  rcases read_cases h with ⟨-, rfl⟩ | ⟨r, -, rfl⟩ | ⟨_, i, -, -, rfl⟩ | ⟨x, hx, rfl⟩ |
    ⟨m, hm, hform⟩ | ⟨-, -, htarget⟩
  · simp [absent] at hmode
  · simp at hmode
  · simp at hmode
  · obtain rfl : x = v := by simpa using hmode
    exact ⟨hx, rfl⟩
  · obtain ⟨mode, symbol, offset, index, htakes, -, rfl⟩ :=
      exists_of_ofMemoryForm (MemoryForm.isWritten_of_ofText? hm).1 hform
    cases htakes <;> simp at hmode
  · simp [mode_of_targetOf? htarget] at hmode

theorem eq_of_bracketed? {text literal : List Char} (h : bracketed? text = some literal) :
    text = '$' :: '(' :: (literal ++ [')']) := by
  unfold bracketed? at h
  split at h
  · next rest =>
    split at h
    · next hlast =>
      obtain ⟨front, rfl⟩ := List.getLast?_eq_some_iff.mp hlast
      rw [← Option.some.inj h, List.dropLast_concat]
    · simp at h
  · simp at h

/-! ## Writing and reading back -/

@[simp] theorem render_floatImmediate (v : Binary64) :
    ({ mode := .floatImmediate v } : Operand).render = '$' :: '(' :: (v.render ++ [')']) := by
  simp [render, indexText]

theorem bracketed?_append (literal : List Char) :
    bracketed? ('$' :: '(' :: (literal ++ [')'])) = some literal := by
  simp [bracketed?]

/-- A bracket begins no numeral. -/
theorem immediateNumeral?_bracket (rest : List Char) :
    immediateNumeral? ('$' :: '(' :: rest) = none := by
  have hunsigned : ¬Numeral.isUnsigned ('(' :: rest) = true := by
    intro h
    obtain ⟨c, _, hcons, hc⟩ := Numeral.exists_cons_of_isUnsigned h
    rw [← (List.cons.inj hcons).1] at hc
    exact absurd hc (by decide)
  simp [immediateNumeral?, hunsigned]

/-- A literal in brackets is read for its value. -/
theorem read_bracketed {literal : List Char} {v : Binary64} (branch : Bool)
    (h : FloatLiteral.value? literal = some v) :
    read branch ('$' :: '(' :: (literal ++ [')'])) = .ok { mode := .floatImmediate v } := by
  have htrim : trim ('$' :: '(' :: (literal ++ [')'])) = '$' :: '(' :: (literal ++ [')']) :=
    trim_eq_self (c := '$') (d := ')') (by decide) (by decide) rfl ⟨'$' :: '(' :: literal, rfl⟩
  unfold read readTrimmed
  rw [htrim, if_neg (by simp),
    Register.ofName?_eq_none_of_isSeparator List.mem_cons_self (by decide),
    immediateNumeral?_bracket, floatImmediate?, bracketed?_append, Option.bind_some, h]

theorem read_render_of_isFinite (branch : Bool) {v : Binary64} (h : v.isFinite = true) :
    read branch ({ mode := .floatImmediate v } : Operand).render =
      .ok { mode := .floatImmediate v } := by
  rw [render_floatImmediate]
  exact read_bracketed branch (Binary64.value?_render h)

/-- The text of infinity is no operand, with either sign. -/
theorem read_text_infinity (branch negative : Bool) :
    read branch (text { mode := .floatImmediate (.ofParts negative Binary64.infinity) }).toList =
      .error (.unrecognized
        (text { mode := .floatImmediate (.ofParts negative Binary64.infinity) })) := by
  cases branch <;> cases negative <;> decide +kernel

/-! ## The round trip -/

/--
A floating-point immediate is read of a literal in brackets. While the literal is below the bound of
overflow, its number is finite and is read back from the operand's text with the same bits; from the
bound on it is infinity, and the operand's text is refused.
-/
theorem read_text_of_read_floatImmediate {branch : Bool} {text : String} {o : Operand}
    {v : Binary64} (h : read branch text.toList = .ok o) (hmode : o.mode = .floatImmediate v) :
    ∃ negative literal d,
      trim text.toList =
        '$' :: '(' :: ((if negative then '-' :: literal else literal) ++ [')']) ∧
      FloatLiteral.decimal? literal = some d ∧ v = .ofDecimal negative d ∧
      (d.numerator < Binary64.overflowBound * d.denominator ∧ v.isFinite = true ∧
          read branch o.text.toList = .ok o ∨
        Binary64.overflowBound * d.denominator ≤ d.numerator ∧
          v = .ofParts negative Binary64.infinity ∧
          read branch o.text.toList = .error (.unrecognized o.text)) := by
  obtain ⟨hfloat, rfl⟩ := floatImmediate?_of_read h hmode
  obtain ⟨written, hwritten, hvalue⟩ := Option.bind_eq_some_iff.mp hfloat
  obtain ⟨negative, literal, d, rfl, hd, rfl⟩ := FloatLiteral.exists_literal_of_value? hvalue
  refine ⟨negative, literal, d, eq_of_bracketed? hwritten, hd, rfl, ?_⟩
  by_cases hbound : d.numerator < Binary64.overflowBound * d.denominator
  · have hfinite := (Binary64.isFinite_ofDecimal negative d).mpr hbound
    refine Or.inl ⟨hbound, hfinite, ?_⟩
    rw [Operand.text, String.toList_ofList]
    exact read_render_of_isFinite branch hfinite
  · have hoverflow := Nat.le_of_not_lt hbound
    refine Or.inr ⟨hoverflow, ?_⟩
    rw [Binary64.ofDecimal_of_overflow negative hoverflow]
    exact ⟨rfl, read_text_infinity branch negative⟩

/-- The greatest finite number, written with more digits than it needs. -/
theorem read_text_of_read_floatImmediate_greatest :
    read false " $(-179769313486231570.0E291)".toList =
        .ok { mode := .floatImmediate ⟨0xFFEFFFFFFFFFFFFF⟩ } ∧
      read false (text { mode := .floatImmediate ⟨0xFFEFFFFFFFFFFFFF⟩ }).toList =
        .ok { mode := .floatImmediate ⟨0xFFEFFFFFFFFFFFFF⟩ } := by
  have hread : read false " $(-179769313486231570.0E291)".toList =
      .ok { mode := .floatImmediate ⟨0xFFEFFFFFFFFFFFFF⟩ } := by decide +kernel
  obtain ⟨negative, _, _, -, -, -, hcases⟩ := read_text_of_read_floatImmediate hread rfl
  rcases hcases with ⟨-, -, hback⟩ | ⟨-, hinfinity, -⟩
  · exact ⟨hread, hback⟩
  · exact absurd hinfinity (by cases negative <;> decide)

/-- The literal is above all finite numbers. It is read for infinity, whose text is refused. -/
theorem not_forall_read_text_of_read_floatImmediate :
    ¬∀ (branch : Bool) (text : String) (o : Operand) (v : Binary64),
      read branch text.toList = .ok o → o.mode = .floatImmediate v →
      v.isFinite = true ∧
        ∃ o', read branch o.text.toList = .ok o' ∧ o'.mode = .floatImmediate v := by
  intro h
  have hread : read false "$(1e400)".toList =
      .ok { mode := .floatImmediate (.ofParts false Binary64.infinity) } := by decide +kernel
  have hrefused := read_text_infinity false false
  obtain ⟨-, o', hback, -⟩ := h false "$(1e400)" _ _ hread rfl
  rw [hrefused] at hback
  simp at hback

end Amd64Effects.Operand
