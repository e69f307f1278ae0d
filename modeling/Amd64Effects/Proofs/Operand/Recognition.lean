import Amd64Effects.Fault
import Amd64Effects.Proofs.Operand.RoundTrip

/-!
# Which texts are memory operands

A memory operand is put together from an optional symbol, an optional mark, an optional offset in
digits of ASCII, a base and an optional index (`MemoryForm.IsLiteral`). The text of such a form is
read exactly if the form is meaningful, as the one operand that it stands for, and a text that is
read as memory is that of one such form and of no other (`read_memory`).
-/

namespace Amd64Effects

open Text

/-! ## The parts of a memory operand -/

namespace MemoryForm

/-- The parts that a memory operand with offset `v` may be put together from. -/
structure IsLiteral (m : MemoryForm) (v : Int) : Prop where
  symbol : m.symbol = [] ∨ isName m.symbol = true
  offset : m.DenotesOffset v
  /-- Directly behind a symbol an offset has a sign. -/
  sign : m.symbol ≠ [] → m.isFileLocal = false → ∀ c ∈ m.offset.head?, c = '+' ∨ c = '-'
  base_ne_nil : m.base ≠ []
  base : ∀ c ∈ m.base, c.isAlphanum = true
  index : ∀ i, m.index = some i → IsIndex i

theorem IsLiteral.isWritten {m : MemoryForm} {v : Int} (h : m.IsLiteral v) : m.IsWritten where
  symbol := h.symbol
  offset := h.offset.imp And.left Numeral.Denotes.isSigned
  sign := by
    intro hne hlocal c hc
    rcases h.sign hne hlocal c hc with rfl | rfl
    · exact isNameChar_of_isSeparator (by decide)
    · exact isNameChar_of_isSeparator (by decide)
  base_ne_nil := h.base_ne_nil
  base := h.base
  index := h.index

theorem IsWritten.isLiteral {m : MemoryForm} {v : Int} (h : m.IsWritten)
    (hv : m.DenotesOffset v) : m.IsLiteral v where
  symbol := h.symbol
  offset := hv
  sign := by
    intro hne hlocal c hc
    have hstop := h.sign hne hlocal c hc
    rcases h.offset with hnil | hsigned
    · simp [hnil] at hc
    · obtain ⟨d, rest, heq, hd⟩ := Numeral.exists_cons_of_isSigned hsigned
      obtain rfl : d = c := by simpa [heq] using hc
      -- a digit would be part of the symbol
      rcases hd with hplus | hminus | hdigit
      · exact Or.inl hplus
      · exact Or.inr hminus
      · rw [isNameChar_of_isDecimalDigit hdigit] at hstop
        exact absurd hstop.symm Bool.false_ne_true
  base_ne_nil := h.base_ne_nil
  base := h.base
  index := h.index

/-- The parts are found again from their text. -/
theorem IsWritten.eq_of_render_eq {m m' : MemoryForm} (h : m.IsWritten) (h' : m'.IsWritten)
    (heq : m.render = m'.render) : m = m' := by
  have hread := ofText?_render h
  rw [heq, ofText?_render h'] at hread
  exact (Option.some.inj hread).symm

end MemoryForm

namespace Operand

/-! ## Texts that are read as memory -/

theorem read_render_eq_ok_iff {m : MemoryForm} {v : Int} {o : Operand} (h : m.IsLiteral v)
    (branch : Bool) : read branch m.render = .ok o ↔ m.StandsFor v o := by
  rw [read_render_form h.isWritten]
  exact ofMemoryForm_eq_ok_iff h.index h.offset

/-- What is read as memory is the text of a memory form. -/
theorem exists_form_of_isMemory {branch : Bool} {text : List Char} {o : Operand}
    (h : read branch text = .ok o) (hmemory : o.isMemory = true) :
    ∃ m, MemoryForm.ofText? (trim text) = some m ∧ ofMemoryForm (trim text) m = .ok o := by
  rcases read_cases h with ⟨-, rfl⟩ | ⟨r, -, rfl⟩ | ⟨_, v, -, -, rfl⟩ | ⟨v, -, rfl⟩ |
    hform | ⟨-, -, htarget⟩
  · exact absurd hmemory Bool.false_ne_true
  · exact absurd hmemory Bool.false_ne_true
  · exact absurd hmemory Bool.false_ne_true
  · exact absurd hmemory Bool.false_ne_true
  · exact hform
  · rw [isMemory, mode_of_targetOf? htarget] at hmemory
    exact absurd hmemory Bool.false_ne_true

theorem exists_isLiteral_of_isMemory {branch : Bool} {text : List Char} {o : Operand}
    (h : read branch text = .ok o) (hmemory : o.isMemory = true) :
    ∃ m v, MemoryForm.IsLiteral m v ∧ trim text = m.render ∧ m.StandsFor v o := by
  obtain ⟨m, hm, hform⟩ := exists_form_of_isMemory h hmemory
  obtain ⟨hwritten, htext⟩ := MemoryForm.isWritten_of_ofText? hm
  obtain ⟨v, hv, hstands⟩ := standsFor_of_ofMemoryForm hwritten.index hform
  exact ⟨m, v, hwritten.isLiteral hv, htext, hstands⟩

/--
The text of a memory form is read as the operand that the form stands for, and is faulty if there is
none. Each text that is read as memory is, but for the blanks around it, the text of one form.
-/
theorem read_memory (branch : Bool) :
    (∀ (m : MemoryForm) (v : Int), m.IsLiteral v →
      ((∃ o, read branch m.render = .ok o) ↔ m.IsMeaningful v) ∧
      (∀ o, read branch m.render = .ok o ↔ m.StandsFor v o) ∧
      (¬m.IsMeaningful v →
        ∃ cause, read branch m.render = .error cause ∧ (Fault.line cause).kind = .text)) ∧
    ∀ text o, read branch text = .ok o → o.isMemory = true →
      ∃ (m : MemoryForm) (v : Int), m.IsLiteral v ∧ trim text = m.render ∧ m.StandsFor v o ∧
        ∀ (m' : MemoryForm) (v' : Int), m'.IsLiteral v' → trim text = m'.render →
          m' = m ∧ v' = v := by
  constructor
  · intro m v hliteral
    have hok : ∀ o, read branch m.render = .ok o ↔ m.StandsFor v o :=
      fun o => read_render_eq_ok_iff hliteral branch
    have hexists : (∃ o, read branch m.render = .ok o) ↔ m.IsMeaningful v := by
      rw [← MemoryForm.exists_standsFor_iff hliteral.index]
      exact exists_congr hok
    refine ⟨hexists, hok, ?_⟩
    intro hmeaningless
    cases hread : read branch m.render with
    | error cause => exact ⟨cause, rfl, rfl⟩
    | ok o => exact absurd (hexists.mp ⟨o, hread⟩) hmeaningless
  · intro text o hread hmemory
    obtain ⟨m, v, hliteral, htext, hstands⟩ := exists_isLiteral_of_isMemory hread hmemory
    refine ⟨m, v, hliteral, htext, hstands, ?_⟩
    intro m' v' hliteral' htext'
    obtain rfl : m' = m :=
      hliteral'.isWritten.eq_of_render_eq hliteral.isWritten (htext'.symm.trans htext)
    have hread' : read branch m'.render = .ok o :=
      (read_render_eq_ok_iff hliteral branch).mpr hstands
    have hstands' := (read_render_eq_ok_iff hliteral' branch).mp hread'
    exact ⟨rfl, hstands'.offset.symm.trans hstands.offset⟩

/-- The form of `tab·x<>-0x08(sb)(cx*4)`. -/
def fileLocalForm : MemoryForm where
  symbol := "tab·x".toList
  isFileLocal := true
  offset := "-0x08".toList
  base := "sb".toList
  index := some ("cx".toList, '4')

theorem isLiteral_fileLocalForm : fileLocalForm.IsLiteral (-8) where
  symbol := Or.inr (by decide +kernel)
  offset := by
    have hdigits : ∀ c ∈ ['0', '8'], Numeral.isHexDigit c = true :=
      List.all_eq_true.mp (by decide)
    exact Or.inr (.minus (.hexadecimal (Or.inl rfl) (by simp) hdigits))
  sign := fun _ hlocal => absurd hlocal (by decide)
  base_ne_nil := by decide
  base := isAlphanum_of_isWord (by decide)
  index := by
    rintro i hi
    obtain rfl := Option.some.inj hi
    exact ⟨by decide, isAlphanum_of_isWord (by decide), by decide⟩

theorem read_memory_fileLocal :
    fileLocalForm.IsLiteral (-8) ∧
      read true "tab·x<>-0x08(sb)(cx*4)".toList =
        .ok
          { mode := .fileLocal, index := some ⟨.cx, 4⟩, offset := -8, symbol := some "tab·x" } := by
  refine ⟨isLiteral_fileLocalForm, ?_⟩
  refine (((read_memory true).1 fileLocalForm (-8) isLiteral_fileLocalForm).2.1 _).mpr ?_
  exact ⟨.fileLocal (by decide), rfl, rfl, .some rfl rfl (by decide)⟩

end Operand

end Amd64Effects
