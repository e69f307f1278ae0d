import Amd64Effects.Proofs.Instruction.RoundTrip

/-!
# The shape of what is read

An operand has a part for everything that one of the shapes needs, so most combinations of parts
mean nothing. None of those is ever read: `Operand.HasShape` says how the parts of an operand go
together, and `shape_of_read` that those of every operand that is read do, and that a branch target
stands only in the right slot of a branch.
-/

namespace Amd64Effects

open Text

namespace Operand

/-! ## The parts of an operand -/

/-- How the parts of an operand go together; only before a branch may there be a target. -/
structure HasShape (branch : Bool) (o : Operand) : Prop where
  index : ∀ i, o.index = some i →
    o.isMemory = true ∧ i.register.isSse = false ∧ i.scale ∈ [1, 2, 4, 8]
  base : ∀ r, o.mode = .indirect r → r.isSse = false
  symbol_isSome : o.mode = .fileLocal ∨ o.mode = .frameSlot → o.symbol.isSome = true
  symbol_mode : o.symbol.isSome = true → o.mode = .fileLocal ∨ o.mode = .frameSlot ∨
    o.mode = .global ∨ o.mode = .argument ∨ o.mode = .target
  symbol : ∀ name, o.symbol = some name → name ≠ "" ∧ ∀ c ∈ name.toList, isNameChar c = true
  offset : o.isMemory = false → o.mode ≠ .target → o.offset = 0
  target : o.mode = .target → branch = true ∧ o.index = none ∧
    (o.symbol.isSome = true ∧ o.offset = 0 ∨ o.symbol = none ∧ 0 ≤ o.offset.toInt)

variable {branch : Bool}

/-- A mode that is neither memory nor a target needs no other part. -/
theorem hasShape_of_mode {mode : Mode} (hmemory : ({ mode } : Operand).isMemory = false)
    (htarget : mode ≠ .target) : HasShape branch { mode } where
  index := nofun
  base := by
    rintro r rfl
    exact absurd hmemory.symm Bool.false_ne_true
  symbol_isSome := by
    rintro (rfl | rfl)
    · exact absurd hmemory.symm Bool.false_ne_true
    · exact absurd hmemory.symm Bool.false_ne_true
  symbol_mode := nofun
  symbol := nofun
  offset := fun _ _ => rfl
  target := fun h => absurd h htarget

theorem hasShape_of_takesSymbol {mode : Mode} {symbol : Option String} {index : Option Index}
    (offset : Int64) (hmode : mode.TakesSymbol symbol) (hindex : ∀ i ∈ index, i.IsReadable) :
    HasShape branch { mode, index, offset, symbol } := by
  have hmemory : ({ mode, index, offset, symbol } : Operand).isMemory = true := by
    cases hmode <;> rfl
  have hname : ∀ name, symbol = some name → isName name.toList = true := by
    rintro name rfl
    cases hmode with
    | global h | argument h => exact h name rfl
    | fileLocal h | frameSlot h => exact h
  refine
    { index := fun i hi => ⟨hmemory, hindex i hi⟩
      base := ?_
      symbol_isSome := ?_
      symbol_mode := ?_
      symbol := ?_
      offset := fun h => absurd h (by simp [hmemory])
      target := ?_ }
  · rintro r rfl
    cases hmode with
    | indirect h => exact h
  · rintro (rfl | rfl)
    · cases hmode with
      | fileLocal h => rfl
    · cases hmode with
      | frameSlot h => rfl
  · intro hsome
    cases hmode with
    | indirect h => exact absurd hsome Bool.false_ne_true
    | fileLocal h => exact Or.inl rfl
    | frameSlot h => exact Or.inr (Or.inl rfl)
    | global h => exact Or.inr (Or.inr (Or.inl rfl))
    | argument h => exact Or.inr (Or.inr (Or.inr (Or.inl rfl)))
  · intro name hsymbol
    have hne := ne_nil_of_isName (hname name hsymbol)
    exact ⟨mt String.toList_eq_nil_iff.mpr hne, isNameChar_of_isName (hname name hsymbol)⟩
  · rintro rfl
    cases hmode

theorem IsReadable.hasShape {o : Operand} (h : IsReadable branch o) : o.HasShape branch := by
  cases h with
  | absent => exact hasShape_of_mode rfl (by simp)
  | register r => exact hasShape_of_mode rfl (by simp)
  | immediate v => exact hasShape_of_mode rfl (by simp)
  | floatImmediate v => exact hasShape_of_mode rfl (by simp)
  | memory offset hmode hindex => exact hasShape_of_takesSymbol offset hmode hindex
  | position hbranch hv =>
    exact
      { index := nofun
        base := nofun
        symbol_isSome := nofun
        symbol_mode := nofun
        symbol := nofun
        offset := fun _ htarget => absurd rfl htarget
        target := fun _ => ⟨hbranch, rfl, Or.inr ⟨rfl, hv⟩⟩ }
  | @label name hbranch hregister hlabel =>
    refine
      { index := nofun
        base := nofun
        symbol_isSome := fun _ => rfl
        symbol_mode := fun _ => Or.inr (Or.inr (Or.inr (Or.inr rfl)))
        symbol := ?_
        offset := fun _ htarget => absurd rfl htarget
        target := fun _ => ⟨hbranch, rfl, Or.inl ⟨rfl, rfl⟩⟩ }
    intro written hwritten
    rw [← Option.some.inj hwritten]
    exact ⟨mt String.toList_eq_nil_iff.mpr hlabel.ne_nil, hlabel.isNameChar⟩

/-- The slot is unused only if there is nothing but blanks to read. -/
theorem mode_eq_none_iff {text : List Char} {o : Operand} (h : read branch text = .ok o) :
    o.mode = .none ↔ ∀ c ∈ text, isBlank c = true := by
  rw [← allBlank_iff, ← trim_eq_nil_iff]
  constructor
  · intro hnone
    rcases read_cases h with ⟨hnil, -⟩ | ⟨r, -, rfl⟩ | ⟨_, v, -, -, rfl⟩ | ⟨v, -, rfl⟩ |
      ⟨m, hm, hform⟩ | ⟨-, -, htarget⟩
    · exact hnil
    · simp at hnone
    · simp at hnone
    · simp at hnone
    · obtain ⟨mode, symbol, offset, index, hmode, -, rfl⟩ :=
        exists_of_ofMemoryForm (MemoryForm.isWritten_of_ofText? hm).1 hform
      obtain rfl : mode = .none := hnone
      cases hmode
    · rw [mode_of_targetOf? htarget] at hnone
      simp at hnone
  · intro hnil
    rw [read, hnil] at h
    rw [← Except.ok.inj h]
    rfl

end Operand

/-! ## The slots of an instruction -/

namespace Instruction

/--
The parts of an operand that is read go together, and the slot is unused if there were only blanks.
Of an instruction that is read only the right operand can be a target, and only before a branch.
-/
theorem shape_of_read :
    (∀ branch text o, Operand.read branch text = .ok o →
      (o.mode = .none ↔ ∀ c ∈ text, isBlank c = true) ∧ o.HasShape branch) ∧
    ∀ line i, read line = .ok (some i) →
      i.left.mode ≠ .target ∧ (i.right.mode = .target → i.opcode.isBranch = true) := by
  constructor
  · intro branch text o h
    exact ⟨Operand.mode_eq_none_iff h, (Operand.isReadable_of_read h).hasShape⟩
  · intro line i h
    have hreadable := isReadable_of_read h
    refine ⟨?_, ?_⟩
    · intro htarget
      exact Bool.false_ne_true (hreadable.left.hasShape.target htarget).1
    · intro htarget
      exact (hreadable.right.hasShape.target htarget).1

theorem shape_of_read_jump :
    Operand.read true " loop".toList = .ok { mode := .target, symbol := some "loop" } ∧
      ({ mode := .target, symbol := some "loop" } : Operand).HasShape true ∧
      read "\tJMP\tloop".toList =
        .ok (some { opcode := .jmp, right := { mode := .target, symbol := some "loop" } }) ∧
      Opcode.jmp.isBranch = true := by
  have hoperand : Operand.read true " loop".toList =
      .ok { mode := .target, symbol := some "loop" } := by decide +kernel
  have hline : read "\tJMP\tloop".toList =
      .ok (some { opcode := .jmp, right := { mode := .target, symbol := some "loop" } }) := by
    decide +kernel
  exact ⟨hoperand, (shape_of_read.1 _ _ _ hoperand).2, hline, (shape_of_read.2 _ _ hline).2 rfl⟩

end Instruction

end Amd64Effects
