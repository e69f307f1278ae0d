import Amd64Effects.Proofs.Operand.Memory

/-!
# Operands that can be read

An analysis may put together any operand, but text gives only some: an index stands only on memory,
a register that takes part in an address is a general one, and a symbol goes only with the modes
that have a place for it. `IsReadable` lists what there is, one rule for each shape of text, and
`isReadable_of_read` says that nothing else is ever read.
-/

namespace Amd64Effects.Operand

open Text

/-! ## The shapes -/

/-- An index that can be written: a general register, times one, two, four or eight. -/
def Index.IsReadable (i : Index) : Prop :=
  i.register.isSse = false ∧ i.scale ∈ [1, 2, 4, 8]

/-- The symbol that goes with each mode of memory. -/
inductive Mode.TakesSymbol : Mode → Option String → Prop
  | indirect {base : Register} (h : base.isSse = false) : TakesSymbol (.indirect base) Option.none
  | global {symbol : Option String} (h : ∀ name ∈ symbol, isName name.toList = true) :
      TakesSymbol .global symbol
  | argument {symbol : Option String} (h : ∀ name ∈ symbol, isName name.toList = true) :
      TakesSymbol .argument symbol
  | fileLocal {name : String} (h : isName name.toList = true) : TakesSymbol .fileLocal (some name)
  | frameSlot {name : String} (h : isName name.toList = true) : TakesSymbol .frameSlot (some name)

/-- A text that stands for a label: a symbol, or digits that have no value. -/
def IsLabel (text : List Char) : Prop :=
  isName text = true ∨ isDigits text = true ∧ Numeral.value? text = none

/-- What can be read; only a branch can have a target. -/
inductive IsReadable (branch : Bool) : Operand → Prop
  | absent : IsReadable branch .absent
  | register (r : Register) : IsReadable branch { mode := .register r }
  | immediate (v : Int64) : IsReadable branch { mode := .immediate v }
  | floatImmediate (v : Binary64) : IsReadable branch { mode := .floatImmediate v }
  | memory {mode : Mode} {symbol : Option String} (offset : Int64) {index : Option Index}
      (hmode : mode.TakesSymbol symbol) (hindex : ∀ i ∈ index, i.IsReadable) :
      IsReadable branch { mode, index, offset, symbol }
  | position {v : Int64} (hbranch : branch = true) (hv : 0 ≤ v.toInt) :
      IsReadable branch { mode := .target, offset := v }
  | label {name : String} (hbranch : branch = true) (hregister : Register.ofName? name.toList = none)
      (hname : IsLabel name.toList) : IsReadable branch { mode := .target, symbol := some name }

/-! ## Memory -/

/-- Each place has the symbol that it needs, and none that it does not take. -/
theorem Mode.IsPlace.takesSymbol {mode : Mode} {m : MemoryForm}
    (h : mode.IsPlace (upper m.base) m.symbol m.isFileLocal)
    (hsymbol : m.symbol = [] ∨ isName m.symbol = true) : mode.TakesSymbol m.symbol? := by
  have hname : m.symbol ≠ [] → isName (String.ofList m.symbol).toList = true := by
    intro hne
    rw [String.toList_ofList]
    exact hsymbol.resolve_left hne
  have hoptional : ∀ name ∈ m.symbol?, isName name.toList = true := by
    intro name hmem
    unfold MemoryForm.symbol? at hmem
    split at hmem
    · simp at hmem
    · next hne =>
      rw [← Option.some.inj hmem]
      exact hname hne
  have hsome : m.symbol ≠ [] → m.symbol? = some (String.ofList m.symbol) := fun hne => if_neg hne
  obtain ⟨symbol, isFileLocal, numeral, base, index⟩ := m
  simp only at h
  generalize upper base = capitals at h
  cases h with
  | fileLocal hne => exact hsome hne ▸ .fileLocal (hname hne)
  | global => exact .global hoptional
  | argument => exact .argument hoptional
  | frameSlot hne => exact hsome hne ▸ .frameSlot (hname hne)
  | indirect hgeneral => exact .indirect hgeneral

theorem SpellsIndex.isReadable {written : Option (List Char × Char)} {index : Option Index}
    (h : SpellsIndex written index) : ∀ i ∈ index, i.IsReadable := by
  have hfactor : ∀ s ∈ scales, s.2 ∈ ([1, 2, 4, 8] : List UInt8) := by decide
  rintro i rfl
  cases h with
  | some hgeneral hword hscale => exact ⟨hgeneral, hfactor _ hscale⟩

/-- What stands for memory is memory, with a symbol that goes with its mode. -/
theorem exists_of_ofMemoryForm {text : List Char} {m : MemoryForm} {o : Operand}
    (hm : m.IsWritten) (h : ofMemoryForm text m = .ok o) :
    ∃ mode symbol offset index, Mode.TakesSymbol mode symbol ∧
      (∀ i ∈ index, Index.IsReadable i) ∧ o = { mode, index, offset, symbol } := by
  obtain ⟨v, -, hv⟩ := standsFor_of_ofMemoryForm hm.index h
  refine ⟨o.mode, o.symbol, o.offset, o.index, ?_, hv.index.isReadable, rfl⟩
  rw [hv.symbol]
  exact hv.mode.takesSymbol hm.symbol

theorem isReadable_of_ofMemoryForm {branch : Bool} {text : List Char} {m : MemoryForm}
    {o : Operand} (hm : m.IsWritten) (h : ofMemoryForm text m = .ok o) :
    IsReadable branch o := by
  obtain ⟨mode, symbol, offset, index, hmode, hindex, rfl⟩ := exists_of_ofMemoryForm hm h
  exact .memory offset hmode hindex

/-! ## Targets -/

/-- The word of digits is not negative. -/
theorem toInt_nonneg_of_value? {text : List Char} {v : Int64} (hdigits : isDigits text = true)
    (h : Numeral.value? text = some v) : 0 ≤ v.toInt := by
  rw [((Numeral.value?_eq_some_of_isDigits hdigits).mp h).2]
  exact Int.natCast_nonneg _

theorem mode_of_targetOf? {text : List Char} {o : Operand} (h : targetOf? text = some o) :
    o.mode = .target := by
  unfold targetOf? at h
  split at h
  · split at h <;> rw [← Option.some.inj h]
  · split at h
    · rw [← Option.some.inj h]
    · simp at h

theorem isReadable_of_targetOf? {text : List Char} {o : Operand}
    (hregister : Register.ofName? text = none) (h : targetOf? text = some o) :
    IsReadable true o := by
  unfold targetOf? at h
  split at h
  · next hdigits =>
    split at h
    · next position hvalue =>
      rw [← Option.some.inj h]
      exact .position rfl (toInt_nonneg_of_value? hdigits hvalue)
    · next hvalue =>
      rw [← Option.some.inj h]
      refine .label rfl ?_ (Or.inr ?_)
      · rwa [String.toList_ofList]
      · rw [String.toList_ofList]
        exact ⟨hdigits, hvalue⟩
  · split at h
    · next hname =>
      rw [← Option.some.inj h]
      refine .label rfl ?_ (Or.inl ?_)
      · rwa [String.toList_ofList]
      · rwa [String.toList_ofList]
    · simp at h

/-! ## Operands -/

/-- What is read of a text is what it stands for by the first shape that fits. -/
theorem read_cases {branch : Bool} {text : List Char} {o : Operand}
    (h : read branch text = .ok o) :
    trim text = [] ∧ o = .absent ∨
      (∃ r, Register.ofName? (trim text) = some r ∧ o = { mode := .register r }) ∨
      (∃ numeral v, immediateNumeral? (trim text) = some numeral ∧
        Numeral.value? numeral = some v ∧ o = { mode := .immediate v }) ∨
      (∃ v, floatImmediate? (trim text) = some v ∧ o = { mode := .floatImmediate v }) ∨
      (∃ m, MemoryForm.ofText? (trim text) = some m ∧ ofMemoryForm (trim text) m = .ok o) ∨
      branch = true ∧ Register.ofName? (trim text) = none ∧ targetOf? (trim text) = some o := by
  unfold read readTrimmed at h
  split at h
  · next hempty => exact Or.inl ⟨List.isEmpty_iff.mp hempty, (Except.ok.inj h).symm⟩
  · refine Or.inr ?_
    split at h
    · next r hr => exact Or.inl ⟨r, hr, (Except.ok.inj h).symm⟩
    · next hregister =>
      refine Or.inr ?_
      split at h
      · next numeral hnumeral =>
        split at h
        · next v hv => exact Or.inl ⟨numeral, v, hnumeral, hv, (Except.ok.inj h).symm⟩
        · simp at h
      · refine Or.inr ?_
        split at h
        · next v hv => exact Or.inl ⟨v, hv, (Except.ok.inj h).symm⟩
        · refine Or.inr ?_
          split at h
          · next m hm => exact Or.inl ⟨m, hm, h⟩
          · split at h
            · next htarget =>
              rw [← Except.ok.inj h]
              cases branch with
              | true => exact Or.inr ⟨rfl, hregister, htarget⟩
              | false => simp at htarget
            · simp at h

/-- Whatever the text, what is read of it is one of the shapes. -/
theorem isReadable_of_read {branch : Bool} {text : List Char} {o : Operand}
    (h : read branch text = .ok o) : IsReadable branch o := by
  rcases read_cases h with ⟨-, rfl⟩ | ⟨r, -, rfl⟩ | ⟨_, v, -, -, rfl⟩ | ⟨v, -, rfl⟩ |
    ⟨m, hm, hform⟩ | ⟨rfl, hregister, htarget⟩
  · exact .absent
  · exact .register r
  · exact .immediate v
  · exact .floatImmediate v
  · exact isReadable_of_ofMemoryForm (MemoryForm.isWritten_of_ofText? hm).1 hform
  · exact isReadable_of_targetOf? hregister htarget

end Amd64Effects.Operand
