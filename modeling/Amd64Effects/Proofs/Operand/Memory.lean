import Amd64Effects.Operand.Reading
import Amd64Effects.Proofs.Names
import Amd64Effects.Proofs.Numeral.Denotation
import Amd64Effects.Proofs.Operand.MemoryForm

/-!
# What a memory form stands for

The base, the symbol and the mark decide together which place a form stands for (`Mode.IsPlace`): a
mark goes only with a symbol of `SB`, and `SP` is the frame behind a symbol but the register without
one. A form stands for an operand exactly if there is such a place, the offset fits a word and the
index names a general register (`exists_standsFor_iff`), and then for one operand only
(`ofMemoryForm_eq_ok_iff`).
-/

namespace Amd64Effects

open Text

/-! ## Places -/

/--
The places that there are, each with its base in capitals, the symbol in front of it, which may be
empty, and whether there is a mark.
-/
inductive Operand.Mode.IsPlace : (base symbol : List Char) → (isFileLocal : Bool) → Mode → Prop
  | fileLocal {symbol : List Char} (h : symbol ≠ []) : IsPlace "SB".toList symbol true .fileLocal
  | global {symbol : List Char} : IsPlace "SB".toList symbol false .global
  | argument {symbol : List Char} : IsPlace "FP".toList symbol false .argument
  | frameSlot {symbol : List Char} (h : symbol ≠ []) : IsPlace "SP".toList symbol false .frameSlot
  | indirect {r : Register} (h : r.isSse = false) : IsPlace r.name.toList [] false (.indirect r)

/-- The symbol of a form, where there is one. -/
def MemoryForm.symbol? (m : MemoryForm) : Option String :=
  if m.symbol = [] then none else some (String.ofList m.symbol)

namespace Operand

theorem exists_isPlace_of_memoryOf {text : List Char} {m : MemoryForm} {offset : Int64}
    {o : Operand} (h : memoryOf text m offset = .ok o) :
    ∃ mode : Mode, mode.IsPlace (upper m.base) m.symbol m.isFileLocal ∧
      o = { mode, offset, symbol := m.symbol? } := by
  obtain ⟨symbol, isFileLocal, numeral, base, index⟩ := m
  unfold memoryOf at h
  simp only [List.isEmpty_iff] at h
  unfold MemoryForm.symbol?
  split at h
  · next hbase =>
    rw [← Except.ok.inj h, hbase.1]
    cases isFileLocal with
    | true => exact ⟨_, .fileLocal hbase.2, rfl⟩
    | false => exact ⟨_, .global, rfl⟩
  · next hbase =>
    split at h
    · simp at h
    · next hmark =>
      obtain rfl : isFileLocal = false := Bool.not_eq_true _ ▸ hmark
      split at h
      · next hglobal =>
        obtain rfl : symbol = [] := by
          by_contra hne
          exact hbase ⟨hglobal, hne⟩
        rw [← Except.ok.inj h, hglobal]
        exact ⟨_, .global, rfl⟩
      · split at h
        · next hargument =>
          rw [← Except.ok.inj h, hargument]
          exact ⟨_, .argument, rfl⟩
        · split at h
          · next hne =>
            split at h
            · next hframe =>
              rw [← Except.ok.inj h, hframe]
              exact ⟨_, .frameSlot hne, by simp only [hne, if_false]⟩
            · simp at h
          · next hnil =>
            obtain rfl : symbol = [] := Decidable.not_not.mp hnil
            split at h
            · next r hr =>
              obtain ⟨hgeneral, hupper⟩ := Register.generalOfName?_eq_some_iff.mp hr
              rw [upper_upper] at hupper
              rw [← Except.ok.inj h, hupper]
              exact ⟨_, .indirect hgeneral, rfl⟩
            · simp at h

theorem memoryOf_of_isPlace {m : MemoryForm} {mode : Mode}
    (h : mode.IsPlace (upper m.base) m.symbol m.isFileLocal) (text : List Char) (offset : Int64) :
    memoryOf text m offset = .ok { mode, offset, symbol := m.symbol? } := by
  obtain ⟨symbol, isFileLocal, numeral, base, index⟩ := m
  simp only at h
  unfold memoryOf MemoryForm.symbol?
  generalize upper base = capitals at h ⊢
  cases h with
  | fileLocal h => simp [h]
  | global => cases symbol <;> simp
  | argument => simp
  | frameSlot h => simp [h]
  | @indirect r h =>
    -- the bases that are no registers
    have hne : r.name.toList ≠ ['S', 'B'] ∧ r.name.toList ≠ ['F', 'P'] := by
      cases r <;> decide
    simp [hne, Register.generalOfName?_name h]

theorem memoryOf_eq_ok_iff {text : List Char} {m : MemoryForm} {offset : Int64} {o : Operand} :
    memoryOf text m offset = .ok o ↔
      ∃ mode : Mode, mode.IsPlace (upper m.base) m.symbol m.isFileLocal ∧
        o = { mode, offset, symbol := m.symbol? } := by
  constructor
  · exact exists_isPlace_of_memoryOf
  · rintro ⟨mode, hplace, rfl⟩
    exact memoryOf_of_isPlace hplace text offset

/-! ## Indices -/

/-- The digits that may be written for a scale, with the factors that they stand for. -/
def scales : List (Char × UInt8) := [('1', 1), ('2', 2), ('4', 4), ('8', 8)]

/-- The index that a word and a digit stand for, if they are there at all. -/
inductive SpellsIndex : Option (List Char × Char) → Option Index → Prop
  | none : SpellsIndex none none
  | some {word : List Char} {digit : Char} {r : Register} {k : UInt8} (hgeneral : r.isSse = false)
      (hword : upper word = r.name.toList) (hscale : (digit, k) ∈ scales) :
      SpellsIndex (some (word, digit)) (some ⟨r, k⟩)

theorem mem_scales_of_mem {digit : Char} (h : digit ∈ ['1', '2', '4', '8']) :
    (digit, scaleOf digit) ∈ scales := by
  simp only [List.mem_cons, List.not_mem_nil, or_false] at h
  rcases h with rfl | rfl | rfl | rfl <;> decide

theorem scaleOf_eq_of_mem_scales {digit : Char} {k : UInt8} (h : (digit, k) ∈ scales) :
    scaleOf digit = k := by
  simp only [scales, List.mem_cons, Prod.mk.injEq, List.not_mem_nil, or_false] at h
  rcases h with ⟨rfl, rfl⟩ | ⟨rfl, rfl⟩ | ⟨rfl, rfl⟩ | ⟨rfl, rfl⟩ <;> decide

theorem addIndex_eq_ok_iff {o o' : Operand} {written : Option (List Char × Char)}
    (hwritten : ∀ i, written = some i → MemoryForm.IsIndex i) (hnone : o.index = none) :
    addIndex o written = .ok o' ↔ ∃ index, SpellsIndex written index ∧ o' = { o with index } := by
  constructor
  · intro h
    unfold addIndex at h
    split at h
    · refine ⟨none, .none, ?_⟩
      rw [← Except.ok.inj h, ← hnone]
    · next word digit =>
      split at h
      · next r hr =>
        obtain ⟨hgeneral, hword⟩ := Register.generalOfName?_eq_some_iff.mp hr
        have hscale := mem_scales_of_mem (hwritten _ rfl).2.2
        exact ⟨_, .some hgeneral hword hscale, (Except.ok.inj h).symm⟩
      · simp at h
  · rintro ⟨index, hspells, rfl⟩
    cases hspells with
    | none =>
      obtain ⟨mode, index, offset, symbol⟩ := o
      obtain rfl : index = none := hnone
      rfl
    | some hgeneral hword hscale =>
      have hregister := Register.generalOfName?_eq_some_iff.mpr ⟨hgeneral, hword⟩
      simp [addIndex, hregister, scaleOf_eq_of_mem_scales hscale]

theorem exists_spellsIndex_iff {written : Option (List Char × Char)}
    (hwritten : ∀ i, written = some i → MemoryForm.IsIndex i) :
    (∃ index, SpellsIndex written index) ↔ ∀ word digit, written = some (word, digit) →
      ∃ r : Register, r.isSse = false ∧ upper word = r.name.toList := by
  constructor
  · rintro ⟨index, hspells⟩ word digit rfl
    cases hspells with
    | some hgeneral hword hscale => exact ⟨_, hgeneral, hword⟩
  · intro h
    cases written with
    | none => exact ⟨none, .none⟩
    | some i =>
      obtain ⟨r, hgeneral, hword⟩ := h i.1 i.2 rfl
      exact ⟨_, .some hgeneral hword (mem_scales_of_mem (hwritten i rfl).2.2)⟩

end Operand

/-! ## Forms -/

namespace MemoryForm

/-- The integer of a form's offset; zero where none is written. -/
def DenotesOffset (m : MemoryForm) (v : Int) : Prop :=
  m.offset = [] ∧ v = 0 ∨ Numeral.Denotes m.offset v

/-- What an operand has from a form with offset `v`, part by part. -/
structure StandsFor (m : MemoryForm) (v : Int) (o : Operand) : Prop where
  mode : o.mode.IsPlace (upper m.base) m.symbol m.isFileLocal
  symbol : o.symbol = m.symbol?
  offset : o.offset.toInt = v
  index : Operand.SpellsIndex m.index o.index

/-- What a form with offset `v` must be like to stand for an operand. -/
structure IsMeaningful (m : MemoryForm) (v : Int) : Prop where
  offset : -2 ^ 63 ≤ v ∧ v < 2 ^ 63
  place : ∃ mode : Operand.Mode, mode.IsPlace (upper m.base) m.symbol m.isFileLocal
  index : ∀ word digit, m.index = some (word, digit) →
    ∃ r : Register, r.isSse = false ∧ upper word = r.name.toList

theorem DenotesOffset.value?_eq {m : MemoryForm} {v : Int} (h : m.DenotesOffset v) :
    (if m.offset.isEmpty then some 0 else Numeral.value? m.offset) = Numeral.toWord? v := by
  rcases h with ⟨hnil, rfl⟩ | hdenotes
  · rw [hnil]
    rfl
  · have hne : m.offset ≠ [] := Numeral.ne_nil_of_isSigned hdenotes.isSigned
    rw [if_neg (by simpa using hne), Numeral.value?_of_denotes hdenotes]

theorem denotesOffset_of_value? {m : MemoryForm} {w : Int64}
    (h : (if m.offset.isEmpty then some 0 else Numeral.value? m.offset) = some w) :
    m.DenotesOffset w.toInt := by
  split at h
  · next hnil =>
    refine Or.inl ⟨List.isEmpty_iff.mp hnil, ?_⟩
    rw [← Option.some.inj h]
    rfl
  · exact Or.inr (Numeral.denotes_of_value? h)

theorem exists_standsFor_iff {m : MemoryForm} {v : Int}
    (hindex : ∀ i, m.index = some i → IsIndex i) :
    (∃ o, m.StandsFor v o) ↔ m.IsMeaningful v := by
  constructor
  · rintro ⟨o, ho⟩
    refine ⟨?_, ⟨o.mode, ho.mode⟩, ?_⟩
    · rw [← ho.offset]
      exact ⟨o.offset.le_toInt, o.offset.toInt_lt⟩
    · exact (Operand.exists_spellsIndex_iff hindex).mp ⟨o.index, ho.index⟩
  · rintro ⟨⟨hlow, hhigh⟩, ⟨mode, hplace⟩, hword⟩
    obtain ⟨index, hspells⟩ := (Operand.exists_spellsIndex_iff hindex).mpr hword
    have hoffset : (Int64.ofInt v).toInt = v := Int64.toInt_ofInt_of_le hlow hhigh
    exact ⟨{ mode, index, offset := Int64.ofInt v, symbol := m.symbol? },
      hplace, rfl, hoffset, hspells⟩

end MemoryForm

namespace Operand

theorem ofMemoryForm_eq_ok_iff {text : List Char} {m : MemoryForm} {v : Int} {o : Operand}
    (hindex : ∀ i, m.index = some i → MemoryForm.IsIndex i) (hv : m.DenotesOffset v) :
    ofMemoryForm text m = .ok o ↔ m.StandsFor v o := by
  constructor
  · intro h
    unfold ofMemoryForm at h
    rw [hv.value?_eq] at h
    split at h
    · simp at h
    · next offset hoffset =>
      cases hplace : memoryOf text m offset with
      | error e =>
        rw [hplace] at h
        exact absurd h (by simp [bind, Except.bind])
      | ok place =>
        rw [hplace] at h
        replace h : addIndex place m.index = .ok o := h
        obtain ⟨mode, hmode, rfl⟩ := memoryOf_eq_ok_iff.mp hplace
        obtain ⟨index, hspells, rfl⟩ := (addIndex_eq_ok_iff hindex rfl).mp h
        exact ⟨hmode, rfl, Numeral.toWord?_eq_some_iff.mp hoffset, hspells⟩
  · intro h
    have hplace := memoryOf_of_isPlace h.mode text o.offset
    have hadd : addIndex { mode := o.mode, offset := o.offset, symbol := m.symbol? } m.index =
        .ok o := by
      rw [addIndex_eq_ok_iff hindex rfl]
      exact ⟨o.index, h.index, by rw [← h.symbol]⟩
    unfold ofMemoryForm
    rw [hv.value?_eq, Numeral.toWord?_eq_some_iff.mpr h.offset]
    show (do
      let place ← memoryOf text m o.offset
      addIndex place m.index) = _
    rw [hplace]
    exact hadd

/-- What a form was found to stand for, it stands for with the offset that it has. -/
theorem standsFor_of_ofMemoryForm {text : List Char} {m : MemoryForm} {o : Operand}
    (hindex : ∀ i, m.index = some i → MemoryForm.IsIndex i) (h : ofMemoryForm text m = .ok o) :
    ∃ v, m.DenotesOffset v ∧ m.StandsFor v o := by
  cases hvalue : if m.offset.isEmpty then some 0 else Numeral.value? m.offset with
  | none =>
    unfold ofMemoryForm at h
    rw [hvalue] at h
    simp at h
  | some w =>
    have hv := MemoryForm.denotesOffset_of_value? hvalue
    exact ⟨w.toInt, hv, (ofMemoryForm_eq_ok_iff hindex hv).mp h⟩

end Operand

end Amd64Effects
