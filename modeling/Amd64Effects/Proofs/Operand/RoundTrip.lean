import Amd64Effects.Operand.Text
import Amd64Effects.Proofs.Operand.Readable

/-!
# Operands are read back from their texts

The text of an operand that was read is read as the same operand: no part of it is lost, and none is
taken for another (`read_text_of_read`). Only immediate floating-point numbers are left out here.

The proof goes by the shapes of `IsReadable`. Memory is the long one: its text is that of a
`MemoryForm` (`render_eq_render_form`), the form is found again since its parts are well written,
and what the form stands for is the operand (`standsFor_form`).
-/

namespace Amd64Effects

open Text

namespace Operand

/-! ## Offsets -/

/-- The texts that stand for an offset; zero may be left out and a plus may be put in. -/
def IsOffsetText (v : Int64) (text : List Char) : Prop :=
  text = [] ∧ v = 0 ∨ text = Numeral.ofWord v ∨ text = '+' :: Numeral.ofWord v ∧ 0 ≤ v.toInt

theorem IsOffsetText.isSigned {v : Int64} {text : List Char} (h : IsOffsetText v text) :
    text = [] ∨ Numeral.isSigned text = true := by
  rcases h with ⟨rfl, -⟩ | rfl | ⟨rfl, hv⟩
  · exact Or.inl rfl
  · exact Or.inr (Numeral.isSigned_ofWord v)
  · exact Or.inr (Numeral.isSigned_plus_ofWord hv)

theorem IsOffsetText.value?_eq {v : Int64} {text : List Char} (h : IsOffsetText v text) :
    (if text.isEmpty then some 0 else Numeral.value? text) = some v := by
  rcases h with ⟨rfl, rfl⟩ | rfl | ⟨rfl, hv⟩
  · rfl
  · rw [if_neg (by simp [Numeral.ofWord_ne_nil]), Numeral.value?_ofWord]
  · rw [if_neg (by simp), Numeral.value?_plus_ofWord hv]

theorem isOffsetText_offsetText (o : Operand) : IsOffsetText o.offset o.offsetText := by
  unfold offsetText
  split
  · exact Or.inr (Or.inl rfl)
  · split
    · next hzero => exact Or.inl ⟨rfl, hzero⟩
    · split
      · exact Or.inr (Or.inl rfl)
      · next hneg =>
        rw [Int64.lt_iff_toInt_lt, Int64.toInt_zero] at hneg
        exact Or.inr (Or.inr ⟨rfl, by omega⟩)

/-- Behind a symbol an offset has a sign. -/
theorem stopsAt_offsetText {o : Operand} (h : o.symbolText ≠ []) :
    StopsAt isNameChar o.offsetText := by
  unfold offsetText
  rw [if_neg (by simpa using h)]
  split
  · exact stopsAt_nil _
  · split
    · next hneg =>
      rw [Int64.lt_iff_toInt_lt, Int64.toInt_zero] at hneg
      rw [Numeral.ofWord_of_neg hneg]
      exact stopsAt_cons.mpr (isNameChar_of_isSeparator (by decide))
    · exact stopsAt_cons.mpr (isNameChar_of_isSeparator (by decide))

/-! ## Memory -/

/-- The parts of the text of a memory operand. -/
def form (o : Operand) : MemoryForm where
  symbol := o.symbolText
  isFileLocal := match o.mode with
    | .fileLocal => true
    | _ => false
  offset := match o.mode with
    | .indirect _ => if o.offset = 0 then [] else Numeral.ofWord o.offset
    | _ => o.offsetText
  base := match o.mode with
    | .indirect base => base.name.toList
    | .frameSlot => "SP".toList
    | .argument => "FP".toList
    | _ => "SB".toList
  index := o.index.map fun i => (i.register.name.toList, Nat.digitChar i.scale.toNat)

/-- A scale is one digit, from which it is found again. -/
theorem digitChar_scale {i : Index} (h : i.IsReadable) :
    i.scale.toNat < 10 ∧ Nat.digitChar i.scale.toNat ∈ ['1', '2', '4', '8'] ∧
      scaleOf (Nat.digitChar i.scale.toNat) = i.scale := by
  have hscale : i.scale = 1 ∨ i.scale = 2 ∨ i.scale = 4 ∨ i.scale = 8 := by simpa using h.2
  rcases hscale with hscale | hscale | hscale | hscale <;> rw [hscale] <;> decide

theorem indexText_eq_renderIndex {o : Operand} (hindex : ∀ i ∈ o.index, i.IsReadable) :
    o.indexText = MemoryForm.renderIndex o.form.index := by
  unfold indexText form
  cases hi : o.index with
  | none => rfl
  | some i =>
    have hdigits := Nat.toDigits_of_lt_base (digitChar_scale (hindex i (by simp [hi]))).1
    simp [hdigits, MemoryForm.renderIndex]

theorem render_eq_render_form {o : Operand} (hmode : o.mode.TakesSymbol o.symbol)
    (hindex : ∀ i ∈ o.index, i.IsReadable) : o.render = o.form.render := by
  have hi := indexText_eq_renderIndex hindex
  obtain ⟨mode, index, offset, symbol⟩ := o
  cases hmode <;> simp [render, MemoryForm.render, hi, form, symbolText]

theorem symbolText_of_takesSymbol {o : Operand} (hmode : o.mode.TakesSymbol o.symbol) :
    o.symbolText = [] ∨ isName o.symbolText = true := by
  obtain ⟨mode, index, offset, symbol⟩ := o
  have hoptional : (∀ name ∈ symbol, isName name.toList = true) →
      (symbol.getD "").toList = [] ∨ isName (symbol.getD "").toList = true := by
    intro h
    cases symbol with
    | none => exact Or.inl rfl
    | some name => exact Or.inr (h name rfl)
  cases hmode with
  | indirect h => exact Or.inl rfl
  | global h => exact hoptional h
  | argument h => exact hoptional h
  | fileLocal h => exact Or.inr h
  | frameSlot h => exact Or.inr h

theorem isOffsetText_form {o : Operand} : IsOffsetText o.offset o.form.offset := by
  unfold form
  simp only
  split
  · split
    · next hzero => exact Or.inl ⟨rfl, hzero⟩
    · exact Or.inr (Or.inl rfl)
  · exact isOffsetText_offsetText o

theorem isIndex_of_isReadable {i : Index} (h : i.IsReadable) :
    MemoryForm.IsIndex (i.register.name.toList, Nat.digitChar i.scale.toNat) := by
  have hword := i.register.isWord_name
  exact ⟨ne_nil_of_isWord hword, isAlphanum_of_isWord hword, (digitChar_scale h).2.1⟩

/-- The parts of a text that was written have the shape in which they can be read. -/
theorem isWritten_form {o : Operand} (hmode : o.mode.TakesSymbol o.symbol)
    (hindex : ∀ i ∈ o.index, i.IsReadable) : o.form.IsWritten where
  symbol := symbolText_of_takesSymbol hmode
  offset := isOffsetText_form.isSigned
  sign := by
    intro hne _
    obtain ⟨mode, index, offset, symbol⟩ := o
    cases hmode with
    | indirect h => exact absurd rfl hne
    | global h => exact stopsAt_offsetText hne
    | argument h => exact stopsAt_offsetText hne
    | fileLocal h => exact stopsAt_offsetText hne
    | frameSlot h => exact stopsAt_offsetText hne
  base_ne_nil := by
    unfold form
    simp only
    split
    · next base _ => exact ne_nil_of_isWord base.isWord_name
    all_goals decide
  base := by
    unfold form
    simp only
    split
    · next base _ => exact isAlphanum_of_isWord base.isWord_name
    all_goals exact isAlphanum_of_isWord (by decide)
  index := by
    intro written hwritten
    obtain ⟨i, hi, rfl⟩ := Option.map_eq_some_iff.mp hwritten
    exact isIndex_of_isReadable (hindex i hi)

theorem isPlace_form {o : Operand} (hmode : o.mode.TakesSymbol o.symbol) :
    o.mode.IsPlace (upper o.form.base) o.form.symbol o.form.isFileLocal := by
  obtain ⟨mode, index, offset, symbol⟩ := o
  cases hmode with
  | @indirect base h =>
    show Mode.IsPlace (upper base.name.toList) [] false (.indirect base)
    rw [base.upper_name]
    exact .indirect h
  | global h => exact .global
  | argument h => exact .argument
  | fileLocal h => exact .fileLocal (ne_nil_of_isName h)
  | frameSlot h => exact .frameSlot (ne_nil_of_isName h)

theorem symbol?_form {o : Operand} (hmode : o.mode.TakesSymbol o.symbol) :
    o.form.symbol? = o.symbol := by
  obtain ⟨mode, index, offset, symbol⟩ := o
  have hoptional : (∀ name ∈ symbol, isName name.toList = true) →
      (if (symbol.getD "").toList = [] then none
        else some (String.ofList (symbol.getD "").toList)) = symbol := by
    intro h
    cases symbol with
    | none => rfl
    | some name => simp [ne_nil_of_isName (h name rfl)]
  cases hmode with
  | indirect h => rfl
  | global h => exact hoptional h
  | argument h => exact hoptional h
  | fileLocal h => exact hoptional (by simpa using h)
  | frameSlot h => exact hoptional (by simpa using h)

theorem spellsIndex_form {o : Operand} (hindex : ∀ i ∈ o.index, i.IsReadable) :
    SpellsIndex o.form.index o.index := by
  unfold form
  cases hi : o.index with
  | none => exact .none
  | some i =>
    have hreadable := hindex i hi
    obtain ⟨-, hdigit, hscale⟩ := digitChar_scale hreadable
    have hmem := mem_scales_of_mem hdigit
    rw [hscale] at hmem
    exact .some hreadable.1 i.register.upper_name hmem

/-- The parts of a written text stand for the operand that was written. -/
theorem standsFor_form {o : Operand} (hmode : o.mode.TakesSymbol o.symbol)
    (hindex : ∀ i ∈ o.index, i.IsReadable) : o.form.StandsFor o.offset.toInt o where
  mode := isPlace_form hmode
  symbol := (symbol?_form hmode).symm
  offset := rfl
  index := spellsIndex_form hindex

theorem ofMemoryForm_form {o : Operand} (hmode : o.mode.TakesSymbol o.symbol)
    (hindex : ∀ i ∈ o.index, i.IsReadable) (text : List Char) :
    ofMemoryForm text o.form = .ok o := by
  have hoffset : o.form.DenotesOffset o.offset.toInt :=
    MemoryForm.denotesOffset_of_value? isOffsetText_form.value?_eq
  rw [ofMemoryForm_eq_ok_iff (isWritten_form hmode hindex).index hoffset]
  exact standsFor_form hmode hindex

/-! ## Characters of a text -/

/-- Whether a character may stand in the text of an operand. -/
def IsOperandChar (c : Char) : Prop :=
  c = '$' ∨ MemoryForm.IsFormChar c

/-- No blank stands in the text of an operand, and none of the marks between operands. -/
theorem IsOperandChar.isBlank_eq_false {c : Char} (h : IsOperandChar c) : isBlank c = false := by
  rcases h with rfl | hname | hmark
  · decide
  · exact isBlank_of_isNameChar hname
  · exact isBlank_of_isSeparator (MemoryForm.isSeparator_of_mem_marks hmark)

theorem IsLabel.ne_nil {text : List Char} (h : IsLabel text) : text ≠ [] := by
  rcases h with hname | ⟨hdigits, -⟩
  · exact ne_nil_of_isName hname
  · exact ne_nil_of_isDigits hdigits

theorem IsLabel.isNameChar {text : List Char} (h : IsLabel text) :
    ∀ c ∈ text, isNameChar c = true := by
  rcases h with hname | ⟨hdigits, -⟩
  · exact isNameChar_of_isName hname
  · exact isNameChar_of_isDigits hdigits

theorem isFormChar_ofWord (v : Int64) : ∀ c ∈ Numeral.ofWord v, MemoryForm.IsFormChar c :=
  MemoryForm.isFormChar_of_isSigned (Numeral.isSigned_ofWord v)

@[simp] theorem render_absent : Operand.absent.render = [] := rfl

@[simp] theorem render_register (r : Register) :
    ({ mode := .register r } : Operand).render = r.name.toList := by
  simp [render, indexText]

@[simp] theorem render_immediate (v : Int64) :
    ({ mode := .immediate v } : Operand).render = '$' :: Numeral.ofWord v := by
  simp [render, indexText]

@[simp] theorem render_position (v : Int64) :
    ({ mode := .target, offset := v } : Operand).render = Numeral.ofWord v := by
  simp [render, symbolText, indexText]

theorem render_label {name : String} (h : name.toList ≠ []) :
    ({ mode := .target, symbol := some name } : Operand).render = name.toList := by
  have hempty : name ≠ "" := mt String.toList_eq_nil_iff.mpr h
  simp [render, symbolText, indexText, hempty]

/-- The text of an operand holds only symbols, numerals, and the marks between their parts. -/
theorem IsReadable.isOperandChar {branch : Bool} {o : Operand} (h : IsReadable branch o)
    (hfloat : ∀ v, o.mode ≠ .floatImmediate v) : ∀ c ∈ o.render, IsOperandChar c := by
  cases h with
  | absent => simp
  | register r =>
    rw [render_register]
    intro c hc
    exact Or.inr (MemoryForm.isFormChar_of_isAlphanum (isAlphanum_of_isWord r.isWord_name c hc))
  | immediate v =>
    rw [render_immediate]
    intro c hc
    exact (List.mem_cons.mp hc).imp id (isFormChar_ofWord v c)
  | floatImmediate v => exact absurd rfl (hfloat v)
  | memory offset hmode hindex =>
    rw [render_eq_render_form hmode hindex]
    exact fun c hc => Or.inr ((isWritten_form hmode hindex).isFormChar c hc)
  | @position v hbranch hv =>
    rw [render_position]
    exact fun c hc => Or.inr (isFormChar_ofWord v c hc)
  | label hbranch hregister hname =>
    rw [render_label hname.ne_nil]
    exact fun c hc => Or.inr (Or.inl (hname.isNameChar c hc))

/-! ## Reading -/

theorem immediateNumeral?_eq_none {text : List Char} (h : '$' ∉ text) :
    immediateNumeral? text = none := by
  unfold immediateNumeral?
  split
  · simp at h
  · simp at h
  · rfl

theorem floatImmediate?_eq_none {text : List Char} (h : '$' ∉ text) :
    floatImmediate? text = none := by
  unfold floatImmediate? bracketed?
  split
  · simp at h
  · rfl

theorem ofText?_eq_none {text : List Char} (h : '(' ∉ text) :
    MemoryForm.ofText? text = none := by
  cases hm : MemoryForm.ofText? text with
  | none => rfl
  | some m =>
    obtain ⟨-, rfl⟩ := MemoryForm.isWritten_of_ofText? hm
    exact absurd (by simp [MemoryForm.render]) h

/-- Behind the mark of an immediate a numeral may have a minus, but no plus. -/
theorem immediateNumeral?_of_isSigned {numeral : List Char} (h : Numeral.isSigned numeral = true)
    (hplus : numeral.head? ≠ some '+') : immediateNumeral? ('$' :: numeral) = some numeral := by
  unfold Numeral.isSigned Numeral.splitSign at h
  split at h
  · rw [immediateNumeral?, if_pos h]
  · exact absurd rfl hplus
  · next hminus _ =>
    unfold immediateNumeral?
    split
    · next rest heq => exact absurd (List.cons.inj heq).2 (hminus rest)
    · next heq => rw [← (List.cons.inj heq).2, if_pos h]
    · next _ hne => exact absurd rfl (hne numeral)

/-- What stands behind the mark of an immediate has no plus. -/
theorem eq_of_immediateNumeral? {text numeral : List Char}
    (h : immediateNumeral? text = some numeral) :
    text = '$' :: numeral ∧ numeral.head? ≠ some '+' := by
  unfold immediateNumeral? at h
  split at h
  · split at h
    · rw [← Option.some.inj h]
      exact ⟨rfl, by simp⟩
    · simp at h
  · split at h
    · next hunsigned =>
      rw [← Option.some.inj h]
      exact ⟨rfl, Numeral.head?_ne_plus_of_isUnsigned hunsigned⟩
    · simp at h
  · simp at h

theorem immediateNumeral?_ofWord (v : Int64) :
    immediateNumeral? ('$' :: Numeral.ofWord v) = some (Numeral.ofWord v) := by
  refine immediateNumeral?_of_isSigned (Numeral.isSigned_ofWord v) ?_
  by_cases h : v.toInt < 0
  · simp [Numeral.ofWord_of_neg h]
  · rw [Numeral.ofWord_of_nonneg (by omega)]
    exact Numeral.head?_ne_plus_of_isUnsigned (Numeral.isUnsigned_toDigits _)

/-- A text of the form of an immediate integer is read for the value of its numeral. -/
theorem readTrimmed_immediate {text numeral : List Char} (hdollar : '$' ∈ text)
    (h : immediateNumeral? text = some numeral) (branch : Bool) :
    readTrimmed branch text = match Numeral.value? numeral with
      | some v => .ok { mode := .immediate v }
      | none => .error (.constant (String.ofList text)) := by
  unfold readTrimmed
  rw [if_neg (by simpa using List.ne_nil_of_mem hdollar),
    Register.ofName?_eq_none_of_isSeparator hdollar (by decide)]
  cases hvalue : Numeral.value? numeral <;> simp only [h, hvalue]

theorem read_immediate {numeral : List Char} (h : Numeral.isSigned numeral = true)
    (hplus : numeral.head? ≠ some '+') (branch : Bool) :
    read branch ('$' :: numeral) = match Numeral.value? numeral with
      | some v => .ok { mode := .immediate v }
      | none => .error (.constant (String.ofList ('$' :: numeral))) := by
  have hblank : ∀ c ∈ '$' :: numeral, isBlank c = false := by
    refine List.forall_mem_cons.mpr ⟨by decide, fun c hc => ?_⟩
    exact IsOperandChar.isBlank_eq_false (Or.inr (MemoryForm.isFormChar_of_isSigned h c hc))
  rw [read, trim_of_no_blank hblank]
  exact readTrimmed_immediate List.mem_cons_self (immediateNumeral?_of_isSigned h hplus) branch

/-- A text without a mark that names no register is a target, where there may be one. -/
theorem readTrimmed_target {text : List Char} {o : Operand} (hne : text ≠ [])
    (hchars : ∀ c ∈ text, isNameChar c = true) (hregister : Register.ofName? text = none)
    (htarget : targetOf? text = some o) : readTrimmed true text = .ok o := by
  have not_mem : ∀ c, isSeparator c = true → c ∉ text := by
    intro c hc hmem
    exact ne_of_isSeparator (isSeparator_of_isNameChar (hchars c hmem)) hc rfl
  have hdollar := not_mem '$' (by decide)
  unfold readTrimmed
  rw [if_neg (by simpa using hne), hregister, immediateNumeral?_eq_none hdollar,
    floatImmediate?_eq_none hdollar, ofText?_eq_none (not_mem '(' (by decide)), if_pos rfl, htarget]

/-- A text of the form of memory is read as memory. -/
theorem readTrimmed_render_form {m : MemoryForm} (h : m.IsWritten) (branch : Bool) :
    readTrimmed branch m.render = ofMemoryForm m.render m := by
  have hmem : '(' ∈ m.render := by simp [MemoryForm.render]
  have hdollar : '$' ∉ m.render := by
    intro hmem
    rcases h.isFormChar '$' hmem with hname | hmark
    · exact ne_of_isSeparator (isSeparator_of_isNameChar hname) (by decide) rfl
    · exact absurd hmark (by decide)
  unfold readTrimmed
  rw [if_neg (by simpa using List.ne_nil_of_mem hmem),
    Register.ofName?_eq_none_of_isSeparator hmem (by decide), immediateNumeral?_eq_none hdollar,
    floatImmediate?_eq_none hdollar, MemoryForm.ofText?_render h]

theorem read_render_form {m : MemoryForm} (h : m.IsWritten) (branch : Bool) :
    read branch m.render = ofMemoryForm m.render m := by
  have hblank : ∀ c ∈ m.render, isBlank c = false :=
    fun c hc => IsOperandChar.isBlank_eq_false (Or.inr (h.isFormChar c hc))
  rw [read, trim_of_no_blank hblank, readTrimmed_render_form h]

theorem targetOf?_ofWord {v : Int64} (hv : 0 ≤ v.toInt) :
    targetOf? (Numeral.ofWord v) = some { mode := .target, offset := v } := by
  unfold targetOf?
  rw [if_pos (Numeral.isDigits_ofWord hv), Numeral.value?_ofWord]

theorem targetOf?_label {name : String} (h : IsLabel name.toList) :
    targetOf? name.toList = some { mode := .target, symbol := some name } := by
  unfold targetOf?
  rcases h with hname | ⟨hdigits, hvalue⟩
  · have hdigits : ¬isDigits name.toList = true := by
      intro hdigits
      rw [isName_of_isDigits hdigits] at hname
      exact Bool.false_ne_true hname
    rw [if_neg hdigits, if_pos hname, String.ofList_toList]
  · rw [if_pos hdigits, hvalue]
    simp

/-- Each shape is read back from its text. -/
theorem IsReadable.readTrimmed_render {branch : Bool} {o : Operand} (h : IsReadable branch o)
    (hfloat : ∀ v, o.mode ≠ .floatImmediate v) : readTrimmed branch o.render = .ok o := by
  cases h with
  | absent => rfl
  | register r =>
    rw [render_register]
    unfold readTrimmed
    rw [if_neg (by simpa using ne_nil_of_isWord r.isWord_name), Register.ofName?_name]
  | immediate v =>
    rw [render_immediate, readTrimmed_immediate List.mem_cons_self (immediateNumeral?_ofWord v),
      Numeral.value?_ofWord]
  | floatImmediate v => exact absurd rfl (hfloat v)
  | memory offset hmode hindex =>
    rw [render_eq_render_form hmode hindex, readTrimmed_render_form (isWritten_form hmode hindex)]
    exact ofMemoryForm_form hmode hindex _
  | @position v hbranch hv =>
    have hdigits := Numeral.isDigits_ofWord hv
    rw [hbranch, render_position]
    exact readTrimmed_target (Numeral.ofWord_ne_nil v) (isNameChar_of_isDigits hdigits)
      (Register.ofName?_eq_none_of_isDigits hdigits) (targetOf?_ofWord hv)
  | label hbranch hregister hname =>
    rw [hbranch, render_label hname.ne_nil]
    exact readTrimmed_target hname.ne_nil hname.isNameChar hregister (targetOf?_label hname)

theorem IsReadable.read_render {branch : Bool} {o : Operand} (h : IsReadable branch o)
    (hfloat : ∀ v, o.mode ≠ .floatImmediate v) : read branch o.render = .ok o := by
  unfold read
  rw [trim_of_no_blank fun c hc => (h.isOperandChar hfloat c hc).isBlank_eq_false]
  exact h.readTrimmed_render hfloat

/--
What was read of a text is read again of its own text, with all its parts: the mode with its
register or value, the offset, the symbol and the index.
-/
theorem read_text_of_read {branch : Bool} {text : String} {o : Operand}
    (h : read branch text.toList = .ok o) (hfloat : ∀ v, o.mode ≠ .floatImmediate v) :
    read branch o.text.toList = .ok o := by
  rw [Operand.text, String.toList_ofList]
  exact (isReadable_of_read h).read_render hfloat

theorem read_text_of_read_fileLocal :
    read false " tab·x<>-0x08(sb)(cx*4)".toList =
        .ok { mode := .fileLocal, index := some ⟨.cx, 4⟩, offset := -8, symbol := some "tab·x" } ∧
      read false (text
          { mode := .fileLocal, index := some ⟨.cx, 4⟩, offset := -8, symbol := some "tab·x" }).toList =
        .ok { mode := .fileLocal, index := some ⟨.cx, 4⟩, offset := -8, symbol := some "tab·x" } :=
  ⟨by decide +kernel, read_text_of_read
    (show read false " tab·x<>-0x08(sb)(cx*4)".toList = .ok _ by decide +kernel) (by simp)⟩

end Operand

end Amd64Effects
