import Amd64Effects.Operand.MemoryForm
import Amd64Effects.Proofs.Numeral

/-!
# Memory forms and their texts

`MemoryForm.ofText?` takes a text apart exactly if the text is put together from parts of the right
shape, and then into those parts (`ofText?_eq_some_iff`). What makes the parts unique is said in
`IsWritten`: an offset that follows a symbol directly has a sign.

Each function that takes a part off the front has two lemmas here, one for what it finds in a text
that was put together and one for what a text must have been if something was found.
-/

namespace Amd64Effects.MemoryForm

open Text

/-! ## The shape of the parts -/

/-- A register's name and the digit of a scale. -/
def IsIndex (i : List Char × Char) : Prop :=
  i.1 ≠ [] ∧ (∀ c ∈ i.1, c.isAlphanum = true) ∧ i.2 ∈ ['1', '2', '4', '8']

/-- The shape of the parts of a memory operand. -/
structure IsWritten (m : MemoryForm) : Prop where
  symbol : m.symbol = [] ∨ isName m.symbol = true
  offset : m.offset = [] ∨ Numeral.isSigned m.offset = true
  /-- Digits directly behind a symbol would be part of it. -/
  sign : m.symbol ≠ [] → m.isFileLocal = false → StopsAt isNameChar m.offset
  base_ne_nil : m.base ≠ []
  base : ∀ c ∈ m.base, c.isAlphanum = true
  index : ∀ i, m.index = some i → IsIndex i

theorem stopsAt_isNameChar_of_isSeparator {c : Char} (h : isSeparator c = true)
    (rest : List Char) : StopsAt isNameChar (c :: rest) :=
  stopsAt_cons.mpr (isNameChar_of_isSeparator h)

/-! ## The symbol -/

theorem splitSymbol_append {symbol rest : List Char} (hsymbol : isName symbol = true)
    (hrest : StopsAt isNameChar rest) : splitSymbol (symbol ++ rest) = (symbol, rest) := by
  cases symbol with
  | nil => simp [isName] at hsymbol
  | cons c tail =>
    rw [isName_cons, Bool.and_eq_true, List.all_eq_true] at hsymbol
    have hrun : ∀ d ∈ c :: tail, isNameChar d = true := by
      intro d hd
      rcases List.mem_cons.mp hd with rfl | hd
      · exact isNameChar_of_isNameStart hsymbol.1
      · exact hsymbol.2 d hd
    unfold splitSymbol
    rw [if_pos (by simpa using hsymbol.1), takeWhile_run hrun hrest, dropWhile_run hrun hrest]

theorem splitSymbol_of_stopsAt {rest : List Char} (h : StopsAt isNameStart rest) :
    splitSymbol rest = ([], rest) := by
  unfold splitSymbol
  cases rest with
  | nil => rfl
  | cons c tail => rw [if_neg (by simp [stopsAt_cons.mp h])]

/-- A text is the symbol in front of it and the rest. -/
theorem eq_of_splitSymbol {text symbol rest : List Char} (h : splitSymbol text = (symbol, rest)) :
    text = symbol ++ rest ∧ (symbol = [] ∨ isName symbol = true) ∧
      (symbol ≠ [] → StopsAt isNameChar rest) := by
  unfold splitSymbol at h
  split at h
  · next hstart =>
    obtain ⟨rfl, rfl⟩ := Prod.mk.inj h
    refine ⟨List.takeWhile_append_dropWhile.symm, Or.inr ?_, fun _ => stopsAt_dropWhile _ _⟩
    cases text with
    | nil => simp at hstart
    | cons c tail =>
      have hc : isNameStart c = true := by simpa using hstart
      rw [List.takeWhile_cons_of_pos (isNameChar_of_isNameStart hc), isName_cons, hc,
        List.all_takeWhile, Bool.and_self]
  · obtain ⟨rfl, rfl⟩ := Prod.mk.inj h
    exact ⟨rfl, Or.inl rfl, fun hne => absurd rfl hne⟩

/-! ## The mark -/

theorem splitMark_of_ne {text : List Char} (h : ∀ c ∈ text.head?, c ≠ '<') :
    splitMark text = (false, text) := by
  unfold splitMark
  split
  · exact absurd rfl (h '<' (by simp))
  · rfl

theorem eq_of_splitMark {text rest : List Char} {isFileLocal : Bool}
    (h : splitMark text = (isFileLocal, rest)) :
    text = (if isFileLocal then ['<', '>'] else []) ++ rest := by
  unfold splitMark at h
  split at h <;> obtain ⟨rfl, rfl⟩ := Prod.mk.inj h <;> simp

/-! ## The index and the base -/

theorem index?_eq_some_iff {text : List Char} {i : List Char × Char} :
    index? text = some i ↔ IsIndex i ∧ text = i.1 ++ ['*', i.2, ')'] := by
  obtain ⟨register, scale⟩ := i
  constructor
  · intro h
    unfold index? at h
    simp only at h
    split at h
    · next digit hrest =>
      split at h
      · next hguard =>
        obtain ⟨rfl, rfl⟩ := Prod.mk.inj (Option.some.inj h)
        simp only [Bool.and_eq_true, Bool.not_eq_true', List.isEmpty_eq_false_iff,
          List.contains_iff_mem] at hguard
        refine ⟨⟨hguard.1, fun c hc => List.mem_takeWhile_imp hc, hguard.2⟩, ?_⟩
        show text = text.takeWhile Char.isAlphanum ++ ['*', digit, ')']
        rw [← hrest, List.takeWhile_append_dropWhile]
      · simp at h
    · simp at h
  · rintro ⟨⟨hne, hrun, hscale⟩, rfl⟩
    have hstop : StopsAt Char.isAlphanum ['*', scale, ')'] := stopsAt_cons.mpr (by decide)
    unfold index?
    simp only [takeWhile_run hrun hstop, dropWhile_run hrun hstop]
    rw [if_pos]
    rw [Bool.and_eq_true, Bool.not_eq_true', List.isEmpty_eq_false_iff, List.contains_iff_mem]
    exact ⟨hne, hscale⟩

theorem brackets?_eq_some_iff {text base : List Char} {index : Option (List Char × Char)} :
    brackets? text = some (base, index) ↔
      base ≠ [] ∧ (∀ c ∈ base, c.isAlphanum = true) ∧ (∀ i, index = some i → IsIndex i) ∧
        text = base ++ ')' :: renderIndex index := by
  constructor
  · intro h
    unfold brackets? at h
    simp only at h
    split at h
    · simp at h
    · next hne =>
      have hbase : text.takeWhile Char.isAlphanum ≠ [] := by simpa using hne
      have hrun : ∀ c ∈ text.takeWhile Char.isAlphanum, c.isAlphanum = true :=
        fun c hc => List.mem_takeWhile_imp hc
      split at h
      · next hrest =>
        obtain ⟨rfl, rfl⟩ := Prod.mk.inj (Option.some.inj h)
        refine ⟨hbase, hrun, by simp, ?_⟩
        rw [renderIndex, ← hrest, List.takeWhile_append_dropWhile]
      · next rest hrest =>
        obtain ⟨i, hi, heq⟩ := Option.map_eq_some_iff.mp h
        obtain ⟨rfl, rfl⟩ := Prod.mk.inj heq
        obtain ⟨hindex, rfl⟩ := index?_eq_some_iff.mp hi
        refine ⟨hbase, hrun, fun j hj => Option.some.inj hj ▸ hindex, ?_⟩
        rw [renderIndex, ← hrest, List.takeWhile_append_dropWhile]
      · simp at h
  · rintro ⟨hne, hrun, hindex, rfl⟩
    have hstop : StopsAt Char.isAlphanum (')' :: renderIndex index) :=
      stopsAt_cons.mpr (by decide)
    unfold brackets?
    simp only [takeWhile_run hrun hstop, dropWhile_run hrun hstop]
    rw [if_neg (by simpa using hne)]
    cases index with
    | none => rfl
    | some i =>
      have hread : index? (i.1 ++ ['*', i.2, ')']) = some i :=
        index?_eq_some_iff.mpr ⟨hindex i rfl, rfl⟩
      simp only [renderIndex, hread, Option.map_some]

/-! ## The whole form -/

/-- No part in front of the base holds a bracket. -/
theorem ne_bracket_of_isSigned {text : List Char} (h : Numeral.isSigned text = true) :
    ∀ c ∈ text, c ≠ '(' := by
  rintro c hc rfl
  rcases Numeral.mem_of_isSigned h hc with hplus | hminus | hname
  · exact absurd hplus (by decide)
  · exact absurd hminus (by decide)
  · exact ne_of_isSeparator (isSeparator_of_isNameChar hname) (by decide) rfl

theorem ne_bracket_of_isName {text : List Char} (h : isName text = true) :
    ∀ c ∈ text, c ≠ '(' := by
  intro c hc
  have hname := isNameChar_of_isName h c hc
  exact ne_of_isSeparator (isSeparator_of_isNameChar hname) (by decide)

theorem IsWritten.ne_bracket {m : MemoryForm} (h : m.IsWritten) :
    ∀ c ∈ m.symbol ++ ((if m.isFileLocal then ['<', '>'] else []) ++ m.offset), c ≠ '(' := by
  intro c hc
  rcases List.mem_append.mp hc with hc | hc
  · rcases h.symbol with hnil | hname
    · simp [hnil] at hc
    · exact ne_bracket_of_isName hname c hc
  · rcases List.mem_append.mp hc with hc | hc
    · split at hc
      · rintro rfl
        simp at hc
      · simp at hc
    · rcases h.offset with hnil | hsigned
      · simp [hnil] at hc
      · exact ne_bracket_of_isSigned hsigned c hc

/-- An offset does not begin like a mark or a symbol. -/
theorem IsWritten.offset_head {m : MemoryForm} (h : m.IsWritten) :
    (∀ c ∈ m.offset.head?, c ≠ '<') ∧ StopsAt isNameStart m.offset := by
  rcases h.offset with hnil | hsigned
  · simp [hnil]
  · obtain ⟨c, rest, heq, hc⟩ := Numeral.exists_cons_of_isSigned hsigned
    rw [heq]
    rcases hc with rfl | rfl | hdigit
    · exact ⟨by simp, stopsAt_cons.mpr (by decide)⟩
    · exact ⟨by simp, stopsAt_cons.mpr (by decide)⟩
    · refine ⟨?_, stopsAt_cons.mpr (isNameStart_of_isDecimalDigit hdigit)⟩
      rintro d hd rfl
      rw [List.head?_cons, Option.mem_some] at hd
      rw [hd] at hdigit
      exact absurd hdigit (by decide)

theorem IsWritten.splitSymbol_eq {m : MemoryForm} (h : m.IsWritten) :
    splitSymbol (m.symbol ++ ((if m.isFileLocal then ['<', '>'] else []) ++ m.offset)) =
      (m.symbol, (if m.isFileLocal then ['<', '>'] else []) ++ m.offset) := by
  rcases h.symbol with hnil | hname
  · rw [hnil, List.nil_append]
    refine splitSymbol_of_stopsAt ?_
    cases m.isFileLocal with
    | true => exact stopsAt_cons.mpr (by decide)
    | false => exact h.offset_head.2
  · refine splitSymbol_append hname ?_
    cases hmark : m.isFileLocal with
    | true => exact stopsAt_isNameChar_of_isSeparator (by decide) _
    | false => exact h.sign (ne_nil_of_isName hname) hmark

theorem IsWritten.splitMark_eq {m : MemoryForm} (h : m.IsWritten) :
    splitMark ((if m.isFileLocal then ['<', '>'] else []) ++ m.offset) =
      (m.isFileLocal, m.offset) := by
  cases m.isFileLocal with
  | true => rfl
  | false => exact splitMark_of_ne h.offset_head.1

/-- A form that was written is read. -/
theorem ofText?_render {m : MemoryForm} (h : m.IsWritten) : ofText? m.render = some m := by
  have hrender : m.render =
      (m.symbol ++ ((if m.isFileLocal then ['<', '>'] else []) ++ m.offset)) ++
        '(' :: (m.base ++ ')' :: renderIndex m.index) := by
    simp [render]
  have hrun : ∀ c ∈ m.symbol ++ ((if m.isFileLocal then ['<', '>'] else []) ++ m.offset),
      (c != '(') = true := fun c hc => by simpa using h.ne_bracket c hc
  have hstop : StopsAt (· != '(') ('(' :: (m.base ++ ')' :: renderIndex m.index)) :=
    stopsAt_cons.mpr (by decide)
  have hoffset : (m.offset.isEmpty || Numeral.isSigned m.offset) = true := by
    rcases h.offset with hnil | hsigned
    · simp [hnil]
    · simp [hsigned]
  have hbrackets := brackets?_eq_some_iff.mpr ⟨h.base_ne_nil, h.base, h.index, rfl⟩
  unfold ofText?
  rw [hrender, dropWhile_run hrun hstop, takeWhile_run hrun hstop]
  simp only [h.splitSymbol_eq, h.splitMark_eq]
  rw [if_pos hoffset, hbrackets, Option.map_some]

/-- What is read was written. -/
theorem isWritten_of_ofText? {text : List Char} {m : MemoryForm} (h : ofText? text = some m) :
    m.IsWritten ∧ text = m.render := by
  unfold ofText? at h
  split at h
  · simp at h
  · next c inside hdrop =>
    have hc : c = '(' := by
      have hstop := stopsAt_dropWhile (· != '(') text
      rw [hdrop, stopsAt_cons] at hstop
      simpa using hstop
    rcases hs : splitSymbol (text.takeWhile (· != '(')) with ⟨symbol, rest⟩
    rcases hm : splitMark rest with ⟨isFileLocal, offset⟩
    simp only [hs, hm] at h
    split at h
    · next hguard =>
      obtain ⟨⟨base, index⟩, hbrackets, rfl⟩ := Option.map_eq_some_iff.mp h
      obtain ⟨hne, hbase, hindex, hinside⟩ := brackets?_eq_some_iff.mp hbrackets
      obtain ⟨hfront, hsymbol, hstop⟩ := eq_of_splitSymbol hs
      have hrest := eq_of_splitMark hm
      refine ⟨⟨hsymbol, by simpa using hguard, ?_, hne, hbase, hindex⟩, ?_⟩
      · intro hne hlocal
        have hnext := hstop hne
        simp only at hlocal
        rw [hrest, hlocal] at hnext
        simpa using hnext
      · conv_lhs => rw [← List.takeWhile_append_dropWhile (p := (· != '(')) (l := text)]
        rw [hdrop, hc, hfront, hrest, hinside]
        simp [render]
    · simp at h

theorem ofText?_eq_some_iff {text : List Char} {m : MemoryForm} :
    ofText? text = some m ↔ m.IsWritten ∧ text = m.render := by
  constructor
  · exact isWritten_of_ofText?
  · rintro ⟨h, rfl⟩
    exact ofText?_render h

/-! ## Characters of a form -/

/-- The marks between the parts of a memory operand. -/
def marks : List Char := ['(', ')', '*', '+', '-', '<', '>']

theorem isSeparator_of_mem_marks {c : Char} (h : c ∈ marks) : isSeparator c = true := by
  have hall : marks.all isSeparator = true := by decide
  exact List.all_eq_true.mp hall c h

/-- Whether a character may stand in the text of a memory operand. -/
def IsFormChar (c : Char) : Prop :=
  isNameChar c = true ∨ c ∈ marks

theorem isFormChar_of_isAlphanum {c : Char} (h : c.isAlphanum = true) : IsFormChar c :=
  Or.inl (isNameChar_of_isAlphanum h)

theorem isFormChar_of_isSigned {text : List Char} (h : Numeral.isSigned text = true) :
    ∀ c ∈ text, IsFormChar c := by
  intro c hc
  rcases Numeral.mem_of_isSigned h hc with rfl | rfl | hname
  · exact Or.inr (by decide)
  · exact Or.inr (by decide)
  · exact Or.inl hname

theorem isFormChar_of_isIndex {i : List Char × Char} (h : IsIndex i) :
    ∀ c ∈ renderIndex (some i), IsFormChar c := by
  obtain ⟨-, hregister, hscale⟩ := h
  have hdigit : ['1', '2', '4', '8'].all Char.isAlphanum = true := by decide
  intro c hc
  simp only [renderIndex, List.mem_cons, List.mem_append, List.not_mem_nil, or_false] at hc
  rcases hc with rfl | hc | rfl | rfl | rfl
  · exact Or.inr (by decide)
  · exact isFormChar_of_isAlphanum (hregister c hc)
  · exact Or.inr (by decide)
  · exact isFormChar_of_isAlphanum (List.all_eq_true.mp hdigit _ hscale)
  · exact Or.inr (by decide)

theorem IsWritten.isFormChar {m : MemoryForm} (h : m.IsWritten) :
    ∀ c ∈ m.render, IsFormChar c := by
  intro c hc
  simp only [render, List.mem_append, List.mem_cons] at hc
  rcases hc with hc | hc | hc | rfl | hc | rfl | hc
  · rcases h.symbol with hnil | hname
    · simp [hnil] at hc
    · exact Or.inl (isNameChar_of_isName hname c hc)
  · split at hc
    · have hsubset : ['<', '>'] ⊆ marks := by simp [marks]
      exact Or.inr (hsubset hc)
    · simp at hc
  · rcases h.offset with hnil | hsigned
    · simp [hnil] at hc
    · exact isFormChar_of_isSigned hsigned c hc
  · exact Or.inr (by decide)
  · exact isFormChar_of_isAlphanum (h.base c hc)
  · exact Or.inr (by decide)
  · cases hi : m.index with
    | none => simp [hi, renderIndex] at hc
    | some i =>
      rw [hi] at hc
      exact isFormChar_of_isIndex (h.index i hi) c hc

end Amd64Effects.MemoryForm
