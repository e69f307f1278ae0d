import Amd64Effects.Proofs.Numeral.Literal
import Amd64Effects.Proofs.Operand.Recognition

/-!
# Integers in operands

An integer stands in an operand as an immediate or as the offset of memory. In both places a literal
is read as its value if that fits a word, and is faulty if it does not (`read_immediate_text_iff`,
`read_withOffset_text_iff`). So are digits of which one is not of ASCII, although they have the
shape of a numeral. A plus belongs only to an offset.

No other value is ever read: where the operand is an immediate or memory, its text holds a literal
with the very value of the word (`read_integer`).
-/

namespace Amd64Effects

open Text Numeral

/-! ## Forms with another offset -/

namespace MemoryForm

def withOffset (m : MemoryForm) (numeral : List Char) : MemoryForm :=
  { m with offset := numeral }

/-- Whether an offset with this sign has a place: directly behind a symbol a sign is needed. -/
def Admits (m : MemoryForm) (sign : Sign) : Prop :=
  m.symbol ≠ [] → m.isFileLocal = false → sign ≠ .none

theorem IsWritten.withOffset {m : MemoryForm} {sign : Sign} {body : List Char} (h : m.IsWritten)
    (hsign : m.Admits sign) (hbody : isUnsigned body = true) :
    (m.withOffset (sign.text ++ body)).IsWritten where
  symbol := h.symbol
  offset := Or.inr (isSigned_text_append hbody)
  sign := by
    intro hne hlocal
    cases sign with
    | none => exact absurd rfl (hsign hne hlocal)
    | plus => exact stopsAt_isNameChar_of_isSeparator (by decide) body
    | minus => exact stopsAt_isNameChar_of_isSeparator (by decide) body
  base_ne_nil := h.base_ne_nil
  base := h.base
  index := h.index

theorem StandsFor.withOffset {m : MemoryForm} {v : Int} {o : Operand} (h : m.StandsFor v o)
    (numeral : List Char) (w : Int64) :
    (m.withOffset numeral).StandsFor w.toInt { o with offset := w } where
  mode := h.mode
  symbol := h.symbol
  offset := rfl
  index := h.index

end MemoryForm

namespace Operand

variable {branch : Bool}

/-! ## Offsets -/

/-- An offset without a value is a fault, whatever the other parts are. -/
theorem read_render_of_value?_eq_none {m : MemoryForm} (h : m.IsWritten) (hne : m.offset ≠ [])
    (hvalue : value? m.offset = none) :
    read branch m.render = .error (.offset (String.ofList m.render)) := by
  rw [read_render_form h]
  unfold ofMemoryForm
  rw [if_neg (by simpa using hne), hvalue]

/-- Another offset changes nothing else in what is read. -/
theorem read_withOffset_of_value? {m : MemoryForm} {numeral : List Char} {o : Operand} {w : Int64}
    (h : m.IsWritten) (hwritten : (m.withOffset numeral).IsWritten)
    (hread : read branch m.render = .ok o) (hvalue : value? numeral = some w) :
    read branch (m.withOffset numeral).render = .ok { o with offset := w } := by
  rw [read_render_form h] at hread
  obtain ⟨v, -, hstands⟩ := standsFor_of_ofMemoryForm h.index hread
  have hdenotes : (m.withOffset numeral).DenotesOffset w.toInt :=
    Or.inr (denotes_of_value? hvalue)
  rw [read_render_form hwritten, ofMemoryForm_eq_ok_iff hwritten.index hdenotes]
  exact hstands.withOffset numeral w

theorem read_withOffset_eq_error {m : MemoryForm} {sign : Sign} {body : List Char}
    (h : m.IsWritten) (hsign : m.Admits sign) (hbody : isUnsigned body = true)
    (hvalue : value? (sign.text ++ body) = none) :
    read branch (m.withOffset (sign.text ++ body)).render =
      .error (.offset (String.ofList (m.withOffset (sign.text ++ body)).render)) :=
  read_render_of_value?_eq_none (h.withOffset hsign hbody)
    (ne_nil_of_isSigned (isSigned_text_append hbody)) hvalue

theorem read_withOffset_text_iff {l : Literal} {m : MemoryForm} {o : Operand} {w : Int64}
    (h : m.IsWritten) (hsign : m.Admits l.sign) (hread : read branch m.render = .ok o) :
    read branch (m.withOffset l.text).render = .ok { o with offset := w } ↔
      w.toInt = l.value := by
  have hwritten : (m.withOffset l.text).IsWritten := h.withOffset hsign l.isUnsigned
  rw [← toWord?_eq_some_iff, ← l.value?_text]
  constructor
  · intro hok
    cases hvalue : value? l.text with
    | none =>
      have hfault : read branch (m.withOffset l.text).render = .error _ :=
        read_withOffset_eq_error h hsign l.isUnsigned hvalue
      rw [hfault] at hok
      simp at hok
    | some u =>
      rw [read_withOffset_of_value? h hwritten hread hvalue] at hok
      exact congrArg (fun p : Operand => some p.offset) (Except.ok.inj hok)
  · exact read_withOffset_of_value? h hwritten hread

/-! ## Immediates -/

theorem read_immediate_eq_error {sign : Sign} {body : List Char} (hsign : sign ≠ .plus)
    (hbody : isUnsigned body = true) (hvalue : value? (sign.text ++ body) = none) :
    read branch ('$' :: (sign.text ++ body)) =
      .error (.constant (String.ofList ('$' :: (sign.text ++ body)))) := by
  rw [read_immediate (isSigned_text_append hbody) (head?_text_append_ne_plus hbody hsign), hvalue]

theorem read_immediate_text_iff {l : Literal} (hsign : l.sign ≠ .plus) {w : Int64} :
    read branch ('$' :: l.text) = .ok { mode := .immediate w } ↔ w.toInt = l.value := by
  have hsigned : isSigned l.text = true := isSigned_text_append l.isUnsigned
  rw [read_immediate hsigned (head?_text_append_ne_plus l.isUnsigned hsign),
    ← toWord?_eq_some_iff, ← l.value?_text]
  cases value? l.text <;> simp

/-- Behind the mark of an immediate there is no plus. -/
theorem read_immediate_plus {body : List Char} (hbody : isUnsigned body = true) :
    read branch ('$' :: '+' :: body) =
      .error (.unrecognized (String.ofList ('$' :: '+' :: body))) := by
  have hsigned : isSigned ('+' :: body) = true := hbody
  have hform := MemoryForm.isFormChar_of_isSigned hsigned
  have hblank : ∀ c ∈ '$' :: '+' :: body, isBlank c = false :=
    List.forall_mem_cons.mpr
      ⟨by decide, fun c hc => IsOperandChar.isBlank_eq_false (Or.inr (hform c hc))⟩
  have hbracket : '(' ∉ '$' :: '+' :: body := by
    intro hmem
    exact MemoryForm.ne_bracket_of_isSigned hsigned '(' (by simpa using hmem) rfl
  have hnumeral : immediateNumeral? ('$' :: '+' :: body) = none := by
    cases h : immediateNumeral? ('$' :: '+' :: body) with
    | none => rfl
    | some numeral =>
      obtain ⟨heq, hplus⟩ := eq_of_immediateNumeral? h
      rw [← (List.cons.inj heq).2] at hplus
      exact absurd rfl hplus
  have htarget : targetOf? ('$' :: '+' :: body) = none := rfl
  rw [read, trim_of_no_blank hblank]
  unfold readTrimmed
  rw [if_neg (by simp), Register.ofName?_eq_none_of_isSeparator List.mem_cons_self (by decide),
    hnumeral, ofText?_eq_none hbracket, htarget]
  cases branch <;> rfl

theorem exists_literal_of_immediate {text : List Char} {o : Operand} {w : Int64}
    (h : read branch text = .ok o) (hmode : o.mode = .immediate w) :
    ∃ l : Literal, l.sign ≠ .plus ∧ trim text = '$' :: l.text ∧ w.toInt = l.value := by
  rcases read_cases h with ⟨-, rfl⟩ | ⟨r, -, rfl⟩ | ⟨numeral, v, hnumeral, hv, rfl⟩ |
    ⟨v, -, rfl⟩ | ⟨m, hm, hform⟩ | ⟨-, -, htarget⟩
  · simp [absent] at hmode
  · simp at hmode
  · obtain rfl : v = w := Mode.immediate.inj hmode
    obtain ⟨htext, hplus⟩ := eq_of_immediateNumeral? hnumeral
    obtain ⟨l, rfl, hvalue⟩ := exists_literal_iff.mpr (denotes_of_value? hv)
    refine ⟨l, ?_, htext, hvalue.symm⟩
    intro hsign
    exact hplus (by simp [Literal.text, hsign, Sign.text])
  · simp at hmode
  · obtain ⟨mode, symbol, offset, index, htakes, -, rfl⟩ :=
      exists_of_ofMemoryForm (MemoryForm.isWritten_of_ofText? hm).1 hform
    obtain rfl : mode = .immediate w := hmode
    cases htakes
  · rw [mode_of_targetOf? htarget] at hmode
    simp at hmode

theorem exists_literal_of_isMemory {text : List Char} {o : Operand}
    (h : read branch text = .ok o) (hmemory : o.isMemory = true) :
    ∃ m : MemoryForm, m.IsWritten ∧ trim text = m.render ∧
      (m.offset = [] ∧ o.offset.toInt = 0 ∨
        ∃ l : Literal, m.offset = l.text ∧ o.offset.toInt = l.value) := by
  obtain ⟨m, v, hliteral, htext, hstands⟩ := exists_isLiteral_of_isMemory h hmemory
  refine ⟨m, hliteral.isWritten, htext, ?_⟩
  rw [hstands.offset]
  rcases hliteral.offset with hnone | hdenotes
  · exact Or.inl hnone
  · obtain ⟨l, hl, hvalue⟩ := exists_literal_iff.mpr hdenotes
    exact Or.inr ⟨l, hl.symm, hvalue.symm⟩

/-! ## Both places -/

/--
A literal is read as its value, as an immediate and as an offset, exactly if that fits 64 bits with
a sign, and is faulty if it does not; an immediate takes no plus. Digits of which one is not of
ASCII are faulty in both places. Whatever is read as one of the two is the value of a literal in the
text.
-/
theorem read_integer (branch : Bool) :
    (∀ l : Literal,
      (l.sign ≠ .plus →
        ((∃ w : Int64, w.toInt = l.value ∧
          read branch ('$' :: l.text) = .ok { mode := .immediate w }) ↔ l.Fits) ∧
        (¬l.Fits →
          read branch ('$' :: l.text) = .error (.constant (String.ofList ('$' :: l.text))))) ∧
      (l.sign = .plus →
        read branch ('$' :: l.text) = .error (.unrecognized (String.ofList ('$' :: l.text))))) ∧
    (∀ (l : Literal) (m : MemoryForm), m.IsWritten → m.Admits l.sign →
      (∀ o, read branch m.render = .ok o →
        ((∃ w : Int64, w.toInt = l.value ∧
          read branch (m.withOffset l.text).render = .ok { o with offset := w }) ↔ l.Fits)) ∧
      (¬l.Fits → read branch (m.withOffset l.text).render =
        .error (.offset (String.ofList (m.withOffset l.text).render)))) ∧
    (∀ (sign : Sign) (digits : List Char), isDigits digits = true →
      (∃ c ∈ digits, c.isDigit = false) →
      (∃ cause, read branch ('$' :: (sign.text ++ digits)) = .error cause) ∧
      ∀ m : MemoryForm, m.IsWritten → m.Admits sign →
        read branch (m.withOffset (sign.text ++ digits)).render =
          .error (.offset (String.ofList (m.withOffset (sign.text ++ digits)).render))) ∧
    ∀ text o, read branch text = .ok o →
      (∀ w, o.mode = .immediate w →
        ∃ l : Literal, l.sign ≠ .plus ∧ trim text = '$' :: l.text ∧ w.toInt = l.value) ∧
      (o.isMemory = true → ∃ m : MemoryForm, m.IsWritten ∧ trim text = m.render ∧
        (m.offset = [] ∧ o.offset.toInt = 0 ∨
          ∃ l : Literal, m.offset = l.text ∧ o.offset.toInt = l.value)) := by
  refine ⟨fun l => ⟨fun hsign => ⟨?_, ?_⟩, ?_⟩, fun l m h hsign => ⟨?_, ?_⟩, ?_, ?_⟩
  · simp only [read_immediate_text_iff hsign, and_self]
    exact l.fits_iff.symm
  · intro hfits
    exact read_immediate_eq_error hsign l.isUnsigned (Literal.value?_text_eq_none hfits)
  · intro hsign
    have htext : l.text = '+' :: (l.radix.mark ++ l.digits) := by
      rw [Literal.text, hsign]
      rfl
    rw [htext]
    exact read_immediate_plus l.isUnsigned
  · intro o hread
    simp only [read_withOffset_text_iff h hsign hread, and_self]
    exact l.fits_iff.symm
  · intro hfits
    exact read_withOffset_eq_error h hsign l.isUnsigned (Literal.value?_text_eq_none hfits)
  · intro sign digits hdigits hforeign
    have hbody := isUnsigned_of_isDigits hdigits
    have hvalue : value? (sign.text ++ digits) = none :=
      value?_text_append_eq_none hdigits hforeign
    refine ⟨?_, fun m h hsign => read_withOffset_eq_error h hsign hbody hvalue⟩
    by_cases hplus : sign = .plus
    · rw [hplus]
      exact ⟨_, read_immediate_plus hbody⟩
    · exact ⟨_, read_immediate_eq_error hplus hbody hvalue⟩
  · intro text o hread
    exact ⟨fun w => exists_literal_of_immediate hread, exists_literal_of_isMemory hread⟩

/-- The least word, the integer below it, and a digit that is not of ASCII. -/
theorem read_integer_least :
    (∃ w : Int64, w.toInt = -2 ^ 63 ∧
      read false "$-0x8000000000000000".toList = .ok { mode := .immediate w } ∧
      read false "x-0x8000000000000000(SB)".toList =
        .ok { mode := .global, offset := w, symbol := some "x" }) ∧
    read false "$-9223372036854775809".toList = .error (.constant "$-9223372036854775809") ∧
    read false "x-9223372036854775809(SB)".toList =
      .error (.offset "x-9223372036854775809(SB)") ∧
    read false "$+1".toList = .error (.unrecognized "$+1") ∧
    (∃ cause, read false "$-٣".toList = .error cause) ∧
    read false "x-٣(SB)".toList = .error (.offset "x-٣(SB)") := by
  obtain ⟨himmediate, hoffset, hforeign, -⟩ := read_integer false
  let least : Literal :=
    ⟨.minus, .hexadecimal false, "8000000000000000".toList, by decide,
      List.all_eq_true.mp (by decide)⟩
  let below : Literal :=
    ⟨.minus, .decimal, "9223372036854775809".toList, by decide, List.all_eq_true.mp (by decide)⟩
  let one : Literal := ⟨.plus, .decimal, ['1'], by decide, List.all_eq_true.mp (by decide)⟩
  have hleast : least.value = -2 ^ 63 := by decide +kernel
  have hbelow : below.value = -2 ^ 63 - 1 := by decide +kernel
  have hfits : least.Fits := ⟨by omega, by omega⟩
  have hbeyond : ¬below.Fits := fun h => absurd h.1 (by omega)
  let m : MemoryForm :=
    { symbol := ['x'], isFileLocal := false, offset := [], base := "SB".toList, index := none }
  have hm : m.IsWritten :=
    (MemoryForm.isWritten_of_ofText?
      (show MemoryForm.ofText? "x(SB)".toList = some m by decide +kernel)).1
  have hread : read false m.render = .ok { mode := .global, symbol := some "x" } := by
    decide +kernel
  have hsign : m.Admits .minus := fun _ _ => by decide
  have hdigits : isDigits ['٣'] = true := by decide +kernel
  have hthree := hforeign .minus ['٣'] hdigits ⟨'٣', List.mem_singleton_self _, by decide⟩
  obtain ⟨w, hw, himmediate'⟩ := ((himmediate least).1 (by decide)).1.mpr hfits
  obtain ⟨w', hw', hoffset'⟩ := ((hoffset least m hm hsign).1 _ hread).mpr hfits
  obtain rfl : w' = w := Int64.toInt_inj.mp (hw'.trans hw.symm)
  exact ⟨⟨w', hw.trans hleast, himmediate', hoffset'⟩,
    ((himmediate below).1 (by decide)).2 hbeyond, (hoffset below m hm hsign).2 hbeyond,
    (himmediate one).2 rfl, hthree.1, hthree.2 m hm hsign⟩

end Operand

end Amd64Effects
