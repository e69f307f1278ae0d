import Amd64Effects.Proofs.Operand.RoundTrip

/-!
# Digits in three places

Digits may stand behind the mark of an immediate, in front of a base register, and, in a branch, on
their own. Where they have a value the three operands denote it. Digits have no value if one of them
is not of ASCII or if they stand for too great a number (`value?_eq_none_of_isDigits`). Then the
first two operands are faulty, but a branch takes the digits for a label (`read_digits`); labels of
that kind are the only ones that begin with a digit.
-/

namespace Amd64Effects

open Text

namespace Operand

/-! ## The three places -/

section

variable {digits : List Char} (h : isDigits digits = true)

include h

theorem isBlank_of_isDigits : ∀ c ∈ digits, isBlank c = false :=
  fun c hc => isBlank_of_isNameChar (isNameChar_of_isDigits h c hc)

theorem read_immediate_of_isDigits (branch : Bool) :
    read branch ('$' :: digits) = match Numeral.value? digits with
      | some v => .ok { mode := .immediate v }
      | none => .error (.constant (String.ofList ('$' :: digits))) :=
  read_immediate (Numeral.isSigned_of_isDigits h)
    (Numeral.head?_ne_plus_of_isUnsigned (Numeral.isUnsigned_of_isDigits h)) branch

theorem read_offset_of_isDigits (branch : Bool) :
    read branch (digits ++ "(AX)".toList) = match Numeral.value? digits with
      | some v => .ok { mode := .indirect .ax, offset := v }
      | none => .error (.offset (String.ofList (digits ++ "(AX)".toList))) := by
  let m : MemoryForm :=
    { symbol := [], isFileLocal := false, offset := digits, base := "AX".toList, index := none }
  have hm : m.IsWritten :=
    { symbol := Or.inl rfl
      offset := Or.inr (Numeral.isSigned_of_isDigits h)
      sign := fun hne _ => absurd rfl hne
      base_ne_nil := ne_nil_of_isWord Register.ax.isWord_name
      base := isAlphanum_of_isWord Register.ax.isWord_name
      index := by simp [m] }
  have hrender : digits ++ "(AX)".toList = m.render := rfl
  rw [hrender, read_render_form hm]
  unfold ofMemoryForm
  rw [if_neg (by simpa using ne_nil_of_isDigits h)]
  cases Numeral.value? m.offset <;> rfl

theorem read_target_of_isDigits :
    read true digits = match Numeral.value? digits with
      | some v => .ok { mode := .target, offset := v }
      | none => .ok { mode := .target, symbol := some (String.ofList digits) } := by
  have htarget : ∀ o, targetOf? digits = some o → read true digits = .ok o := by
    intro o ho
    rw [read, trim_of_no_blank (isBlank_of_isDigits h)]
    exact readTrimmed_target (ne_nil_of_isDigits h) (isNameChar_of_isDigits h)
      (Register.ofName?_eq_none_of_isDigits h) ho
  unfold targetOf? at htarget
  rw [if_pos h] at htarget
  cases hvalue : Numeral.value? digits with
  | some v => exact htarget _ (by rw [hvalue])
  | none => exact htarget _ (by rw [hvalue])

end

/-! ## Labels -/

/-- A label that begins with a digit is made of digits without a value. -/
theorem isDigits_of_label {branch : Bool} {text name : List Char} {o : Operand} {c : Char}
    (hread : read branch text = .ok o) (hmode : o.mode = .target)
    (hsymbol : o.symbol = some (String.ofList (c :: name))) (hc : isDecimalDigit c = true) :
    isDigits (c :: name) = true ∧ Numeral.value? (c :: name) = none := by
  cases isReadable_of_read hread with
  | label hbranch hregister hlabel =>
    rw [Option.some.inj hsymbol, String.toList_ofList] at hlabel
    rcases hlabel with hname | hdigits
    · rw [isName_cons, isNameStart_of_isDecimalDigit hc] at hname
      exact absurd hname (by simp)
    · exact hdigits
  | position => simp at hsymbol
  | memory offset htakes => cases htakes <;> simp at hmode
  | absent | register | immediate | floatImmediate => simp [absent] at hmode

/-! ## Agreement -/

/--
Digits of ASCII for a number below `2^63` denote it as an immediate, as an offset and as the target
of a branch. Other digits are refused as the first two, but as a target they are a label; and a
label that begins with a digit is made of such digits.
-/
theorem read_digits (digits : List Char) :
    (isDigits digits = true →
      ((∀ c ∈ digits, c.isDigit = true) ∧ Numeral.decimalValue digits < 2 ^ 63 ∧
        ∃ v : Int64, v.toInt = Numeral.decimalValue digits ∧
          read false ('$' :: digits) = .ok { mode := .immediate v } ∧
          read false (digits ++ "(AX)".toList) = .ok { mode := .indirect .ax, offset := v } ∧
          read true digits = .ok { mode := .target, offset := v }) ∨
      (((∃ c ∈ digits, c.isDigit = false) ∨ 2 ^ 63 ≤ Numeral.decimalValue digits) ∧
        read false ('$' :: digits) = .error (.constant (String.ofList ('$' :: digits))) ∧
        read false (digits ++ "(AX)".toList) =
          .error (.offset (String.ofList (digits ++ "(AX)".toList))) ∧
        read true digits = .ok { mode := .target, symbol := some (String.ofList digits) })) ∧
    ∀ branch text o c rest, read branch text = .ok o → o.mode = .target →
      o.symbol = some (String.ofList digits) → digits = c :: rest → isDecimalDigit c = true →
      isDigits digits = true ∧
        ((∃ d ∈ digits, d.isDigit = false) ∨ 2 ^ 63 ≤ Numeral.decimalValue digits) := by
  constructor
  · intro h
    have himmediate := read_immediate_of_isDigits h false
    have hoffset := read_offset_of_isDigits h false
    have htarget := read_target_of_isDigits h
    cases hvalue : Numeral.value? digits with
    | none =>
      rw [hvalue] at himmediate hoffset htarget
      exact Or.inr ⟨(Numeral.value?_eq_none_of_isDigits h).mp hvalue, himmediate, hoffset, htarget⟩
    | some v =>
      rw [hvalue] at himmediate hoffset htarget
      obtain ⟨hascii, hv⟩ := (Numeral.value?_eq_some_of_isDigits h).mp hvalue
      have hlt : v.toInt < 2 ^ 63 := v.toInt_lt
      exact Or.inl ⟨hascii, by omega, v, hv, himmediate, hoffset, htarget⟩
  · rintro branch text o c rest hread hmode hsymbol rfl hc
    obtain ⟨hdigits, hvalue⟩ := isDigits_of_label hread hmode hsymbol hc
    exact ⟨hdigits, (Numeral.value?_eq_none_of_isDigits hdigits).mp hvalue⟩

theorem read_digits_greatest :
    isDigits "9223372036854775807".toList = true ∧ ∃ v : Int64, v.toInt = 2 ^ 63 - 1 ∧
      read false "$9223372036854775807".toList = .ok { mode := .immediate v } ∧
      read false "9223372036854775807(AX)".toList = .ok { mode := .indirect .ax, offset := v } ∧
      read true "9223372036854775807".toList = .ok { mode := .target, offset := v } := by
  have hdigits : isDigits "9223372036854775807".toList = true := by decide
  have hvalue : Numeral.decimalValue "9223372036854775807".toList = 2 ^ 63 - 1 := by decide
  rcases (read_digits _).1 hdigits with ⟨-, -, v, hv, hreads⟩ | ⟨hnone, -⟩
  · rw [hvalue] at hv
    exact ⟨hdigits, v, hv, hreads⟩
  · have hascii : "9223372036854775807".toList.all Char.isDigit = true := by decide
    rcases hnone with ⟨c, hc, hfalse⟩ | hlarge
    · exact absurd (List.all_eq_true.mp hascii c hc) (by simp [hfalse])
    · rw [hvalue] at hlarge
      exact absurd hlarge (by decide)

/-- The number is one too great for a word: the target alone is accepted. -/
theorem not_forall_read_digits :
    ¬∀ digits, isDigits digits = true →
      (∃ v : Int64, read false ('$' :: digits) = .ok { mode := .immediate v } ∧
        read false (digits ++ "(AX)".toList) = .ok { mode := .indirect .ax, offset := v } ∧
        read true digits = .ok { mode := .target, offset := v }) ∨
      ∃ e₁ e₂ e₃, read false ('$' :: digits) = .error e₁ ∧
        read false (digits ++ "(AX)".toList) = .error e₂ ∧ read true digits = .error e₃ := by
  intro h
  have htarget : read true "9223372036854775808".toList =
      .ok { mode := .target, symbol := some "9223372036854775808" } := by decide +kernel
  rcases h "9223372036854775808".toList (by decide) with ⟨v, -, -, hv⟩ | ⟨-, -, e, -, -, he⟩
  · rw [htarget] at hv
    simp at hv
  · rw [htarget] at he
    simp at he

end Operand

end Amd64Effects
