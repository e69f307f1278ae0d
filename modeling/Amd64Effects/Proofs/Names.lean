import Amd64Effects.Opcode
import Amd64Effects.Proofs.Text.Classes
import Amd64Effects.Register

/-!
# Names of registers and opcodes

A name is made of letters and digits of ASCII and begins with a letter, so a text that holds
anything else, or that begins with a digit, names nothing. No two opcodes have one name
(`Opcode.name_injective`): an opcode is found under each way of writing its name
(`Opcode.ofName?_of_upper`).
-/

namespace Amd64Effects

namespace Text

/-! ## Letter case -/

/-- Only small letters are changed, and all by the same difference. -/
theorem toNat_toUpper (c : Char) :
    c.toUpper.toNat = if c.isLower = true then c.toNat - 32 else c.toNat := by
  unfold Char.toUpper
  split
  · next h =>
    have hlow : 97 ≤ c.toNat := UInt32.le_iff_toNat_le.mp h.1
    have hhigh : c.toNat ≤ 122 := UInt32.le_iff_toNat_le.mp h.2
    rw [if_pos (isLower_iff.mpr ⟨hlow, hhigh⟩)]
    -- a negative difference is added as a word, and the sum wraps
    change (c.val + 4294967264).toNat = c.val.toNat - 32
    rw [UInt32.toNat_add]
    simp only [Char.toNat, UInt32.reduceToNat] at hlow hhigh ⊢
    omega
  · next h =>
    rw [if_neg]
    intro hlower
    obtain ⟨hlow, hhigh⟩ := isLower_iff.mp hlower
    exact h ⟨UInt32.le_iff_toNat_le.mpr hlow, UInt32.le_iff_toNat_le.mpr hhigh⟩

theorem toUpper_eq_or_isLower (c : Char) : c.toUpper = c ∨ c.isLower = true := by
  rw [← Char.toNat_inj, toNat_toUpper]
  split
  · next hlower => exact Or.inr hlower
  · exact Or.inl rfl

theorem toUpper_toUpper (c : Char) : c.toUpper.toUpper = c.toUpper := by
  refine (toUpper_eq_or_isLower c.toUpper).resolve_right ?_
  -- a capital is no small letter, and what was no small letter is still none
  rw [isLower_iff, toNat_toUpper]
  split
  · next hlower =>
    have hbounds := isLower_iff.mp hlower
    omega
  · next hlower => rwa [← isLower_iff]

theorem upper_upper (text : List Char) : upper (upper text) = upper text := by
  unfold upper
  rw [List.map_map]
  exact List.map_congr_left fun c _ => toUpper_toUpper c

theorem isAlphanum_of_isAlpha {c : Char} (h : c.isAlpha = true) : c.isAlphanum = true :=
  Bool.or_eq_true_iff.mpr (Or.inl h)

theorem isAlpha_of_isAlpha_toUpper {c : Char} (h : c.toUpper.isAlpha = true) :
    c.isAlpha = true := by
  rcases toUpper_eq_or_isLower c with heq | hlower
  · rwa [heq] at h
  · exact Bool.or_eq_true_iff.mpr (Or.inr hlower)

theorem isAlphanum_of_isAlphanum_toUpper {c : Char} (h : c.toUpper.isAlphanum = true) :
    c.isAlphanum = true := by
  rcases toUpper_eq_or_isLower c with heq | hlower
  · rwa [heq] at h
  · exact isAlphanum_of_isAlpha (Bool.or_eq_true_iff.mpr (Or.inr hlower))

/-- Whether a text could be a name: letters and digits, a letter first. -/
def isWord : List Char → Bool
  | [] => false
  | c :: rest => c.isAlpha && rest.all Char.isAlphanum

theorem isWord_cons {c : Char} {rest : List Char} :
    isWord (c :: rest) = true ↔ c.isAlpha = true ∧ ∀ d ∈ rest, d.isAlphanum = true := by
  simp [isWord]

/-- Whatever the case of its letters, a word stays one. -/
theorem isWord_of_isWord_upper {text : List Char} (h : isWord (upper text) = true) :
    isWord text = true := by
  cases text with
  | nil => exact h
  | cons c rest =>
    rw [upper_cons, isWord_cons] at h
    refine isWord_cons.mpr ⟨isAlpha_of_isAlpha_toUpper h.1, fun d hd => ?_⟩
    exact isAlphanum_of_isAlphanum_toUpper (h.2 d.toUpper (List.mem_map_of_mem hd))

theorem ne_nil_of_isWord {text : List Char} (h : isWord text = true) : text ≠ [] := by
  rintro rfl
  exact Bool.false_ne_true h

theorem isAlphanum_of_isWord {text : List Char} (h : isWord text = true) :
    ∀ c ∈ text, c.isAlphanum = true := by
  cases text with
  | nil => simp
  | cons d rest =>
    rw [isWord_cons] at h
    intro c hc
    rcases List.mem_cons.mp hc with rfl | hc
    · exact isAlphanum_of_isAlpha h.1
    · exact h.2 c hc

/-- A number in which the characters of a text are digits, to compare names quickly. -/
def weight (text : List Char) : Nat :=
  text.foldl (fun n c => 256 * n + c.toNat) 0

end Text

namespace Register

theorem isWord_name (r : Register) : Text.isWord r.name.toList = true := by
  cases r <;> decide

theorem upper_name (r : Register) : Text.upper r.name.toList = r.name.toList := by
  cases r <;> decide

theorem upper_eq_name {text : List Char} {r : Register} (h : ofName? text = some r) :
    Text.upper text = r.name.toList := by
  have heq := List.find?_some h
  exact (beq_iff_eq.mp heq).symm

theorem isWord_of_ofName? {text : List Char} {r : Register} (h : ofName? text = some r) :
    Text.isWord text = true := by
  refine Text.isWord_of_isWord_upper ?_
  rw [upper_eq_name h]
  exact isWord_name r

/-- A text with a separator in it names no register. -/
theorem ofName?_eq_none_of_isSeparator {text : List Char} {c : Char} (hc : c ∈ text)
    (h : Text.isSeparator c = true) : ofName? text = none := by
  cases hr : ofName? text with
  | none => rfl
  | some r =>
    have halnum := Text.isAlphanum_of_isWord (isWord_of_ofName? hr) c hc
    have hname := Text.isNameChar_of_isAlphanum halnum
    rw [Text.isNameChar_of_isSeparator h] at hname
    exact absurd hname Bool.false_ne_true

/-- A text that begins with a digit names no register. -/
theorem ofName?_eq_none_of_isDigits {text : List Char} (h : Text.isDigits text = true) :
    ofName? text = none := by
  cases hr : ofName? text with
  | none => rfl
  | some r =>
    obtain ⟨c, rest, rfl, hc⟩ := Text.exists_cons_of_isDigits h
    have halpha := (Text.isWord_cons.mp (isWord_of_ofName? hr)).1
    have hstart := Text.isNameStart_of_isDecimalDigit hc
    simp [Text.isNameStart, halpha] at hstart

theorem isSse_of_generalOfName? {text : List Char} {r : Register}
    (h : generalOfName? text = some r) : r.isSse = false := by
  unfold generalOfName? at h
  simpa using (Option.filter_eq_some_iff.mp h).2

/-- A register is found under its name in any letter case. -/
theorem ofName?_of_upper {text : List Char} {r : Register}
    (h : Text.upper text = r.name.toList) : ofName? text = some r := by
  have hname := ofName?_name r
  unfold ofName? at hname ⊢
  rwa [upper_name, ← h] at hname

theorem ofName?_eq_none_iff {text : List Char} :
    ofName? text = none ↔ ∀ r : Register, Text.upper text ≠ r.name.toList := by
  constructor
  · intro hnone r hr
    rw [ofName?_of_upper hr] at hnone
    simp at hnone
  · intro h
    cases hr : ofName? text with
    | none => rfl
    | some r => exact absurd (upper_eq_name hr) (h r)

theorem generalOfName?_eq_some_iff {text : List Char} {r : Register} :
    generalOfName? text = some r ↔ r.isSse = false ∧ Text.upper text = r.name.toList := by
  constructor
  · intro h
    exact ⟨isSse_of_generalOfName? h, upper_eq_name (Option.filter_eq_some_iff.mp h).1⟩
  · rintro ⟨hgeneral, hupper⟩
    unfold generalOfName?
    rw [ofName?_of_upper hupper, Option.filter_some, if_pos (by simp [hgeneral])]

theorem generalOfName?_name {r : Register} (h : r.isSse = false) :
    generalOfName? r.name.toList = some r :=
  generalOfName?_eq_some_iff.mpr ⟨h, r.upper_name⟩

end Register

namespace Opcode

/-- A name is a word in capital letters. -/
theorem name_spec (op : Opcode) :
    Text.isWord op.name.toList = true ∧ Text.upper op.name.toList = op.name.toList := by
  have hall : ∀ op ∈ all,
      Text.isWord op.name.toList = true ∧ Text.upper op.name.toList = op.name.toList := by
    decide +kernel
  exact hall op (mem_all op)

theorem name_injective {a b : Opcode} (h : a.name = b.name) : a = b := by
  -- the names are compared by their weights: there are too many pairs to compare lists
  have hall : ∀ op ∈ all,
      (all.find? fun b => Nat.beq (Text.weight b.name.toList) (Text.weight op.name.toList)) =
        some op := by decide +kernel
  have ha := hall a (mem_all a)
  rw [h, hall b (mem_all b)] at ha
  exact (Option.some.inj ha).symm

theorem upper_eq_name {text : List Char} {op : Opcode} (h : ofName? text = some op) :
    Text.upper text = op.name.toList := by
  have heq := List.find?_some h
  exact (beq_iff_eq.mp heq).symm

/-- An opcode is found under its name in any letter case. -/
theorem ofName?_of_upper {text : List Char} {op : Opcode}
    (h : Text.upper text = op.name.toList) : ofName? text = some op := by
  cases hfind : ofName? text with
  | none =>
    have hnone := List.find?_eq_none.mp hfind op (mem_all op)
    exact absurd (beq_iff_eq.mpr h.symm) hnone
  | some b =>
    have hb := upper_eq_name hfind
    rw [h, String.toList_inj] at hb
    rw [name_injective hb]

/-- A way of writing an opcode's name is a word. -/
theorem isWord_of_upper {text : List Char} {op : Opcode} (h : Text.upper text = op.name.toList) :
    Text.isWord text = true := by
  refine Text.isWord_of_isWord_upper ?_
  rw [h]
  exact op.name_spec.1

end Opcode

end Amd64Effects
