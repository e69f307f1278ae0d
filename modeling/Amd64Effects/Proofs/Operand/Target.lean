import Amd64Effects.Fault
import Amd64Effects.Proofs.Operand.RoundTrip

/-!
# Branch targets

Before a branch an operand may also be a target: a symbol or digits that name no register
(`SpellsTarget`). Such a text has no other meaning, for it holds neither the mark of an immediate
nor a bracket, and every other text means the same whether a target may stand in its place or not
(`readTrimmed_branch`). So a branch only adds targets to what can be read, and takes nothing away
(`read_branch`).
-/

namespace Amd64Effects

open Text

namespace Operand

/-- Whether a text is that of a branch target: a symbol or digits, but no register's name. -/
structure SpellsTarget (text : List Char) : Prop where
  shape : isName text = true ∨ isDigits text = true
  not_register : ∀ r : Register, upper text ≠ r.name.toList

/-! ## Targets -/

theorem targetOf?_eq_none_iff {text : List Char} :
    targetOf? text = none ↔ ¬(isName text = true ∨ isDigits text = true) := by
  unfold targetOf?
  split
  · next hdigits =>
    cases Numeral.value? text with
    | some position => simp [hdigits]
    | none => simp [hdigits]
  · next hdigits =>
    split
    · next hname => simp [hname]
    · next hname => simp [hname, hdigits]

namespace SpellsTarget

variable {text : List Char}

theorem ne_nil (h : SpellsTarget text) : text ≠ [] :=
  h.shape.elim ne_nil_of_isName ne_nil_of_isDigits

theorem isNameChar (h : SpellsTarget text) : ∀ c ∈ text, isNameChar c = true :=
  h.shape.elim isNameChar_of_isName isNameChar_of_isDigits

/-- Without a branch a target is not recognized. -/
theorem readTrimmed_false (h : SpellsTarget text) :
    readTrimmed false text = .error (.unrecognized (String.ofList text)) := by
  have not_mem : ∀ c, isSeparator c = true → c ∉ text := by
    intro c hc hmem
    exact ne_of_isSeparator (isSeparator_of_isNameChar (h.isNameChar c hmem)) hc rfl
  have hdollar := not_mem '$' (by decide)
  unfold readTrimmed
  rw [if_neg (by simpa using h.ne_nil), Register.ofName?_eq_none_iff.mpr h.not_register,
    immediateNumeral?_eq_none hdollar, floatImmediate?_eq_none hdollar,
    ofText?_eq_none (not_mem '(' (by decide))]
  rfl

theorem exists_readTrimmed_true (h : SpellsTarget text) :
    ∃ o, readTrimmed true text = .ok o ∧ o.mode = .target := by
  cases htarget : targetOf? text with
  | none => exact absurd h.shape (targetOf?_eq_none_iff.mp htarget)
  | some o =>
    have hregister := Register.ofName?_eq_none_iff.mpr h.not_register
    exact ⟨o, readTrimmed_target h.ne_nil h.isNameChar hregister htarget, mode_of_targetOf? htarget⟩

end SpellsTarget

/-! ## Other operands -/

/-- What is not a target means the same before a branch. -/
theorem readTrimmed_branch {text : List Char} (h : ¬SpellsTarget text) :
    readTrimmed true text = readTrimmed false text := by
  unfold readTrimmed
  cases hregister : Register.ofName? text with
  | some r => rfl
  | none =>
    have htarget : targetOf? text = none := by
      rw [targetOf?_eq_none_iff]
      exact fun hshape => h ⟨hshape, Register.ofName?_eq_none_iff.mp hregister⟩
    simp only [htarget, ite_self]

/-- Without a branch no target is read. -/
theorem mode_ne_target {text : List Char} {o : Operand} (h : read false text = .ok o) :
    o.mode ≠ .target := by
  intro hmode
  cases isReadable_of_read h with
  | position hbranch => exact absurd hbranch Bool.false_ne_true
  | label hbranch => exact absurd hbranch Bool.false_ne_true
  | memory offset htakes => cases htakes <;> simp at hmode
  | absent | register | immediate | floatImmediate => simp [absent] at hmode

/--
A branch only adds targets. What is read without one is read before one as the same operand; what is
read before a branch is read without one unless it is a target; a text is read as a target exactly
if it is a symbol or digits and names no register, and these are the texts that have a meaning only
before a branch, and are not recognized without one; and what cannot be read either way has the same
fault both ways.
-/
theorem read_branch (text : List Char) :
    (∀ o, read false text = .ok o → read true text = .ok o) ∧
    (∀ o, read true text = .ok o → o.mode ≠ .target → read false text = .ok o) ∧
    ((∃ o, read true text = .ok o ∧ o.mode = .target) ↔ SpellsTarget (trim text)) ∧
    ((∃ cause, read false text = .error cause ∧ (Fault.line cause).kind = .text) ∧
      (∃ o, read true text = .ok o) ↔ SpellsTarget (trim text)) ∧
    (SpellsTarget (trim text) →
      read false text = .error (.unrecognized (String.ofList (trim text)))) ∧
    ∀ cause cause', read false text = .error cause → read true text = .error cause' →
      cause = cause' := by
  by_cases h : SpellsTarget (trim text)
  · obtain ⟨target, htrue, hmode⟩ : ∃ o, read true text = .ok o ∧ o.mode = .target :=
      h.exists_readTrimmed_true
    have hfalse : read false text = .error (.unrecognized (String.ofList (trim text))) :=
      h.readTrimmed_false
    refine ⟨?_, ?_, iff_of_true ⟨target, htrue, hmode⟩ h,
      iff_of_true ⟨⟨_, hfalse, rfl⟩, target, htrue⟩ h, fun _ => hfalse, ?_⟩
    · intro o ho
      simp [hfalse] at ho
    · intro o ho hne
      obtain rfl : target = o := Except.ok.inj (htrue.symm.trans ho)
      exact absurd hmode hne
    · intro cause cause' _ herror
      simp [htrue] at herror
  · have heq : read true text = read false text := readTrimmed_branch h
    rw [heq]
    refine ⟨fun o ho => ho, fun o ho _ => ho, iff_of_false ?_ h, iff_of_false ?_ h,
      fun hspells => absurd hspells h, ?_⟩
    · rintro ⟨o, ho, hmode⟩
      exact mode_ne_target ho hmode
    · rintro ⟨⟨cause, herror, -⟩, o, ho⟩
      simp [herror] at ho
    · intro cause cause' herror herror'
      exact Except.error.inj (herror.symm.trans herror')

end Operand

end Amd64Effects
