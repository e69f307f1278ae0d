import Amd64Effects.Fault
import Amd64Effects.Proofs.Statement

/-!
# Lines that hold no instruction

A listing leaves out the lines that hold no instruction, so a line must not be taken for one of them
by mistake. What counts is the code of a line, up to the first place where a comment can begin
(`Divides`): if it is blank, or a label alone, the line holds no instruction, and every other line
holds one or is faulty (`read_eq_none_iff`). The comment has no part in that (`read_divides`).
-/

namespace Amd64Effects

open Text

namespace Statement

/-! ## Code and comment -/

/-- A line is divided into code and a comment where the first comment begins, or at its end. -/
structure Divides (line code comment : List Char) : Prop where
  line_eq : line = code ++ comment
  isComment : IsComment comment
  earliest : ∀ front back, line = front ++ back → front.length < code.length → ¬IsComment back

theorem code_cons {c : Char} {rest : List Char} (h : ¬IsComment (c :: rest)) :
    code (c :: rest) = c :: code rest := by
  rw [code]
  · rintro rfl
    exact h (.semicolon rest)
  · rintro text rfl rfl
    exact h (.slashes text)

theorem exists_divides (line : List Char) : ∃ comment, Divides line (code line) comment := by
  induction line with
  | nil => exact ⟨[], rfl, .absent, fun front _ _ hlt => absurd hlt (Nat.not_lt_zero _)⟩
  | cons c rest ih =>
    by_cases hcomment : IsComment (c :: rest)
    · rw [code_comment hcomment]
      exact ⟨c :: rest, rfl, hcomment, fun front _ _ hlt => absurd hlt (Nat.not_lt_zero _)⟩
    · obtain ⟨comment, hline, hrest, hearliest⟩ := ih
      rw [code_cons hcomment]
      refine ⟨comment, congrArg (c :: ·) hline, hrest, ?_⟩
      intro front back heq hlt
      cases front with
      | nil => rwa [← show c :: rest = back from heq]
      | cons d front =>
        exact hearliest front back (List.cons.inj heq).2 (Nat.lt_of_succ_lt_succ hlt)

/-- There is one place only where a line can be divided. -/
theorem Divides.code_eq {line front comment : List Char} (h : Divides line front comment) :
    code line = front := by
  induction front generalizing line with
  | nil =>
    rw [h.line_eq]
    exact code_comment h.isComment
  | cons c front ih =>
    obtain ⟨rfl, hcomment, hearliest⟩ := h
    have hnot : ¬IsComment (c :: (front ++ comment)) :=
      hearliest [] _ rfl (Nat.zero_lt_succ _)
    rw [List.cons_append, code_cons hnot, ih ⟨rfl, hcomment, ?_⟩]
    intro front' back heq hlt
    exact hearliest (c :: front') back (congrArg (c :: ·) heq) (Nat.succ_lt_succ hlt)

/-! ## Labels alone -/

/-- Code that is a label with its colon, and blanks around them, and nothing else. -/
inductive IsLabelAlone : List Char → Prop
  | intro {indent name gap tail : List Char} (hindent : ∀ c ∈ indent, isBlank c = true)
      (hname : isName name = true) (hgap : ∀ c ∈ gap, isBlank c = true)
      (htail : ∀ c ∈ tail, isBlank c = true) :
      IsLabelAlone (indent ++ (name ++ (gap ++ ':' :: tail)))

/-- What stands in front of the body that was found is a label. -/
theorem eq_of_afterLabel? {text body : List Char} (h : afterLabel? text = some body) :
    ∃ indent name gap, (∀ c ∈ indent, isBlank c = true) ∧ isName name = true ∧
      (∀ c ∈ gap, isBlank c = true) ∧ text = indent ++ (name ++ (gap ++ ':' :: body)) := by
  unfold afterLabel? at h
  split at h
  · simp at h
  · next c rest hskip =>
    split at h
    · next hstart =>
      split at h
      · next body' hcolon =>
        obtain rfl := Option.some.inj h
        refine ⟨text.takeWhile isBlank, c :: rest.takeWhile isNameChar,
          (rest.dropWhile isNameChar).takeWhile isBlank, fun d hd => List.mem_takeWhile_imp hd, ?_,
          fun d hd => List.mem_takeWhile_imp hd, ?_⟩
        · rw [isName_cons, hstart, List.all_takeWhile, Bool.and_self]
        · rw [← hcolon, skipBlanks, List.takeWhile_append_dropWhile, List.cons_append,
            List.takeWhile_append_dropWhile, ← hskip, skipBlanks, List.takeWhile_append_dropWhile]
      · simp at h
    · simp at h

theorem isLabelAlone_iff {text : List Char} :
    IsLabelAlone text ↔ ∃ body, afterLabel? text = some body ∧ allBlank body = true := by
  constructor
  · rintro ⟨hindent, hname, hgap, htail⟩
    exact ⟨_, afterLabel?_label hindent hname hgap _, allBlank_iff.mpr htail⟩
  · rintro ⟨body, hbody, hblank⟩
    obtain ⟨indent, name, gap, hindent, hname, hgap, rfl⟩ := eq_of_afterLabel? hbody
    exact .intro hindent hname hgap (allBlank_iff.mp hblank)

theorem afterLabel?_of_blank {text : List Char} (h : allBlank text = true) :
    afterLabel? text = none := by
  unfold afterLabel?
  rw [skipBlanks_eq_nil_iff.mpr h]

/-! ## Code without a statement -/

theorem body?_eq_some_none_iff {text : List Char} :
    body? text = some none ↔ allBlank text = true := by
  rw [← skipBlanks_eq_nil_iff]
  unfold body?
  split
  · next hskip => simp [hskip]
  · next c rest hskip =>
    rw [hskip]
    split <;> simp

theorem ofCode?_eq_some_none_iff {text : List Char} :
    ofCode? text = some none ↔ allBlank text = true ∨ IsLabelAlone text := by
  rw [isLabelAlone_iff]
  unfold ofCode?
  cases hlabel : afterLabel? text with
  | none => simp [body?_eq_some_none_iff]
  | some body =>
    have htext : allBlank text ≠ true := by
      intro hblank
      rw [afterLabel?_of_blank hblank] at hlabel
      simp at hlabel
    have hbody : allBlank body = true ↔ body? body = some none := body?_eq_some_none_iff.symm
    cases hheld : body? body with
    -- what follows the colon is no body, so the line is tried without a label
    | none => simp [hheld, body?_eq_some_none_iff, hbody]
    | some held => simp [hheld, htext, hbody]

end Statement

/-! ## Lines -/

namespace Instruction

open Statement (code Divides IsLabelAlone)

theorem read_eq_none_iff {line : List Char} :
    read line = .ok none ↔ allBlank (code line) = true ∨ IsLabelAlone (code line) := by
  rw [← Statement.ofCode?_eq_some_none_iff]
  unfold read
  simp only
  split
  · next hblank => simp [Statement.ofCode?_eq_some_none_iff, hblank]
  · split
    · next hnone => simp [hnone]
    · next hsome => simp [hsome]
    · next s hsome =>
      rw [hsome]
      cases ofStatement s <;> simp [Except.map]

theorem read_congr_code {line other : List Char} (h : code line = code other) :
    read line = read other := by
  unfold read
  rw [h]

/--
Each line is divided into code and a comment in one way, and its code decides alone what is read. No
instruction is found exactly if the code is blank or a label alone. Every other line is an
instruction or has a fault of syntax.
-/
theorem read_divides (line : List Char) :
    ∃ front comment, Divides line front comment ∧
      (∀ front' comment', Divides line front' comment' → front' = front) ∧
      (read line = .ok none ↔ allBlank front = true ∨ IsLabelAlone front) ∧
      (¬(allBlank front = true ∨ IsLabelAlone front) →
        (∃ i, read line = .ok (some i)) ∨
          ∃ cause, read line = .error cause ∧ (Fault.line cause).kind = .text) ∧
      ∀ other comment', Divides other front comment' → read other = read line := by
  obtain ⟨comment, hdivides⟩ := Statement.exists_divides line
  refine ⟨code line, comment, hdivides, ?_, read_eq_none_iff, ?_, ?_⟩
  · exact fun _ _ h => h.code_eq.symm
  · intro hother
    cases hread : read line with
    | error cause => exact Or.inr ⟨cause, rfl, rfl⟩
    | ok held =>
      cases held with
      | none => exact absurd (read_eq_none_iff.mp hread) hother
      | some i => exact Or.inl ⟨i, rfl⟩
  · exact fun _ _ h => read_congr_code h.code_eq

-- a slash that the comment begins with is no part of the code
example : code "RET ///x".toList = "RET ".toList ∧ read " a·b : // none".toList = .ok none := by
  decide +kernel

end Instruction

end Amd64Effects
