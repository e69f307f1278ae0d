import Amd64Effects.Proofs.Names
import Amd64Effects.Proofs.Text.Pieces
import Amd64Effects.Statement

/-!
# A line is taken apart where it was put together

Each step of taking a line apart ends at the mark that was put there: the code at its comment, the
label at its colon, the mnemonic at the first blank. A word is not mistaken for a label unless a
colon stands behind it.
-/

namespace Amd64Effects.Statement

open Text

/-! ## Comments -/

/-- Nothing, or a comment with its mark. -/
inductive IsComment : List Char → Prop
  | absent : IsComment []
  | semicolon (text : List Char) : IsComment (';' :: text)
  | slashes (text : List Char) : IsComment ('/' :: '/' :: text)

/-- Whether a character can begin no comment. -/
def IsCodeChar (c : Char) : Prop :=
  c ≠ ';' ∧ c ≠ '/'

theorem isCodeChar_of_not_isSeparator {c : Char} (h : isSeparator c = false) : IsCodeChar c :=
  ⟨ne_of_isSeparator h (by decide), ne_of_isSeparator h (by decide)⟩

theorem isCodeChar_of_isNameChar {c : Char} (h : isNameChar c = true) : IsCodeChar c :=
  isCodeChar_of_not_isSeparator (isSeparator_of_isNameChar h)

theorem isCodeChar_of_isBlank {c : Char} (h : isBlank c = true) : IsCodeChar c :=
  isCodeChar_of_not_isSeparator (isSeparator_of_isBlank h)

theorem code_append {text : List Char} (h : ∀ c ∈ text, IsCodeChar c) (rest : List Char) :
    code (text ++ rest) = text ++ code rest := by
  induction text with
  | nil => rfl
  | cons c text ih =>
    obtain ⟨hsemicolon, hslash⟩ := h c List.mem_cons_self
    rw [List.cons_append, List.cons_append, code]
    · rw [ih fun d hd => h d (List.mem_cons_of_mem c hd)]
    · exact hsemicolon
    · intro _ hc
      exact absurd hc hslash

theorem code_comment {text : List Char} (h : IsComment text) : code text = [] := by
  cases h <;> rfl

/-- The code of a line is what stands before its comment. -/
theorem code_append_comment {text comment : List Char} (h : ∀ c ∈ text, IsCodeChar c)
    (hcomment : IsComment comment) : code (text ++ comment) = text := by
  rw [code_append h, code_comment hcomment, List.append_nil]

/-! ## Labels -/

theorem afterLabel?_label {indent name gap : List Char} (hindent : ∀ c ∈ indent, isBlank c = true)
    (hname : isName name = true) (hgap : ∀ c ∈ gap, isBlank c = true) (body : List Char) :
    afterLabel? (indent ++ (name ++ (gap ++ ':' :: body))) = some body := by
  have hcolon : StopsAt isBlank (':' :: body) := stopsAt_cons.mpr (by decide)
  have hstop : StopsAt isNameChar (gap ++ ':' :: body) := by
    refine StopsAt.append (fun c hc => isNameChar_of_isBlank (hgap c hc)) ?_
    exact stopsAt_cons.mpr (isNameChar_of_isSeparator (by decide))
  cases name with
  | nil => exact absurd rfl (ne_nil_of_isName hname)
  | cons c name =>
    rw [isName_cons, Bool.and_eq_true, List.all_eq_true] at hname
    have hblank := isBlank_of_isNameChar (isNameChar_of_isNameStart hname.1)
    unfold afterLabel?
    rw [skipBlanks_append hindent, List.cons_append,
      skipBlanks_of_stopsAt (stopsAt_cons.mpr hblank)]
    simp only
    rw [if_pos hname.1, dropWhile_run hname.2 hstop, skipBlanks_append hgap,
      skipBlanks_of_stopsAt hcolon]
    rfl

/-- A word without a colon behind it is no label. -/
theorem afterLabel?_word {indent word rest : List Char} (hindent : ∀ c ∈ indent, isBlank c = true)
    (hword : ∀ c ∈ word, isNameChar c = true) (hne : word ≠ []) (hstop : StopsAt isNameChar rest)
    (hcolon : ':' ∉ rest) : afterLabel? (indent ++ (word ++ rest)) = none := by
  -- whatever comes behind the word and its blanks is no colon
  have hskip : ':' ∉ skipBlanks rest := fun hmem => hcolon (List.dropWhile_sublist _ |>.mem hmem)
  cases word with
  | nil => exact absurd rfl hne
  | cons c word =>
    have hblank := isBlank_of_isNameChar (hword c List.mem_cons_self)
    have hrest := fun d hd => hword d (List.mem_cons_of_mem c hd)
    unfold afterLabel?
    rw [skipBlanks_append hindent, List.cons_append,
      skipBlanks_of_stopsAt (stopsAt_cons.mpr hblank)]
    simp only
    rw [dropWhile_run hrest hstop]
    split
    · split
      · next heq => exact absurd (by simp [heq]) hskip
      · rfl
    · rfl

/-! ## Bodies -/

/-- Whether a character ends neither a label nor the code nor the line. -/
def IsTailChar (c : Char) : Prop :=
  c ∉ [':', ';', '/', '\n']

instance : DecidablePred IsTailChar :=
  fun c => inferInstanceAs (Decidable (c ∉ [':', ';', '/', '\n']))

theorem IsTailChar.isCodeChar {c : Char} (h : IsTailChar c) : IsCodeChar c := by
  simp only [IsTailChar, List.mem_cons, not_or] at h
  exact ⟨h.2.1, h.2.2.1⟩

/-- What can stand behind a mnemonic: nothing, or a blank and then any arguments. -/
structure IsTail (text : List Char) : Prop where
  blank : ∀ c ∈ text.head?, isBlank c = true
  chars : ∀ c ∈ text, IsTailChar c

theorem isTail_nil : IsTail [] where
  blank := by simp
  chars := by simp

theorem IsTail.stopsAt {p : Char → Bool} {text : List Char} (h : IsTail text)
    (hp : ∀ c, isBlank c = true → p c = false) : StopsAt p text :=
  fun c hc => hp c (h.blank c hc)

theorem IsTail.not_mem {c : Char} {text : List Char} (h : IsTail text)
    (hc : c ∈ [':', ';', '/', '\n']) : c ∉ text :=
  fun hmem => h.chars c hmem hc

theorem arguments?_of_isTail {text : List Char} (h : IsTail text) :
    arguments? text = some (trim text) := by
  cases text with
  | nil => rfl
  | cons c rest =>
    have hblank : isBlank c = true := h.blank c rfl
    have hnewline : (trim rest).contains '\n' = false := by
      rw [Bool.eq_false_iff]
      intro hmem
      have hrest : '\n' ∈ rest := mem_of_mem_trim (by simpa using hmem)
      exact h.not_mem (by decide) (List.mem_cons_of_mem c hrest)
    have htrim : trim ([c] ++ rest) = trim rest := trim_blank_append (by simpa using hblank)
    unfold arguments?
    simp only
    rw [hblank, hnewline, ← htrim]
    rfl

theorem body?_word {indent word tail : List Char} (hindent : ∀ c ∈ indent, isBlank c = true)
    (hword : isWord word = true) (htail : IsTail tail) :
    body? (indent ++ (word ++ tail)) = some (some ⟨word, trim tail⟩) := by
  have hstop : StopsAt Char.isAlphanum tail := htail.stopsAt fun c hc =>
    eq_false_of_excludes (fun halnum => isBlank_of_isNameChar (isNameChar_of_isAlphanum halnum)) hc
  cases word with
  | nil => exact absurd hword Bool.false_ne_true
  | cons c word =>
    rw [isWord_cons] at hword
    have hblank := isBlank_of_isNameChar (isNameChar_of_isAlpha hword.1)
    unfold body?
    rw [skipBlanks_append hindent, List.cons_append,
      skipBlanks_of_stopsAt (stopsAt_cons.mpr hblank)]
    simp only
    rw [if_pos hword.1, dropWhile_run hword.2 hstop, takeWhile_run hword.2 hstop,
      arguments?_of_isTail htail, Option.map_some]

/-! ## Statements -/

theorem ofCode?_word {indent word tail : List Char} (hindent : ∀ c ∈ indent, isBlank c = true)
    (hword : isWord word = true) (htail : IsTail tail) :
    ofCode? (indent ++ (word ++ tail)) = some (some ⟨word, trim tail⟩) := by
  have hname : ∀ c ∈ word, isNameChar c = true := fun c hc =>
    isNameChar_of_isAlphanum (isAlphanum_of_isWord hword c hc)
  have hstop : StopsAt isNameChar tail := htail.stopsAt fun c hc => isNameChar_of_isBlank hc
  unfold ofCode?
  rw [afterLabel?_word hindent hname (ne_nil_of_isWord hword) hstop
    (htail.not_mem (by decide)), body?_word hindent hword htail]
  rfl

/-- Where a label stands before a body that can be read, it is taken for the label. -/
theorem ofCode?_label {indent name gap body : List Char} {s : Option Statement}
    (hindent : ∀ c ∈ indent, isBlank c = true) (hname : isName name = true)
    (hgap : ∀ c ∈ gap, isBlank c = true) (hbody : body? body = some s) :
    ofCode? (indent ++ (name ++ (gap ++ ':' :: body))) = some s := by
  unfold ofCode?
  rw [afterLabel?_label hindent hname hgap, Option.bind_some, hbody]
  rfl

end Amd64Effects.Statement
