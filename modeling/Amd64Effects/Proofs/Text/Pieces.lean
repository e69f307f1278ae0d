import Mathlib.Data.List.DropRight
import Amd64Effects.Text.Pieces

/-!
# Pieces of a text

A text that was put together from pieces is taken apart into the same pieces: a run of one class of
characters ends where another class begins, blanks around a text do not change what is trimmed, and
fields that were joined by a separator are found again.

Every lemma leaves what follows the piece open, so that the lemmas can be chained from the front of
a line to its end.
-/

namespace Amd64Effects.Text

/-! ## Runs -/

/-- Nothing of a class stands at the front of a text. -/
def StopsAt (p : Char → Bool) (text : List Char) : Prop :=
  ∀ c ∈ text.head?, p c = false

@[simp] theorem stopsAt_nil (p : Char → Bool) : StopsAt p [] := by
  intro c hc
  simp at hc

@[simp] theorem stopsAt_cons {p : Char → Bool} {c : Char} {rest : List Char} :
    StopsAt p (c :: rest) ↔ p c = false := by
  simp [StopsAt]

/-- What follows a run of another class than the one asked for. -/
theorem StopsAt.append {p : Char → Bool} {run rest : List Char} (hrun : ∀ c ∈ run, p c = false)
    (hrest : StopsAt p rest) : StopsAt p (run ++ rest) := by
  cases run with
  | nil => exact hrest
  | cons c run => exact stopsAt_cons.mpr (hrun c List.mem_cons_self)

theorem dropWhile_of_stopsAt {p : Char → Bool} {text : List Char} (h : StopsAt p text) :
    text.dropWhile p = text := by
  cases text with
  | nil => rfl
  | cons c rest => exact List.dropWhile_cons_of_neg (by simp [stopsAt_cons.mp h])

theorem takeWhile_of_stopsAt {p : Char → Bool} {text : List Char} (h : StopsAt p text) :
    text.takeWhile p = [] := by
  cases text with
  | nil => rfl
  | cons c rest => exact List.takeWhile_cons_of_neg (by simp [stopsAt_cons.mp h])

theorem stopsAt_dropWhile (p : Char → Bool) (text : List Char) : StopsAt p (text.dropWhile p) := by
  intro c hc
  have h := List.head?_dropWhile_not p text
  rw [Option.mem_def.mp hc] at h
  simpa using h

/-- The run at the front of a text. -/
theorem takeWhile_run {p : Char → Bool} {run rest : List Char} (hrun : ∀ c ∈ run, p c = true)
    (hrest : StopsAt p rest) : (run ++ rest).takeWhile p = run := by
  rw [List.takeWhile_append_of_pos hrun, takeWhile_of_stopsAt hrest, List.append_nil]

/-- What is behind the run at the front of a text. -/
theorem dropWhile_run {p : Char → Bool} {run rest : List Char} (hrun : ∀ c ∈ run, p c = true)
    (hrest : StopsAt p rest) : (run ++ rest).dropWhile p = rest := by
  rw [List.dropWhile_append_of_pos hrun, dropWhile_of_stopsAt hrest]

/-! ## Blanks -/

theorem allBlank_iff {text : List Char} : allBlank text = true ↔ ∀ c ∈ text, isBlank c = true :=
  List.all_eq_true

theorem skipBlanks_append {blank rest : List Char} (h : ∀ c ∈ blank, isBlank c = true) :
    skipBlanks (blank ++ rest) = skipBlanks rest :=
  List.dropWhile_append_of_pos h

theorem skipBlanks_of_stopsAt {text : List Char} (h : StopsAt isBlank text) :
    skipBlanks text = text :=
  dropWhile_of_stopsAt h

theorem dropTrailingBlanks_eq (text : List Char) :
    dropTrailingBlanks text = text.rdropWhile isBlank := rfl

theorem dropTrailingBlanks_append {text blank : List Char} (h : ∀ c ∈ blank, isBlank c = true) :
    dropTrailingBlanks (text ++ blank) = dropTrailingBlanks text := by
  unfold dropTrailingBlanks
  rw [List.reverse_append,
    List.dropWhile_append_of_pos (fun c hc => h c (List.mem_reverse.mp hc))]

/-- Blanks behind a text are not trimmed into something else. -/
theorem trim_append_blank {text blank : List Char} (h : ∀ c ∈ blank, isBlank c = true) :
    trim (text ++ blank) = trim text := by
  unfold trim
  by_cases htext : skipBlanks text = []
  · have hall := allBlank_iff.mp (skipBlanks_eq_nil_iff.mp htext)
    have hblank : skipBlanks blank = [] := skipBlanks_eq_nil_iff.mpr (allBlank_iff.mpr h)
    rw [skipBlanks_append hall, htext, hblank]
  · have hskip : skipBlanks (text ++ blank) = skipBlanks text ++ blank := by
      unfold skipBlanks at htext ⊢
      rw [List.dropWhile_append, if_neg (by simpa using htext)]
    rw [hskip, dropTrailingBlanks_append h]

theorem trim_blank_append {blank text : List Char} (h : ∀ c ∈ blank, isBlank c = true) :
    trim (blank ++ text) = trim text := by
  unfold trim
  rw [skipBlanks_append h]

theorem trim_of_blank {text : List Char} (h : ∀ c ∈ text, isBlank c = true) : trim text = [] := by
  have happend : trim ([] ++ text) = trim [] := trim_append_blank h
  simpa [trim] using happend

/-- A text is its trimmed form between blanks. -/
theorem exists_trim (text : List Char) :
    ∃ front back, text = front ++ (trim text ++ back) ∧ (∀ c ∈ front, isBlank c = true) ∧
      ∀ c ∈ back, isBlank c = true := by
  refine ⟨text.takeWhile isBlank, (skipBlanks text).rtakeWhile isBlank, ?_,
    fun c hc => List.mem_takeWhile_imp hc, fun c hc => List.mem_rtakeWhile_imp hc⟩
  unfold trim
  rw [dropTrailingBlanks_eq, List.rdropWhile_append_rtakeWhile]
  exact (List.takeWhile_append_dropWhile).symm

@[simp] theorem trim_trim (text : List Char) : trim (trim text) = trim text := by
  obtain ⟨front, back, htext, hfront, hback⟩ := exists_trim text
  conv_rhs => rw [htext]
  rw [trim_blank_append hfront, trim_append_blank hback]

theorem mem_of_mem_trim {text : List Char} {c : Char} (h : c ∈ trim text) : c ∈ text := by
  obtain ⟨front, back, htext, -, -⟩ := exists_trim text
  rw [htext]
  simp [h]

theorem trim_eq_nil_iff {text : List Char} : trim text = [] ↔ allBlank text = true := by
  constructor
  · intro h
    obtain ⟨front, back, htext, hfront, hback⟩ := exists_trim text
    rw [h, List.nil_append] at htext
    rw [htext, allBlank_iff]
    intro c hc
    rcases List.mem_append.mp hc with hc | hc
    · exact hfront c hc
    · exact hback c hc
  · intro h
    exact trim_of_blank (allBlank_iff.mp h)

/-- A text without blanks is left as it is. -/
theorem trim_of_no_blank {text : List Char} (h : ∀ c ∈ text, isBlank c = false) :
    trim text = text := by
  unfold trim
  rw [skipBlanks_of_stopsAt (fun c hc => h c (List.mem_of_mem_head? hc)), dropTrailingBlanks_eq,
    List.rdropWhile_eq_self_iff]
  intro hne
  simp [h _ (List.getLast_mem hne)]

/-! ## Fields -/

theorem fields_eq_splitOn (separator : Char) (text : List Char) :
    fields separator text = text.splitOn separator := by
  induction text with
  | nil => simp [fields]
  | cons c rest ih =>
    rw [fields, List.splitOn_cons_eq_if_modifyHead, ih]
    have hne := List.splitOn_ne_nil separator rest
    cases hrest : rest.splitOn separator with
    | nil => exact absurd hrest hne
    | cons piece pieces => simp [consFirst]

/-- Fields that were joined are found again. -/
theorem fields_intercalate {separator : Char} {pieces : List (List Char)} (hne : pieces ≠ [])
    (h : ∀ piece ∈ pieces, separator ∉ piece) :
    fields separator ([separator].intercalate pieces) = pieces := by
  rw [fields_eq_splitOn, List.splitOn_intercalate separator h hne]

theorem mem_intercalate {separator c : Char} {pieces : List (List Char)}
    (h : c ∈ [separator].intercalate pieces) : c = separator ∨ ∃ piece ∈ pieces, c ∈ piece := by
  induction pieces with
  | nil => simp at h
  | cons piece pieces ih =>
    cases pieces with
    | nil =>
      rw [List.intercalate_singleton] at h
      exact Or.inr ⟨piece, List.mem_cons_self, h⟩
    | cons next pieces =>
      rw [List.intercalate_cons_cons, List.mem_append, List.mem_append, List.mem_singleton] at h
      rcases h with (hpiece | hseparator) | hrest
      · exact Or.inr ⟨piece, List.mem_cons_self, hpiece⟩
      · exact Or.inl hseparator
      · refine (ih hrest).imp id ?_
        rintro ⟨other, hother, hc⟩
        exact ⟨other, List.mem_cons_of_mem piece hother, hc⟩

/-- Blanks before a text belong to its first field. -/
theorem map_trim_fields_blank_append {separator : Char} {blank text : List Char}
    (hseparator : separator ∉ blank) (h : ∀ c ∈ blank, isBlank c = true) :
    (fields separator (blank ++ text)).map trim = (fields separator text).map trim := by
  induction blank with
  | nil => rfl
  | cons c blank ih =>
    simp only [List.mem_cons, not_or] at hseparator
    have hc : isBlank c = true := h c List.mem_cons_self
    have ih := ih hseparator.2 (fun d hd => h d (List.mem_cons_of_mem c hd))
    rw [List.cons_append, fields, if_neg (Ne.symm hseparator.1), ← ih]
    cases hfields : fields separator (blank ++ text) with
    -- there is always a field
    | nil =>
      rw [fields_eq_splitOn] at hfields
      exact absurd hfields (List.splitOn_ne_nil _ _)
    | cons piece pieces =>
      rw [consFirst, List.map_cons, List.map_cons]
      congr 1
      show trim ([c] ++ piece) = trim piece
      exact trim_blank_append (by simpa using hc)

/-- Blanks behind a text belong to its last field. -/
theorem exists_fields_append {separator : Char} {blank : List Char} (h : separator ∉ blank)
    (text : List Char) :
    ∃ pieces last, fields separator text = pieces ++ [last] ∧
      fields separator (text ++ blank) = pieces ++ [last ++ blank] := by
  induction text with
  | nil => exact ⟨[], [], rfl, fields_of_not_mem h⟩
  | cons c rest ih =>
    obtain ⟨pieces, last, hrest, happend⟩ := ih
    rw [List.cons_append, fields, fields, hrest, happend]
    by_cases hc : c = separator
    · exact ⟨[] :: pieces, last, by simp [hc], by simp [hc]⟩
    · cases pieces with
      | nil => exact ⟨[], c :: last, by simp [hc, consFirst], by simp [hc, consFirst]⟩
      | cons piece pieces =>
        exact ⟨(c :: piece) :: pieces, last, by simp [hc, consFirst], by simp [hc, consFirst]⟩

/-- The fields of a trimmed text are those of the text but for blanks. -/
theorem map_trim_fields_trim {separator : Char} (h : isBlank separator = false)
    (text : List Char) :
    (fields separator (trim text)).map trim = (fields separator text).map trim := by
  have not_mem : ∀ blank : List Char, (∀ c ∈ blank, isBlank c = true) → separator ∉ blank := by
    intro blank hblank hmem
    rw [hblank separator hmem] at h
    exact Bool.false_ne_true h.symm
  obtain ⟨front, back, htext, hfront, hback⟩ := exists_trim text
  conv_rhs => rw [htext]
  rw [map_trim_fields_blank_append (not_mem front hfront) hfront]
  -- the blanks in front went with the first field; those behind go with the last
  obtain ⟨pieces, last, htrim, happend⟩ := exists_fields_append (not_mem back hback) (trim text)
  rw [htrim, happend]
  simp [trim_append_blank hback]

end Amd64Effects.Text
