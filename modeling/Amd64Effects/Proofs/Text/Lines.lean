import Amd64Effects.Proofs.Text.Pieces

/-!
# Lines

The lines of a text are its fields between line feeds. Every field but the last one was ended by a
line feed, so it loses a carriage return; the last one loses nothing, and it is a line only if it
has characters (`exists_lines_eq`).
-/

namespace Amd64Effects.Text

/-- A line that a line feed ends, without the carriage return before that. -/
def dropReturn (line : List Char) : List Char :=
  if line.getLast? = some '\r' then line.dropLast else line

theorem dropReturn_cons {c : Char} {line : List Char} (h : c = '\r' → line ≠ []) :
    dropReturn (c :: line) = c :: dropReturn line := by
  unfold dropReturn
  cases line with
  | nil =>
    have hc : c ≠ '\r' := fun hc => h hc rfl
    simp [hc]
  | cons d line =>
    rw [List.getLast?_cons_cons, List.dropLast_cons_cons, apply_ite (c :: ·)]

/-- A text whose first field is empty, and not the only one, starts with the separator. -/
theorem exists_eq_cons_of_fields {separator : Char} {text : List Char} {pieces : List (List Char)}
    (h : fields separator text = [] :: pieces) (hne : pieces ≠ []) :
    ∃ rest, text = separator :: rest := by
  cases text with
  | nil =>
    rw [fields, List.cons.injEq] at h
    exact absurd h.2.symm hne
  | cons c rest =>
    by_cases hc : c = separator
    · exact ⟨rest, by rw [hc]⟩
    · rw [fields, if_neg hc] at h
      unfold consFirst at h
      split at h <;> simp at h

/-- The lines of a text in terms of its fields between line feeds. -/
theorem exists_lines_eq (text : List Char) :
    ∃ ended last, text.splitOn '\n' = ended ++ [last] ∧
      lines text = ended.map dropReturn ++ if last = [] then [] else [last] := by
  simp only [← fields_eq_splitOn]
  fun_induction lines text with
  | case1 => exact ⟨[], [], rfl, rfl⟩
  | case2 rest ih =>
    obtain ⟨ended, last, hfields, hlines⟩ := ih
    exact ⟨['\r'] :: ended, last, by simp [fields, consFirst, hfields],
      by simp [hlines, dropReturn]⟩
  | case3 rest ih =>
    obtain ⟨ended, last, hfields, hlines⟩ := ih
    exact ⟨[] :: ended, last, by simp [fields, hfields], by simp [hlines, dropReturn]⟩
  | case4 c rest hreturn hc ih =>
    obtain ⟨ended, last, hfields, hlines⟩ := ih
    rw [imp_false] at hc
    cases ended with
    | nil =>
      refine ⟨[], c :: last, by simp [fields, hc, consFirst, hfields], ?_⟩
      by_cases hlast : last = [] <;> simp [hlines, hlast, consFirst]
    | cons line ended =>
      refine ⟨(c :: line) :: ended, last, by simp [fields, hc, consFirst, hfields], ?_⟩
      -- behind `c`, an empty line starts with its line feed, and then `c` is no carriage return
      have hdrop : dropReturn (c :: line) = c :: dropReturn line := by
        refine dropReturn_cons fun hr hline => ?_
        rw [hline] at hfields
        obtain ⟨tail, htail⟩ := exists_eq_cons_of_fields hfields (by simp)
        exact hreturn tail hr htail
      simp [hlines, hdrop, consFirst]

-- no line feed ends the last line, so its carriage return stays
example : lines "a\r\n\nb\r".toList = [['a'], [], ['b', '\r']] := by decide

/-! ## Texts one behind the other -/

/-- A text behind this one begins with a line of its own. -/
def EndsLine (text : List Char) : Prop :=
  text = [] ∨ text.getLast? = some '\n'

instance (text : List Char) : Decidable (EndsLine text) :=
  inferInstanceAs (Decidable (text = [] ∨ text.getLast? = some '\n'))

theorem lines_append {first second : List Char} (h : EndsLine first) :
    lines (first ++ second) = lines first ++ lines second := by
  rcases h with rfl | hlast
  · rfl
  · obtain ⟨front, rfl⟩ := List.getLast?_eq_some_iff.mp hlast
    rw [List.append_assoc]
    exact lines_append_newline front second

/-- A line that a line feed ends; a carriage return at its end would be dropped with it. -/
theorem lines_append_lineFeed {line : List Char} (hline : '\n' ∉ line)
    (hreturn : line.getLast? ≠ some '\r') : lines (line ++ ['\n']) = [line] := by
  obtain ⟨ended, last, hsplit, hlines⟩ := exists_lines_eq (line ++ ['\n'])
  have hpieces : [line] ++ [[]] = ended ++ [last] := by
    rw [← hsplit, ← fields_eq_splitOn, fields_append hline]
    rfl
  obtain ⟨rfl, hlast⟩ := List.append_inj' hpieces rfl
  obtain rfl := List.singleton_inj.mp hlast
  rw [hlines, List.map_singleton, dropReturn, if_neg hreturn, if_pos rfl, List.append_nil]

/-- Lines that were ended by line feeds are found again. -/
theorem lines_flatMap_lineFeed {ls : List (List Char)}
    (h : ∀ line ∈ ls, '\n' ∉ line ∧ line.getLast? ≠ some '\r') :
    lines (ls.flatMap (· ++ ['\n'])) = ls := by
  induction ls with
  | nil => rfl
  | cons line rest ih =>
    obtain ⟨⟨hline, hreturn⟩, hrest⟩ := List.forall_mem_cons.mp h
    have hends : EndsLine (line ++ ['\n']) := Or.inr List.getLast?_concat
    rw [List.flatMap_cons, lines_append hends, lines_append_lineFeed hline hreturn, ih hrest,
      List.singleton_append]

end Amd64Effects.Text
