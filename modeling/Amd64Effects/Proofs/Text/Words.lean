import Amd64Effects.Proofs.Text.Pieces
import Amd64Effects.Text.Format

/-!
# Words

The words of a text stand between its spaces. Where two spaces follow each other, or where a text
ends in spaces, there are empty words.

Names that were joined by spaces are the words of the joined text, and padding only adds empty words
behind them (`words_names`, `words_padRight`). In a line of several such texts each stands under a
heading and ends before an empty word, so that it is found again (`underHeading_columnWords`).
-/

namespace Amd64Effects.Text

/-! ## Words of a text -/

/-- Fields of a text and what is behind a separator are fields of one text. -/
theorem fields_append_separator (separator : Char) (text rest : List Char) :
    fields separator (text ++ separator :: rest) =
      fields separator text ++ fields separator rest := by
  simp only [fields_eq_splitOn, List.splitOn_eq_splitOnP]
  exact List.splitOnP_append_cons text rest (beq_self_eq_true separator)

/-- The words of a text; some of them may be empty. -/
def words (text : List Char) : List (List Char) :=
  fields ' ' text

theorem words_append (text rest : List Char) :
    words (text ++ ' ' :: rest) = words text ++ words rest :=
  fields_append_separator ' ' text rest

theorem words_of_not_mem {word : List Char} (h : ' ' ∉ word) : words word = [word] :=
  fields_of_not_mem h

/-- Spaces behind a text add empty words. -/
theorem words_append_replicate (text : List Char) (n : Nat) :
    words (text ++ List.replicate n ' ') = words text ++ List.replicate n [] := by
  induction n generalizing text with
  | zero => simp
  | succ n ih =>
    have hspace : text ++ List.replicate (n + 1) ' ' = text ++ [' '] ++ List.replicate n ' ' := by
      rw [List.append_assoc]
      rfl
    rw [hspace, ih, words_append, words_of_not_mem List.not_mem_nil, List.append_assoc]
    rfl

theorem words_padRight (width : Nat) (text : String) :
    words (padRight width text).toList =
      words text.toList ++ List.replicate (width - text.length) [] := by
  rw [toList_padRight, words_append_replicate]

/-! ## Lists of names -/

/-- Whether a word may stand in a list of names: it is no heading and leaves no gap. -/
structure IsEntry (word : List Char) : Prop where
  ne_nil : word ≠ []
  no_space : ' ' ∉ word
  no_colon : ':' ∉ word

/-- The words of a list of names, where a dash stands for the empty list. -/
def entries (names : List String) : List (List Char) :=
  if names = [] then ["-".toList] else names.map String.toList

theorem isEntry_of_mem_entries {names : List String} (h : ∀ name ∈ names, IsEntry name.toList) :
    ∀ word ∈ entries names, IsEntry word := by
  unfold entries
  split
  · intro word hword
    obtain rfl := List.mem_singleton.mp hword
    exact ⟨by decide, by decide, by decide⟩
  · intro word hword
    obtain ⟨name, hname, rfl⟩ := List.mem_map.mp hword
    exact h name hname

/-- Names that were joined are found again. -/
theorem words_names {names : List String} (h : ∀ name ∈ names, IsEntry name.toList) :
    words (if names = [] then "-" else " ".intercalate names).toList = entries names := by
  unfold entries
  split
  · exact words_of_not_mem (by decide)
  · next hne =>
    rw [String.toList_intercalate]
    refine fields_intercalate (by simpa using hne) fun word hword => ?_
    obtain ⟨name, hname, rfl⟩ := List.mem_map.mp hword
    exact (h name hname).no_space

/-- What is looked up by name is found again; a dash names nothing. -/
theorem filterMap_entries {α : Type} {name : α → String} {find? : List Char → Option α}
    (hname : ∀ x, find? (name x).toList = some x) (hdash : find? "-".toList = none) (xs : List α) :
    (entries (xs.map name)).filterMap find? = xs := by
  unfold entries
  split
  · next hnil =>
    rw [List.map_eq_nil_iff.mp hnil, List.filterMap_cons_none hdash, List.filterMap_nil]
  · rw [List.map_map, List.filterMap_map]
    have hsome : find? ∘ String.toList ∘ name = some := funext hname
    rw [hsome, List.filterMap_some]

/-! ## Columns -/

/-- Texts behind another one, each after two spaces, a heading and a space. -/
def columnText (columns : List (List Char × List Char)) : List Char :=
  columns.flatMap fun c => ' ' :: ' ' :: (c.1 ++ ' ' :: c.2)

/-- Lists of words behind other words, each after an empty word and a heading. -/
def columnWords (columns : List (List Char × List (List Char))) : List (List Char) :=
  columns.flatMap fun c => [] :: c.1 :: c.2

theorem words_append_columnText {columns : List (List Char × List Char)}
    (h : ∀ column ∈ columns, ' ' ∉ column.1) (front : List Char) :
    words (front ++ columnText columns) =
      words front ++ columnWords (columns.map fun c => (c.1, words c.2)) := by
  induction columns generalizing front with
  | nil => simp [columnText, columnWords]
  | cons column columns ih =>
    obtain ⟨heading, text⟩ := column
    obtain ⟨hheading, hrest⟩ := List.forall_mem_cons.mp h
    have hcolumn : front ++ columnText ((heading, text) :: columns) =
        front ++ ' ' :: ([] ++ ' ' :: (heading ++ ' ' :: (text ++ columnText columns))) := by
      simp [columnText]
    rw [hcolumn, words_append, words_append, words_append, ih hrest,
      words_of_not_mem List.not_mem_nil, words_of_not_mem hheading]
    rfl

/-- The words behind a heading, up to an empty word. -/
def underHeading (heading : List Char) (words : List (List Char)) : List (List Char) :=
  ((words.dropWhile (· ≠ heading)).drop 1).takeWhile (· ≠ [])

theorem underHeading_append_of_not_mem {heading : List Char} {front : List (List Char)}
    (h : heading ∉ front) (words : List (List Char)) :
    underHeading heading (front ++ words) = underHeading heading words := by
  unfold underHeading
  rw [List.dropWhile_append_of_pos]
  intro word hword
  rw [decide_eq_true_eq]
  rintro rfl
  exact h hword

/-- Behind its heading a list ends where the next column begins. -/
theorem underHeading_self {list : List (List Char)} (h : ∀ word ∈ list, IsEntry word)
    (heading : List Char) (columns : List (List Char × List (List Char))) :
    underHeading heading (heading :: (list ++ columnWords columns)) = list := by
  have hlist : ∀ word ∈ list, decide (word ≠ []) = true :=
    fun word hword => decide_eq_true (h word hword).ne_nil
  have hstop : (columnWords columns).takeWhile (· ≠ []) = [] := by
    cases columns with
    | nil => rfl
    | cons column columns => rfl
  unfold underHeading
  rw [List.dropWhile_cons_of_neg (by simp), List.drop_one, List.tail_cons,
    List.takeWhile_append_of_pos hlist, hstop, List.append_nil]

theorem lookup_map_snd {α β γ : Type} [BEq α] (f : β → γ) (a : α) (pairs : List (α × β)) :
    (pairs.map fun p => (p.1, f p.2)).lookup a = (pairs.lookup a).map f := by
  induction pairs with
  | nil => rfl
  | cons p pairs ih =>
    rw [List.map_cons, List.lookup_cons, List.lookup_cons, ih]
    cases a == p.1 <;> rfl

/-- A list is found by its heading; under a heading that is not there stands nothing. -/
theorem underHeading_columnWords {heading : List Char} (hheading : ':' ∈ heading)
    {columns : List (List Char × List (List Char))}
    (h : ∀ column ∈ columns, ∀ word ∈ column.2, IsEntry word) :
    underHeading heading (columnWords columns) = (columns.lookup heading).getD [] := by
  have hne : heading ≠ [] := List.ne_nil_of_mem hheading
  induction columns with
  | nil => rfl
  | cons column columns ih =>
    obtain ⟨name, list⟩ := column
    obtain ⟨hlist, hrest⟩ := List.forall_mem_cons.mp h
    have hcolumn : columnWords ((name, list) :: columns) =
        [[]] ++ name :: (list ++ columnWords columns) := rfl
    rw [hcolumn, underHeading_append_of_not_mem (by simpa using hne)]
    by_cases hname : heading = name
    · subst hname
      rw [underHeading_self hlist, List.lookup_cons_self, Option.getD_some]
    · have hfront : heading ∉ name :: list := by
        rw [List.mem_cons, not_or]
        exact ⟨hname, fun hmem => (hlist heading hmem).no_colon hheading⟩
      rw [← List.cons_append, underHeading_append_of_not_mem hfront, ih hrest, List.lookup_cons,
        beq_false_of_ne hname]

end Amd64Effects.Text
