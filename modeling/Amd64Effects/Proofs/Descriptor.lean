import Amd64Effects.Descriptor
import Amd64Effects.Proofs.Register.Set

/-!
# Descriptors are read back from their texts

The text of a descriptor is one line of up to four lists, and each list is found again by its
heading: no name is a heading, and only a list's end is followed by an empty word
(`words_text`). So the whole descriptor is read back (`ofWords_words_text`), as long as its flags
are declared ones: bits that belong to no flag have no name.
-/

namespace Amd64Effects

open Text

/-! ## Flags -/

namespace Flag

/-- The flag of this name. -/
def ofName? (text : List Char) : Option Flag :=
  all.find? fun f => f.name.toList == text

theorem ofName?_name (f : Flag) : ofName? f.name.toList = some f := by
  have hall : ∀ f ∈ all, ofName? f.name.toList = some f := by decide +kernel
  exact hall f (mem_all f)

theorem isEntry_name (f : Flag) : IsEntry f.name.toList := by
  have hall : ∀ f ∈ all, f.name.toList ≠ [] ∧ ' ' ∉ f.name.toList ∧ ':' ∉ f.name.toList := by
    decide +kernel
  obtain ⟨hne, hspace, hcolon⟩ := hall f (mem_all f)
  exact ⟨hne, hspace, hcolon⟩

end Flag

namespace FlagSet

/-- Whether each bit of a set belongs to a flag. -/
def IsDeclared (s : FlagSet) : Prop :=
  ∀ i : Fin 32, s.bits[i] = true → ∃ f : Flag, f.bit = i

/-- A set without other bits is given by its flags. -/
theorem IsDeclared.ext_mem {s t : FlagSet} (hs : s.IsDeclared) (ht : t.IsDeclared)
    (h : ∀ f, f ∈ s ↔ f ∈ t) : s = t := by
  have hbit : ∀ i : Fin 32, s.bits[i] = true ↔ t.bits[i] = true := by
    intro i
    constructor
    · intro hi
      obtain ⟨f, rfl⟩ := hs i hi
      exact (h f).mp hi
    · intro hi
      obtain ⟨f, rfl⟩ := ht i hi
      exact (h f).mpr hi
  obtain ⟨x⟩ := s
  obtain ⟨y⟩ := t
  congr 1
  ext i hi
  exact Bool.eq_iff_iff.mpr (hbit ⟨i, hi⟩)

theorem isDeclared_empty : (∅ : FlagSet).IsDeclared := by
  intro i hi
  have hzero : (0 : BitVec 32)[i] = true := hi
  simp at hzero

theorem IsDeclared.insert {s : FlagSet} (hs : s.IsDeclared) (f : Flag) :
    (insert f s).IsDeclared := by
  intro i hi
  have hor : (BitVec.twoPow 32 f.bit ||| s.bits)[i] = true := hi
  simp only [Fin.getElem_fin, BitVec.getElem_or, BitVec.getElem_twoPow, Bool.or_eq_true,
    decide_eq_true_eq] at hor
  rcases hor with hf | hrest
  · exact ⟨f, Fin.ext hf.symm⟩
  · exact hs i hrest

/-- The set of the listed flags. -/
def ofList (flags : List Flag) : FlagSet :=
  flags.foldr insert ∅

theorem isDeclared_ofList (flags : List Flag) : (ofList flags).IsDeclared := by
  induction flags with
  | nil => exact isDeclared_empty
  | cons f flags ih => exact ih.insert f

theorem mem_ofList {f : Flag} {flags : List Flag} : f ∈ ofList flags ↔ f ∈ flags := by
  induction flags with
  | nil => simp [ofList]
  | cons x flags ih => simpa [ofList] using or_congr_right ih

theorem IsDeclared.toList_eq_nil_iff {s : FlagSet} (hs : s.IsDeclared) :
    s.toList = [] ↔ s = ∅ := by
  constructor
  · intro hnil
    refine hs.ext_mem isDeclared_empty fun f => ?_
    rw [← mem_toList, hnil]
    simp
  · rintro rfl
    rfl

/-- The set of the flags that are named by words; words that name no flag do not count. -/
def ofWords (words : List (List Char)) : FlagSet :=
  ofList (words.filterMap Flag.ofName?)

/-- The words of the text of a set. -/
def entries (s : FlagSet) : List (List Char) :=
  Text.entries (s.toList.map Flag.name)

theorem isEntry_of_mem_entries {s : FlagSet} : ∀ word ∈ s.entries, IsEntry word := by
  refine Text.isEntry_of_mem_entries fun name hname => ?_
  obtain ⟨f, -, rfl⟩ := List.mem_map.mp hname
  exact f.isEntry_name

theorem IsDeclared.words_text {s : FlagSet} (hs : s.IsDeclared) :
    words s.text.toList = s.entries := by
  have hempty : s.isEmpty = true ↔ s.toList.map Flag.name = [] := by
    rw [isEmpty_iff, List.map_eq_nil_iff, hs.toList_eq_nil_iff]
  unfold text entries
  simp only [hempty]
  refine words_names fun name hname => ?_
  obtain ⟨f, -, rfl⟩ := List.mem_map.mp hname
  exact f.isEntry_name

theorem IsDeclared.ofWords_entries {s : FlagSet} (hs : s.IsDeclared) :
    ofWords s.entries = s := by
  unfold ofWords entries
  rw [filterMap_entries Flag.ofName?_name (by decide +kernel)]
  exact (isDeclared_ofList _).ext_mem hs fun f => by rw [mem_ofList, mem_toList]

end FlagSet

/-! ## Descriptors -/

namespace Descriptor

/-- The sets of registers of a descriptor under their headings; the last is left out if empty. -/
def columns (d : Descriptor) : List (List Char × RegisterSet) :=
  [("use:".toList, d.uses), ("set:".toList, d.defines)] ++
    if d.addressing.isEmpty then [] else [("index:".toList, d.addressing)]

theorem toList_text (d : Descriptor) :
    d.text.toList = "flags:".toList ++ ' ' :: (d.flags.text.toList ++
      columnText (d.columns.map fun c => (c.1, c.2.text.toList))) := by
  unfold text columns
  cases d.addressing.isEmpty with
  | true => simp [columnText]
  | false => simp [columnText]

/-- The words of a descriptor: the flags under their heading, and then the columns. -/
theorem words_text {d : Descriptor} (h : d.flags.IsDeclared) :
    words d.text.toList = "flags:".toList :: (d.flags.entries ++
      columnWords (d.columns.map fun c => (c.1, c.2.entries))) := by
  have hspace : ∀ column ∈ d.columns, ' ' ∉ column.1 := by
    unfold columns
    cases d.addressing.isEmpty with
    | true => simp
    | false => simp
  rw [toList_text, words_append, words_of_not_mem (by decide), words_append_columnText,
    h.words_text, List.map_map]
  · simp only [Function.comp_def, RegisterSet.words_text, List.cons_append, List.nil_append]
  · intro column hcolumn
    obtain ⟨c, hc, rfl⟩ := List.mem_map.mp hcolumn
    exact hspace c hc

/-- What the words of a text tell of a descriptor. -/
def ofWords (words : List (List Char)) : Descriptor where
  flags := .ofWords (underHeading "flags:".toList words)
  uses := .ofWords (underHeading "use:".toList words)
  defines := .ofWords (underHeading "set:".toList words)
  addressing := .ofWords (underHeading "index:".toList words)

/-- The registers that stand under a heading. -/
theorem ofWords_underHeading {d : Descriptor} (h : d.flags.IsDeclared) {heading : List Char}
    (hheading : ':' ∈ heading) (hflags : heading ≠ "flags:".toList) :
    RegisterSet.ofWords (underHeading heading (words d.text.toList)) =
      (d.columns.lookup heading).getD ∅ := by
  have hfront : heading ∉ "flags:".toList :: d.flags.entries := by
    rw [List.mem_cons, not_or]
    exact ⟨hflags, fun hmem => (FlagSet.isEntry_of_mem_entries heading hmem).no_colon hheading⟩
  have hcolumns : ∀ column ∈ d.columns.map fun c => (c.1, c.2.entries),
      ∀ word ∈ column.2, IsEntry word := by
    intro column hcolumn
    obtain ⟨c, -, rfl⟩ := List.mem_map.mp hcolumn
    exact RegisterSet.isEntry_of_mem_entries
  rw [words_text h, ← List.cons_append, underHeading_append_of_not_mem hfront,
    underHeading_columnWords hheading hcolumns, lookup_map_snd]
  cases d.columns.lookup heading with
  | none => rfl
  | some s => exact s.ofWords_entries

theorem lookup_columns (d : Descriptor) :
    (d.columns.lookup "use:".toList).getD ∅ = d.uses ∧
    (d.columns.lookup "set:".toList).getD ∅ = d.defines ∧
    (d.columns.lookup "index:".toList).getD ∅ = d.addressing := by
  refine ⟨rfl, rfl, ?_⟩
  unfold columns
  cases h : d.addressing.isEmpty with
  | true => exact (RegisterSet.isEmpty_iff.mp h).symm
  | false => rfl

/-- A descriptor is read back from its text. -/
theorem ofWords_words_text {d : Descriptor} (h : d.flags.IsDeclared) :
    ofWords (words d.text.toList) = d := by
  have hflags : FlagSet.ofWords (underHeading "flags:".toList (words d.text.toList)) = d.flags := by
    rw [words_text h, underHeading_self FlagSet.isEntry_of_mem_entries, h.ofWords_entries]
  obtain ⟨huses, hdefines, haddressing⟩ := d.lookup_columns
  unfold ofWords
  rw [hflags, ofWords_underHeading h (by decide) (by decide), huses,
    ofWords_underHeading h (by decide) (by decide), hdefines,
    ofWords_underHeading h (by decide) (by decide), haddressing]

/--
The text of a descriptor without undeclared flag bits tells the whole descriptor: it is read back
from its words, and two such descriptors have one text exactly if they are equal.
-/
theorem text_eq_text_iff {d e : Descriptor} (hd : d.flags.IsDeclared) (he : e.flags.IsDeclared) :
    (d.text = e.text ↔ d = e) ∧ ofWords (words d.text.toList) = d := by
  refine ⟨⟨fun h => ?_, fun h => ?_⟩, ofWords_words_text hd⟩
  · rw [← ofWords_words_text hd, h, ofWords_words_text he]
  · rw [h]

/-- A byte in memory that is read and written: all four lists are printed. -/
def changedByte : Descriptor where
  flags := .ofList [.sizeByte, .rightRead, .rightWrite]
  uses := {.ax, .bx}
  addressing := {.bx}

/-- Without the last list the text is another one. -/
theorem text_eq_text_iff_changedByte :
    changedByte.flags.IsDeclared ∧
      changedByte.text = "flags: SIZE_B RIGHT_READ RIGHT_WRITE  use: AX BX  set: -  index: BX" ∧
      changedByte.text ≠ { changedByte with addressing := ∅ }.text ∧
      ofWords (words changedByte.text.toList) = changedByte := by
  have hdeclared : changedByte.flags.IsDeclared := FlagSet.isDeclared_ofList _
  have hne : changedByte ≠ { changedByte with addressing := ∅ } := by decide
  obtain ⟨htext, hback⟩ :=
    text_eq_text_iff (e := { changedByte with addressing := ∅ }) hdeclared hdeclared
  exact ⟨hdeclared, by decide +kernel, fun h => hne (htext.mp h), hback⟩

end Descriptor

end Amd64Effects
