import Amd64Effects.Proofs.Names
import Mathlib.Data.List.Forall2

/-!
# Looking up names

Each opcode and each register is found under all ways of writing its name, which differ in nothing
but the case of letters of ASCII, and under no other text (`InvertsNaming`). No text is found as
both, for the names of opcodes and of registers have different shapes (`Opcode.name_ne_name`).

How the names are filed makes no difference. A dictionary that keeps one opcode for each name loses
none, because no name occurs twice (`Opcode.getElem?_dictionary`); and registers may be found by the
place of their names, because these are listed in encoding order (`Register.getElem?_idxOf?_names`).
-/

namespace Amd64Effects

namespace Text

/-! ## Ways of writing a text -/

/-- A capital letter of ASCII and the small form of the same letter. -/
def IsCasePair (capital small : Char) : Prop :=
  capital.isUpper = true ∧ small.toNat = capital.toNat + 32

/-- Whether two characters differ at most in case, and that only as letters of ASCII. -/
def SameLetter (c d : Char) : Prop :=
  c = d ∨ IsCasePair c d ∨ IsCasePair d c

/-- Whether two texts differ at most in the case of letters of ASCII. -/
def SameLetters (text text' : List Char) : Prop :=
  List.Forall₂ SameLetter text text'

theorem toUpper_eq_toUpper_iff {c d : Char} : c.toUpper = d.toUpper ↔ SameLetter c d := by
  have toNat_eq : ∀ a b : Char, a = b ↔ a.toNat = b.toNat := fun a b => Char.toNat_inj.symm
  simp only [SameLetter, IsCasePair, toNat_eq, toNat_toUpper, isUpper_iff, isLower_iff]
  -- each of the two characters is a small letter or is left as it is
  split
  · next hc =>
    split
    · next hd => omega
    · next hd => omega
  · next hc =>
    split
    · next hd => omega
    · next hd => omega

theorem upper_eq_upper_iff {text text' : List Char} :
    upper text = upper text' ↔ SameLetters text text' := by
  unfold upper SameLetters
  rw [← List.forall₂_eq_eq_eq, List.forall₂_map_left_iff, List.forall₂_map_right_iff]
  simp only [toUpper_eq_toUpper_iff]

/-- Whether the last character of a text is a digit. -/
def endsInDigit (text : List Char) : Bool :=
  text.getLast?.any Char.isDigit

end Text

open Text

/-! ## Lookups -/

/--
A lookup that inverts a naming: it finds everything under its name, in whatever case the letters of
ASCII are written, and nothing under any other text.
-/
structure InvertsNaming {α : Type} (name : α → String) (lookup : List Char → Option α) : Prop where
  eq_some_iff : ∀ text a, lookup text = some a ↔ upper text = (name a).toList
  /-- The case of letters of ASCII makes no difference, whether anything is found or not. -/
  eq_of_sameLetters : ∀ text text', SameLetters text text' → lookup text = lookup text'
  /-- Any other difference does, where anything is found. -/
  sameLetters_of_eq_some : ∀ text text' a,
    lookup text = some a → lookup text' = some a → SameLetters text text'
  /-- No character beyond ASCII stands for a letter of a name. -/
  isAlphanum_of_eq_some : ∀ text a, lookup text = some a → ∀ c ∈ text, c.isAlphanum = true
  /-- No name is shared. -/
  injective : Function.Injective name

namespace InvertsNaming

variable {α : Type} {name : α → String} {lookup : List Char → Option α}

/-- What a lookup does follows from what it finds, if all names are words in capital letters. -/
theorem of_eq_some_iff
    (hname : ∀ a, isWord (name a).toList = true ∧ upper (name a).toList = (name a).toList)
    (hlookup : ∀ text a, lookup text = some a ↔ upper text = (name a).toList) :
    InvertsNaming name lookup where
  eq_some_iff := hlookup
  eq_of_sameLetters := by
    intro text text' h
    refine Option.ext fun a => ?_
    rw [hlookup, hlookup, upper_eq_upper_iff.mpr h]
  sameLetters_of_eq_some := by
    intro text text' a h h'
    rw [hlookup] at h h'
    exact upper_eq_upper_iff.mp (h.trans h'.symm)
  isAlphanum_of_eq_some := by
    intro text a h
    rw [hlookup] at h
    refine isAlphanum_of_isWord (isWord_of_isWord_upper ?_)
    rw [h]
    exact (hname a).1
  injective := by
    intro a b h
    have ha := (hlookup (name a).toList a).mpr (hname a).2
    have hb := (hlookup (name b).toList b).mpr (hname b).2
    rw [h, hb] at ha
    exact (Option.some.inj ha).symm

/-- The capital letters of a text that is not found are nobody's name. -/
theorem not_mem_map (h : InvertsNaming name lookup) {text : List Char}
    (hnone : lookup text = none) (l : List α) : String.ofList (upper text) ∉ l.map name := by
  intro hmem
  obtain ⟨a, -, ha⟩ := List.mem_map.mp hmem
  have hsome : lookup text = some a := by
    rw [h.eq_some_iff, ha, String.toList_ofList]
  rw [hnone] at hsome
  simp at hsome

end InvertsNaming

/-! ## Registers -/

namespace Register

theorem invertsNaming : InvertsNaming name ofName? :=
  .of_eq_some_iff (fun r => ⟨r.isWord_name, r.upper_name⟩)
    fun _ _ => ⟨upper_eq_name, ofName?_of_upper⟩

/-- The names of all registers, in encoding order. -/
def names : List String := all.map name

theorem idxOf?_names (r : Register) : names.idxOf? r.name = some r.encoding := by
  cases r <;> decide

/-- A register is found at the place where its name is listed. -/
theorem getElem?_idxOf?_names (text : List Char) :
    ((names.idxOf? (String.ofList (upper text))).bind fun i => all[i]?) = ofName? text := by
  cases hfind : ofName? text with
  | some r =>
    rw [upper_eq_name hfind, String.ofList_toList, idxOf?_names, Option.bind_some]
    exact all_index r
  | none =>
    have hmem : String.ofList (upper text) ∉ names := invertsNaming.not_mem_map hfind all
    rw [List.idxOf?_eq_none_iff.mpr hmem]
    rfl

theorem length_name_eq_two_or_endsInDigit (r : Register) :
    r.name.toList.length = 2 ∨ endsInDigit r.name.toList = true := by
  cases r <;> decide

end Register

/-! ## Opcodes -/

namespace Opcode

theorem invertsNaming : InvertsNaming name ofName? :=
  .of_eq_some_iff name_spec fun _ _ => ⟨upper_eq_name, ofName?_of_upper⟩

/-- The opcodes under their names. Of opcodes of one name it would keep only the last. -/
def dictionary : Std.HashMap String Opcode :=
  Std.HashMap.ofList (all.map fun op => (op.name, op))

theorem getElem?_dictionary_name (op : Opcode) : dictionary[op.name]? = some op := by
  refine Std.HashMap.getElem?_ofList_of_mem (beq_self_eq_true op.name) ?_
    (List.mem_map_of_mem (mem_all op))
  rw [List.pairwise_map]
  exact nodup_all.imp fun hne => beq_false_of_ne (mt name_injective hne)

/-- An opcode is found in the dictionary as it is found in the list. -/
theorem getElem?_dictionary (text : List Char) :
    dictionary[String.ofList (upper text)]? = ofName? text := by
  cases hfind : ofName? text with
  | some op => rw [upper_eq_name hfind, String.ofList_toList, getElem?_dictionary_name]
  | none =>
    have hmem : String.ofList (upper text) ∉ all.map name := invertsNaming.not_mem_map hfind all
    refine Std.HashMap.getElem?_ofList_of_contains_eq_false ?_
    rw [List.map_map, ← Bool.not_eq_true, List.contains_iff_mem]
    exact hmem

theorem two_lt_length_name_and_not_endsInDigit (op : Opcode) :
    2 < op.name.toList.length ∧ endsInDigit op.name.toList = false := by
  have hall : ∀ op ∈ all, 2 < op.name.toList.length ∧ endsInDigit op.name.toList = false := by
    decide +kernel
  exact hall op (mem_all op)

/-- A name that does not end in a digit is longer if it is that of an opcode. -/
theorem name_ne_name (op : Opcode) (r : Register) : op.name ≠ r.name := by
  intro h
  obtain ⟨hlength, hend⟩ := op.two_lt_length_name_and_not_endsInDigit
  rw [h] at hlength hend
  rcases r.length_name_eq_two_or_endsInDigit with hshort | hdigit
  · omega
  · rw [hend] at hdigit
    exact Bool.false_ne_true hdigit

end Opcode

/-! ## All names -/

/--
The lookups of opcodes and of registers invert the naming, up to the case of letters of ASCII and
nothing else, and no text is found by both. The same opcodes are found in a dictionary of their
names, and the same registers by the places of their names.
-/
theorem lookups_invert_names :
    InvertsNaming Opcode.name Opcode.ofName? ∧
    InvertsNaming Register.name Register.ofName? ∧
    (∀ text, Opcode.ofName? text = none ∨ Register.ofName? text = none) ∧
    (∀ text, Opcode.dictionary[String.ofList (upper text)]? = Opcode.ofName? text) ∧
    ∀ text, ((Register.names.idxOf? (String.ofList (upper text))).bind fun i => Register.all[i]?) =
      Register.ofName? text := by
  refine ⟨Opcode.invertsNaming, Register.invertsNaming, fun text => ?_,
    Opcode.getElem?_dictionary, Register.getElem?_idxOf?_names⟩
  cases hop : Opcode.ofName? text with
  | none => exact Or.inl rfl
  | some op =>
    refine Or.inr (Register.ofName?_eq_none_iff.mpr fun r hr => ?_)
    have hname : op.name.toList = r.name.toList := (Opcode.upper_eq_name hop).symm.trans hr
    exact op.name_ne_name r (String.toList_inj.mp hname)

/-- A long s is no letter of ASCII, though its capital is an S. -/
example : Register.ofName? ['s', 'P'] = some .sp ∧ Register.ofName? ['ſ', 'P'] = none := by
  decide

end Amd64Effects
