import Amd64Effects.Proofs.Names
import Amd64Effects.Proofs.Text.Words
import Amd64Effects.Register.Set
import Mathlib.Data.Set.Insert

/-!
# Sets of registers as sets

The bits of a `RegisterSet` are those of its members, one for each register at its place in encoding
order (`RegisterSet.members`). Each change of the bits is an operation of sets on the members
(`members_apply`), so any run of changes leaves the bits of the set that the same run of operations
leaves (`members_ofChanges`).

Bits, members, the list of the members and the text all tell the same: the words of a text name the
members, also if the text is padded, so two sets with one text are equal (`ofWords_padded`).
-/

namespace Amd64Effects

open Text

namespace Register

theorem pairwise_encoding_all : all.Pairwise fun a b => a.encoding < b.encoding := by
  decide

/-- A name can stand in a list of names. -/
theorem isEntry_name (r : Register) : IsEntry r.name.toList where
  ne_nil := ne_nil_of_isWord r.isWord_name
  no_space hmem := by
    have hspace := isAlphanum_of_isWord r.isWord_name ' ' hmem
    exact absurd hspace (by decide)
  no_colon hmem := by
    have hcolon := isAlphanum_of_isWord r.isWord_name ':' hmem
    exact absurd hcolon (by decide)

end Register

namespace RegisterSet

/-! ## Listing -/

theorem pairwise_toList (s : RegisterSet) :
    s.toList.Pairwise fun a b => a.encoding < b.encoding :=
  Register.pairwise_encoding_all.filter _

theorem toList_eq_nil_iff {s : RegisterSet} : s.toList = [] ↔ s = ∅ := by
  constructor
  · intro hnil
    refine ext_mem fun r => ?_
    rw [← mem_toList, hnil]
    simp
  · rintro rfl
    rfl

/-! ## Text -/

/-- The set of the registers that are named by words; words that name no register do not count. -/
def ofWords (words : List (List Char)) : RegisterSet :=
  ofList (words.filterMap Register.ofName?)

theorem ofWords_append_replicate (words : List (List Char)) (n : Nat) :
    ofWords (words ++ List.replicate n []) = ofWords words := by
  unfold ofWords
  rw [List.filterMap_append, List.filterMap_replicate_of_none rfl, List.append_nil]

/-- The words of the text of a set. -/
def entries (s : RegisterSet) : List (List Char) :=
  Text.entries (s.toList.map Register.name)

theorem isEntry_of_mem_entries {s : RegisterSet} : ∀ word ∈ s.entries, IsEntry word := by
  refine Text.isEntry_of_mem_entries fun name hname => ?_
  obtain ⟨r, -, rfl⟩ := List.mem_map.mp hname
  exact r.isEntry_name

theorem words_text (s : RegisterSet) : words s.text.toList = s.entries := by
  have hempty : s.isEmpty = true ↔ s.toList.map Register.name = [] := by
    rw [isEmpty_iff, List.map_eq_nil_iff, toList_eq_nil_iff]
  unfold text entries
  simp only [hempty]
  refine words_names fun name hname => ?_
  obtain ⟨r, -, rfl⟩ := List.mem_map.mp hname
  exact r.isEntry_name

theorem ofWords_entries (s : RegisterSet) : ofWords s.entries = s := by
  unfold ofWords entries
  rw [filterMap_entries Register.ofName?_name (by decide)]
  exact ext_mem fun r => by rw [mem_ofList, mem_toList]

/-- A set is read back from its text, whatever the width that the text was filled up to. -/
theorem ofWords_padded (s : RegisterSet) (width : Nat) :
    ofWords (words (s.padded width).toList) = s := by
  unfold padded
  rw [words_padRight, ofWords_append_replicate, words_text, ofWords_entries]

/-! ## Members -/

/-- The registers whose bits are set. -/
def members (s : RegisterSet) : Set Register :=
  {r | s.bits.toNat.testBit r.encoding = true}

@[simp] theorem mem_members {r : Register} {s : RegisterSet} : r ∈ s.members ↔ r ∈ s := by
  rw [mem_def, Fin.getElem_fin, BitVec.getElem_eq_testBit_toNat]
  exact Iff.rfl

theorem members_injective : Function.Injective members := by
  intro s t h
  refine ext_mem fun r => ?_
  rw [← mem_members, h, mem_members]

theorem isEmpty_iff_members {s : RegisterSet} : s.isEmpty = true ↔ s.members = ∅ := by
  rw [isEmpty_iff, Set.eq_empty_iff_forall_notMem]
  constructor
  · rintro rfl r
    simp
  · intro hnone
    refine ext_mem fun r => ?_
    simpa using hnone r

theorem isSubset_iff_members {s t : RegisterSet} :
    s.isSubset t = true ↔ s.members ⊆ t.members := by
  rw [isSubset_iff]
  refine forall_congr' fun r => ?_
  rw [mem_members, mem_members]

theorem meets_iff_members {s t : RegisterSet} :
    s.meets t = true ↔ (s.members ∩ t.members).Nonempty := by
  rw [meets_iff]
  refine exists_congr fun r => ?_
  rw [Set.mem_inter_iff, mem_members, mem_members]

/-! ## Changes -/

/-- What a change does to a set of registers. -/
def applyToMembers (A : Set Register) : Change → Set Register
  | .insert r => insert r A
  | .replaceBySingle r => {r}
  | .replace t => t.members
  | .union t => A ∪ t.members
  | .inter t => A ∩ t.members
  | .sdiff t => A \ t.members
  | .symmDiff t => A \ t.members ∪ t.members \ A
  | .complement => Aᶜ

/-- The set that is left when the changes are made to the empty set, one after the other. -/
def membersAfter (changes : List Change) : Set Register :=
  changes.foldl applyToMembers ∅

/-- A change of the bits is the change of the members. -/
theorem members_apply (s : RegisterSet) (c : Change) :
    (s.apply c).members = applyToMembers s.members c := by
  ext r
  cases c with
  | insert x => simp [apply, applyToMembers]
  | replaceBySingle x => simp [apply, applyToMembers]
  | replace t => rfl
  | union t => simp [apply, applyToMembers]
  | inter t => simp [apply, applyToMembers]
  | sdiff t => simp [apply, applyToMembers]
  | symmDiff t =>
    simp only [apply, applyToMembers, mem_members, mem_symmDiff, Set.mem_union, Set.mem_sdiff]
    tauto
  | complement => simp [apply, applyToMembers]

theorem members_foldl_apply (s : RegisterSet) (changes : List Change) :
    (changes.foldl apply s).members = changes.foldl applyToMembers s.members := by
  induction changes generalizing s with
  | nil => rfl
  | cons c changes ih => rw [List.foldl_cons, List.foldl_cons, ih, members_apply]

theorem members_empty : (∅ : RegisterSet).members = ∅ := by
  ext r
  simp

/-- After any changes the bits are those of the set that the changes leave. -/
theorem members_ofChanges (changes : List Change) :
    (ofChanges changes).members = membersAfter changes := by
  unfold ofChanges membersAfter
  rw [members_foldl_apply, members_empty]

/--
After any changes all that can be asked of the bits is answered as for the set that the changes
leave: members, subsets, common members and emptiness; the members are listed once each, in
encoding order; and the texts of two such sets, filled up to one width, are equal only if the sets
are.
-/
theorem ofChanges_represents (changes : List Change) :
    (∀ r, (ofChanges changes).contains r = true ↔ r ∈ membersAfter changes) ∧
    (∀ t : RegisterSet,
      t.isSubset (ofChanges changes) = true ↔ t.members ⊆ membersAfter changes) ∧
    (∀ t : RegisterSet,
      (ofChanges changes).meets t = true ↔ (membersAfter changes ∩ t.members).Nonempty) ∧
    ((ofChanges changes).isEmpty = true ↔ membersAfter changes = ∅) ∧
    (∀ r, r ∈ (ofChanges changes).toList ↔ r ∈ membersAfter changes) ∧
    ((ofChanges changes).toList.Pairwise fun a b => a.encoding < b.encoding) ∧
    ∀ changes' width,
      (ofChanges changes).padded width = (ofChanges changes').padded width ↔
        membersAfter changes = membersAfter changes' := by
  rw [← members_ofChanges]
  refine ⟨fun r => mem_members.symm, fun t => isSubset_iff_members, fun t => meets_iff_members,
    isEmpty_iff_members, fun r => ?_, pairwise_toList _, fun changes' width => ?_⟩
  · rw [mem_toList, mem_members]
  · rw [← members_ofChanges, members_injective.eq_iff]
    constructor
    · intro h
      rw [← ofWords_padded (ofChanges changes) width, h, ofWords_padded]
    · intro h
      rw [h]

end RegisterSet

end Amd64Effects
