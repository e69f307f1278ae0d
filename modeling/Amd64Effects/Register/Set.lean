import Amd64Effects.Register
import Amd64Effects.Text.Format

/-!
# Sets of registers

A set of registers is a word of thirty-two bits, one for each register at its `index`. Every
operation is a bitwise one; what it does to the members is stated beside it, and nothing else about
the bits matters: two sets with the same members are equal (`RegisterSet.ext_mem`).
-/

namespace Amd64Effects

structure RegisterSet where
  bits : BitVec 32
  deriving DecidableEq, Repr

namespace RegisterSet

/-! ## Membership -/

/-- Whether the bit of a register is set. -/
def contains (s : RegisterSet) (r : Register) : Bool :=
  s.bits[r.index]

instance : Membership Register RegisterSet where
  mem s r := s.contains r = true

instance (r : Register) (s : RegisterSet) : Decidable (r ∈ s) :=
  inferInstanceAs (Decidable (s.contains r = true))

theorem mem_def {r : Register} {s : RegisterSet} : r ∈ s ↔ s.bits[r.index] = true := Iff.rfl

/-! ## Operations -/

instance : EmptyCollection RegisterSet := ⟨⟨0⟩⟩

/-- The set of one register. -/
def single (r : Register) : RegisterSet :=
  ⟨BitVec.twoPow 32 r.index⟩

instance : Singleton Register RegisterSet := ⟨single⟩
instance : Union RegisterSet := ⟨fun s t => ⟨s.bits ||| t.bits⟩⟩
instance : Inter RegisterSet := ⟨fun s t => ⟨s.bits &&& t.bits⟩⟩
instance : SDiff RegisterSet := ⟨fun s t => ⟨s.bits &&& ~~~t.bits⟩⟩
instance : Insert Register RegisterSet := ⟨fun r s => single r ∪ s⟩

/-- The registers that are in exactly one of two sets. -/
def symmDiff (s t : RegisterSet) : RegisterSet :=
  ⟨s.bits ^^^ t.bits⟩

/-- The registers that are not in a set. -/
def complement (s : RegisterSet) : RegisterSet :=
  ⟨~~~s.bits⟩

/-- The set of the listed registers. -/
def ofList (registers : List Register) : RegisterSet :=
  registers.foldr insert ∅

/-! ## Members after an operation -/

@[simp] theorem not_mem_empty (r : Register) : r ∉ (∅ : RegisterSet) := by
  cases r <;> decide

@[simp] theorem mem_union {r : Register} {s t : RegisterSet} : r ∈ s ∪ t ↔ r ∈ s ∨ r ∈ t := by
  show (s.bits ||| t.bits)[r.index] = true ↔ _
  simp [mem_def]

@[simp] theorem mem_inter {r : Register} {s t : RegisterSet} : r ∈ s ∩ t ↔ r ∈ s ∧ r ∈ t := by
  show (s.bits &&& t.bits)[r.index] = true ↔ _
  simp [mem_def]

@[simp] theorem mem_sdiff {r : Register} {s t : RegisterSet} : r ∈ s \ t ↔ r ∈ s ∧ r ∉ t := by
  show (s.bits &&& ~~~t.bits)[r.index] = true ↔ _
  simp [mem_def]

@[simp] theorem mem_symmDiff {r : Register} {s t : RegisterSet} :
    r ∈ s.symmDiff t ↔ ¬(r ∈ s ↔ r ∈ t) := by
  show (s.bits ^^^ t.bits)[r.index] = true ↔ _
  simp [mem_def]

@[simp] theorem mem_complement {r : Register} {s : RegisterSet} : r ∈ s.complement ↔ r ∉ s := by
  show (~~~s.bits)[r.index] = true ↔ _
  simp [mem_def]

@[simp] theorem mem_singleton {r x : Register} : r ∈ ({x} : RegisterSet) ↔ r = x := by
  show (BitVec.twoPow 32 x.index)[r.index] = true ↔ _
  simp only [Fin.getElem_fin, BitVec.getElem_twoPow, decide_eq_true_eq]
  exact ⟨fun h => Register.index_injective (Fin.ext h), fun h => by rw [h]⟩

@[simp] theorem mem_insert {r x : Register} {s : RegisterSet} :
    r ∈ insert x s ↔ r = x ∨ r ∈ s := by
  show r ∈ ({x} : RegisterSet) ∪ s ↔ _
  rw [mem_union, mem_singleton]

@[simp] theorem mem_ofList {r : Register} {registers : List Register} :
    r ∈ ofList registers ↔ r ∈ registers := by
  induction registers with
  | nil => simp [ofList]
  | cons x rest ih => simpa [ofList] using or_congr_right ih

/-- A set is given by its members. -/
theorem ext_mem {s t : RegisterSet} (h : ∀ r, r ∈ s ↔ r ∈ t) : s = t := by
  have hbit : ∀ r : Register, s.bits[r.index] = t.bits[r.index] := fun r => by
    have hr := h r
    rw [mem_def, mem_def] at hr
    exact Bool.eq_iff_iff.mpr hr
  obtain ⟨x⟩ := s
  obtain ⟨y⟩ := t
  congr 1
  ext i hi
  obtain ⟨r, hr⟩ := Register.index_surjective ⟨i, hi⟩
  simpa only [Fin.getElem_fin, hr] using hbit r

/-! ## Comparison -/

/-- Whether a set has no member. -/
def isEmpty (s : RegisterSet) : Bool :=
  s.bits == 0

/-- Whether every member of `s` is one of `t`. -/
def isSubset (s t : RegisterSet) : Bool :=
  s.bits &&& t.bits == s.bits

/-- Whether two sets have a member in common. -/
def meets (s t : RegisterSet) : Bool :=
  s.bits &&& t.bits != 0

instance : HasSubset RegisterSet := ⟨fun s t => ∀ r ∈ s, r ∈ t⟩

theorem isEmpty_iff {s : RegisterSet} : s.isEmpty = true ↔ s = ∅ := by
  obtain ⟨x⟩ := s
  show (x == 0) = true ↔ (⟨x⟩ : RegisterSet) = ⟨0⟩
  simp

theorem isSubset_iff {s t : RegisterSet} : s.isSubset t = true ↔ s ⊆ t := by
  have hsubset : s.isSubset t = true ↔ s ∩ t = s := by
    obtain ⟨x⟩ := s
    obtain ⟨y⟩ := t
    show (x &&& y == x) = true ↔ (⟨x &&& y⟩ : RegisterSet) = ⟨x⟩
    simp
  rw [hsubset]
  constructor
  · intro h r hr
    rw [← h] at hr
    exact (mem_inter.mp hr).2
  · intro h
    exact ext_mem fun r => ⟨fun hr => (mem_inter.mp hr).1, fun hr => mem_inter.mpr ⟨hr, h r hr⟩⟩

theorem meets_iff {s t : RegisterSet} : s.meets t = true ↔ ∃ r, r ∈ s ∧ r ∈ t := by
  have hmeets : s.meets t = true ↔ s ∩ t ≠ ∅ := by
    obtain ⟨x⟩ := s
    obtain ⟨y⟩ := t
    show (x &&& y != 0) = true ↔ (⟨x &&& y⟩ : RegisterSet) ≠ ⟨0⟩
    simp
  rw [hmeets]
  constructor
  · intro h
    refine Classical.byContradiction fun hnone => h (ext_mem fun r => ?_)
    simp only [mem_inter, not_mem_empty, iff_false]
    exact fun hr => hnone ⟨r, hr⟩
  · rintro ⟨r, hs, ht⟩ h
    exact not_mem_empty r (h ▸ mem_inter.mpr ⟨hs, ht⟩)

/-! ## Listing -/

/-- The members, in encoding order. -/
def toList (s : RegisterSet) : List Register :=
  Register.all.filter s.contains

@[simp] theorem mem_toList {r : Register} {s : RegisterSet} : r ∈ s.toList ↔ r ∈ s := by
  simp only [toList, List.mem_filter, Register.mem_all, true_and]
  exact Iff.rfl

/-- The names of the members, separated by spaces; a dash stands for the empty set. -/
def text (s : RegisterSet) : String :=
  if s.isEmpty then "-" else " ".intercalate (s.toList.map Register.name)

/-- The text, filled up with spaces on its right to a width. -/
def padded (s : RegisterSet) (width : Nat) : String :=
  Text.padRight width s.text

/-!
## Changes of a register set

The steps by which a set of registers is built up, and what a sequence of them leaves.
-/

inductive Change where
  | insert (r : Register)
  /-- Replaces the set by that of one register. -/
  | replaceBySingle (r : Register)
  | replace (s : RegisterSet)
  | union (s : RegisterSet)
  | inter (s : RegisterSet)
  | sdiff (s : RegisterSet)
  | symmDiff (s : RegisterSet)
  | complement
  deriving DecidableEq, Repr

def apply (s : RegisterSet) : Change → RegisterSet
  | .insert r => insert r s
  | .replaceBySingle r => {r}
  | .replace t => t
  | .union t => s ∪ t
  | .inter t => s ∩ t
  | .sdiff t => s \ t
  | .symmDiff t => s.symmDiff t
  | .complement => s.complement

/-- The set that is left when the changes are applied to the empty set, one after the other. -/
def ofChanges (changes : List Change) : RegisterSet :=
  changes.foldl apply ∅

end RegisterSet

end Amd64Effects
