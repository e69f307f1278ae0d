import Amd64Effects.Flag

/-!
# Sets of flags

A set of flags is a word of thirty-two bits. Bits that belong to no flag are kept as they are: they
take part in the set operations and make a set non-empty, but they have no name in its text.
-/

namespace Amd64Effects

structure FlagSet where
  bits : BitVec 32
  deriving DecidableEq, Repr

namespace FlagSet

/-! ## Membership and operations -/

/-- Whether the bit of a flag is set. -/
def contains (s : FlagSet) (f : Flag) : Bool :=
  s.bits[f.bit]

instance : Membership Flag FlagSet where
  mem s f := s.contains f = true

instance (f : Flag) (s : FlagSet) : Decidable (f ∈ s) :=
  inferInstanceAs (Decidable (s.contains f = true))

theorem mem_def {f : Flag} {s : FlagSet} : f ∈ s ↔ s.bits[f.bit] = true := Iff.rfl

theorem contains_iff {f : Flag} {s : FlagSet} : s.contains f = true ↔ f ∈ s := Iff.rfl

instance : EmptyCollection FlagSet := ⟨⟨0⟩⟩

/-- The set of one flag. -/
def single (f : Flag) : FlagSet :=
  ⟨BitVec.twoPow 32 f.bit⟩

instance : Singleton Flag FlagSet := ⟨single⟩
instance : Union FlagSet := ⟨fun s t => ⟨s.bits ||| t.bits⟩⟩
instance : Insert Flag FlagSet := ⟨fun f s => single f ∪ s⟩

/-- Whether no bit is set, one that belongs to no flag included. -/
def isEmpty (s : FlagSet) : Bool :=
  s.bits == 0

@[simp] theorem not_mem_empty (f : Flag) : f ∉ (∅ : FlagSet) := by
  cases f <;> decide

@[simp] theorem mem_union {f : Flag} {s t : FlagSet} : f ∈ s ∪ t ↔ f ∈ s ∨ f ∈ t := by
  show (s.bits ||| t.bits)[f.bit] = true ↔ _
  simp [mem_def]

@[simp] theorem mem_singleton {f x : Flag} : f ∈ ({x} : FlagSet) ↔ f = x := by
  show (BitVec.twoPow 32 x.bit)[f.bit] = true ↔ _
  simp only [Fin.getElem_fin, BitVec.getElem_twoPow, decide_eq_true_eq]
  exact ⟨fun h => Flag.bit_injective (Fin.ext h), fun h => by rw [h]⟩

@[simp] theorem mem_insert {f x : Flag} {s : FlagSet} : f ∈ insert x s ↔ f = x ∨ f ∈ s := by
  show f ∈ ({x} : FlagSet) ∪ s ↔ _
  rw [mem_union, mem_singleton]

theorem isEmpty_iff {s : FlagSet} : s.isEmpty = true ↔ s = ∅ := by
  obtain ⟨x⟩ := s
  show (x == 0) = true ↔ (⟨x⟩ : FlagSet) = ⟨0⟩
  simp

/-- Whether one of the listed flags is in the set. -/
def containsAny (s : FlagSet) (flags : List Flag) : Bool :=
  flags.any s.contains

/-- Whether all of the listed flags are in the set. -/
def containsAll (s : FlagSet) (flags : List Flag) : Bool :=
  flags.all s.contains

@[simp] theorem containsAny_iff {s : FlagSet} {flags : List Flag} :
    s.containsAny flags = true ↔ ∃ f ∈ flags, f ∈ s := by
  simp [containsAny, contains_iff]

@[simp] theorem containsAll_iff {s : FlagSet} {flags : List Flag} :
    s.containsAll flags = true ↔ ∀ f ∈ flags, f ∈ s := by
  simp [containsAll, contains_iff]

/-! ## What the flags say -/

/-- The size classes whose flags are present. -/
def sizes (s : FlagSet) : List SizeClass :=
  SizeClass.all.filter fun c => s.contains c.flag

/-- The size class, where exactly one is present. -/
def size? (s : FlagSet) : Option SizeClass :=
  match s.sizes with
  | [c] => some c
  | _ => none

/-- How the left slot is used. -/
def left (s : FlagSet) : Access :=
  .ofPair (s.contains .leftRead) (s.contains .leftWrite)

/-- How the right slot is used. -/
def right (s : FlagSet) : Access :=
  .ofPair (s.contains .rightRead) (s.contains .rightWrite)

/-- Whether the left slot is used at all, also only for its address. -/
def touchesLeft (s : FlagSet) : Bool :=
  s.containsAny [.leftAddress, .leftRead, .leftWrite]

/-- Whether the right slot is used at all, also only for its address. -/
def touchesRight (s : FlagSet) : Bool :=
  s.containsAny [.rightAddress, .rightRead, .rightWrite]

/-- Whether the carry bit is set, used or killed. -/
def affectsCarry (s : FlagSet) : Bool :=
  s.containsAny [.setCarry, .useCarry, .killCarry]

/-! ## Text -/

/-- The flags of the set, in the order of their bits. -/
def toList (s : FlagSet) : List Flag :=
  Flag.all.filter s.contains

@[simp] theorem mem_toList {f : Flag} {s : FlagSet} : f ∈ s.toList ↔ f ∈ s := by
  simp only [toList, List.mem_filter, Flag.mem_all, true_and]
  exact Iff.rfl

/--
The names of the flags, separated by spaces; a dash stands for the word without a set bit. A set of
bits that belong to no flag therefore has an empty text.
-/
def text (s : FlagSet) : String :=
  if s.isEmpty then "-" else " ".intercalate (s.toList.map Flag.name)

end FlagSet

end Amd64Effects
