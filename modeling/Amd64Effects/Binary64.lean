/-!
# Floating-point numbers of 64 bits

A number of 64 bits is a sign and a magnitude, the word without its sign bit. Magnitudes grow with
the numbers they stand for: those below `2047 · 2^52` are the finite ones, that magnitude itself is
infinity, and those above it are no numbers at all.

Every finite number is a multiple of the least one, `2^-1074`, so its exact value is a natural
number of such units (`Binary64.units`).
-/

namespace Amd64Effects

structure Binary64 where
  bits : BitVec 64
  deriving DecidableEq, Repr

namespace Binary64

/-- The magnitude of infinity. -/
def infinity : Nat := 2047 * Nat.pow 2 52

def isNegative (x : Binary64) : Bool :=
  Nat.pow 2 63 ≤ x.bits.toNat

/-- The word without its sign bit. -/
def magnitude (x : Binary64) : Nat :=
  x.bits.toNat % Nat.pow 2 63

/-- The number with a sign and a magnitude. -/
def ofParts (negative : Bool) (magnitude : Nat) : Binary64 :=
  ⟨BitVec.ofNat 64 ((if negative then Nat.pow 2 63 else 0) + magnitude)⟩

theorem ofParts_parts (x : Binary64) : ofParts x.isNegative x.magnitude = x := by
  obtain ⟨b⟩ := x
  have hlt : b.toNat < 2 ^ 64 := b.isLt
  show (⟨BitVec.ofNat 64 _⟩ : Binary64) = ⟨b⟩
  congr 1
  apply BitVec.eq_of_toNat_eq
  simp only [isNegative, magnitude, BitVec.toNat_ofNat, decide_eq_true_eq, Nat.pow_eq]
  split <;> omega

theorem magnitude_ofParts {negative : Bool} {n : Nat} (h : n < Nat.pow 2 63) :
    (ofParts negative n).magnitude = n := by
  rw [Nat.pow_eq] at h
  unfold ofParts magnitude
  rw [BitVec.toNat_ofNat]
  cases negative <;> simp <;> omega

theorem isNegative_ofParts {negative : Bool} {n : Nat} (h : n < Nat.pow 2 63) :
    (ofParts negative n).isNegative = negative := by
  rw [Nat.pow_eq] at h
  unfold ofParts isNegative
  rw [BitVec.toNat_ofNat]
  cases negative <;> simp <;> omega

def isFinite (x : Binary64) : Bool :=
  x.magnitude < infinity

def isNaN (x : Binary64) : Bool :=
  infinity < x.magnitude

/--
The exact value of a finite magnitude in units of `2^-1074`. Its lower 52 bits are a fraction; the
bits above them, where there are any, add a leading one to the fraction and scale it.
-/
def units (magnitude : Nat) : Nat :=
  let scale := magnitude / Nat.pow 2 52
  let fraction := magnitude % Nat.pow 2 52
  if scale = 0 then fraction else (Nat.pow 2 52 + fraction) * Nat.pow 2 (scale - 1)

/-- Numerical equality: the two zeros are equal, and what is no number equals nothing. -/
def equal (x y : Binary64) : Bool :=
  !x.isNaN && !y.isNaN && (x.bits == y.bits || (x.magnitude == 0 && y.magnitude == 0))

end Binary64

end Amd64Effects
