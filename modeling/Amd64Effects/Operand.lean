import Amd64Effects.Binary64
import Amd64Effects.Register.Set

/-!
# Operands

One operand slot of an instruction: how the operand's value or address is found, and the index,
offset and symbol that go with it. Only some combinations make sense and only those can be read from
text, but an analysis may put together any of them, and every function here gives each one a
meaning.
-/

namespace Amd64Effects

/-- How the value or the address of an operand is found. -/
inductive Operand.Mode where
  /-- The slot is not used. -/
  | none
  | register (r : Register)
  /-- Memory at an offset from a base register. -/
  | indirect (base : Register)
  | immediate (value : Int64)
  | floatImmediate (value : Binary64)
  /-- Memory at a global symbol. -/
  | global
  /-- Memory at a symbol that only its file can see. -/
  | fileLocal
  /-- Memory at a named slot of the local frame. -/
  | frameSlot
  /-- Memory at an argument. -/
  | argument
  /-- A label or a position to branch to. -/
  | target
  deriving DecidableEq, Repr

/-- An index register and the factor that it is multiplied by. -/
structure Operand.Index where
  register : Register
  scale : UInt8
  deriving DecidableEq, Repr

structure Operand where
  mode : Operand.Mode
  index : Option Operand.Index := none
  offset : Int64 := 0
  symbol : Option String := none
  deriving DecidableEq, Repr

namespace Operand

/-- The operand of an unused slot. -/
def absent : Operand := { mode := .none }

def isAbsent (o : Operand) : Bool :=
  match o.mode with
  | .none => true
  | _ => false

/-- Whether an operand is an immediate integer. -/
def isImmediate (o : Operand) : Bool :=
  match o.mode with
  | .immediate _ => true
  | _ => false

def isMemory (o : Operand) : Bool :=
  match o.mode with
  | .indirect _ | .global | .fileLocal | .frameSlot | .argument => true
  | .none | .register _ | .immediate _ | .floatImmediate _ | .target => false

/-- The register that the offset of an operand is taken from. -/
def base? (o : Operand) : Option Register :=
  match o.mode with
  | .indirect base => some base
  | _ => none

/--
The registers that are read to find an operand's address: the base and the index of memory. An index
on an operand that is not memory reads nothing.
-/
def addressRegisters (o : Operand) : RegisterSet :=
  if o.isMemory then .ofList (o.base?.toList ++ (o.index.map Index.register).toList) else ∅

theorem mem_addressRegisters {o : Operand} {r : Register} :
    r ∈ o.addressRegisters ↔
      o.isMemory = true ∧ (o.base? = some r ∨ ∃ k, o.index = some ⟨r, k⟩) := by
  unfold addressRegisters
  cases h : o.isMemory
  · simp
  · have hindex : o.index.map Index.register = some r ↔ ∃ k, o.index = some ⟨r, k⟩ := by
      cases hi : o.index with
      | none => simp
      | some i => obtain ⟨s, k⟩ := i; simp
    simp [hindex]

/-! ## Comparison -/

/-- Equal modes, where floating-point immediates are compared as numbers. -/
def Mode.equal : Mode → Mode → Bool
  | .floatImmediate x, .floatImmediate y => x.equal y
  | m, n => m == n

/--
Equal in all parts, where floating-point immediates are compared as numbers: an operand that holds
what is no number does not even equal itself.
-/
def equal (o p : Operand) : Bool :=
  o.mode.equal p.mode && o.index == p.index && o.offset == p.offset && o.symbol == p.symbol

end Operand

end Amd64Effects
