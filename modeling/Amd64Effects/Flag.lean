/-!
# Property flags

What a descriptor can say about an instruction: the size of its operands, how it uses its two slots,
what it does to the carry bit, and how control leaves it. Each flag has a fixed bit in a word of
thirty-two; bit 0 and the bits above 26 belong to no flag. Six of the flags stand for a size, and
those that read or write a slot tell the access to it.
-/

namespace Amd64Effects

inductive Flag where
  /-- An annotation of the assembler, such as TEXT or PCDATA. -/
  | pseudo
  /-- Nothing to say about the instruction, which is known all the same. -/
  | ok
  | sizeByte | sizeWord | sizeLong | sizeQuad | sizeSingle | sizeDouble
  /-- The address of the left operand is taken. -/
  | leftAddress
  | leftRead | leftWrite
  /-- The address of the right operand is taken. -/
  | rightAddress
  | rightRead | rightWrite
  | setCarry | useCarry
  /-- The carry bit is never looked at after the instruction. -/
  | killCarry
  | move
  /-- The value is moved into another representation. -/
  | conversion
  | conditionalJump
  /-- Control does not fall through to the next instruction. -/
  | breaksFlow
  | call
  | jump
  /-- The instruction never reaches an analysis as code. -/
  | skip
  /-- The shift count is in CX unless it is an immediate. -/
  | shiftCount
  /-- The product goes to DX:AX unless there is a destination. -/
  | wideProduct
  deriving DecidableEq, Repr

namespace Flag

/-- Every flag, in the order of their bits. -/
def all : List Flag :=
  [pseudo, ok, sizeByte, sizeWord, sizeLong, sizeQuad, sizeSingle, sizeDouble,
   leftAddress, leftRead, leftWrite, rightAddress, rightRead, rightWrite,
   setCarry, useCarry, killCarry, move, conversion, conditionalJump, breaksFlow,
   call, jump, skip, shiftCount, wideProduct]

theorem mem_all (f : Flag) : f ∈ all := by
  cases f <;> decide

/-- The bit of a flag. -/
def bit : Flag → Fin 32
  | pseudo => 1 | ok => 2
  | sizeByte => 3 | sizeWord => 4 | sizeLong => 5 | sizeQuad => 6
  | sizeSingle => 7 | sizeDouble => 8
  | leftAddress => 9 | leftRead => 10 | leftWrite => 11
  | rightAddress => 12 | rightRead => 13 | rightWrite => 14
  | setCarry => 15 | useCarry => 16 | killCarry => 17
  | move => 18 | conversion => 19 | conditionalJump => 20 | breaksFlow => 21
  | call => 22 | jump => 23 | skip => 24 | shiftCount => 25 | wideProduct => 26

theorem bit_injective {f g : Flag} (h : f.bit = g.bit) : f = g := by
  have hall : ∀ f ∈ all, ∀ g ∈ all, f.bit = g.bit → f = g := by decide
  exact hall f (mem_all f) g (mem_all g) h

def name : Flag → String
  | pseudo => "PSEUDO" | ok => "OK"
  | sizeByte => "SIZE_B" | sizeWord => "SIZE_W" | sizeLong => "SIZE_L" | sizeQuad => "SIZE_Q"
  | sizeSingle => "SIZE_F" | sizeDouble => "SIZE_D"
  | leftAddress => "LEFT_ADDR" | leftRead => "LEFT_READ" | leftWrite => "LEFT_WRITE"
  | rightAddress => "RIGHT_ADDR" | rightRead => "RIGHT_READ" | rightWrite => "RIGHT_WRITE"
  | setCarry => "SET_CARRY" | useCarry => "USE_CARRY" | killCarry => "KILL_CARRY"
  | move => "MOVE" | conversion => "CONV" | conditionalJump => "CJMP" | breaksFlow => "BREAK"
  | call => "CALL" | jump => "JUMP" | skip => "SKIP"
  | shiftCount => "SHIFT_CX" | wideProduct => "IMUL_AXDX"

end Flag

/-!
## Size classes

The size of what an instruction writes on its right side, or reads there if it writes nothing: four
integer sizes and two of floating point.
-/

inductive SizeClass where
  | byte | word | long | quad | single | double
  deriving DecidableEq, Repr

namespace SizeClass

/-- Every size class, in the order of their flags. -/
def all : List SizeClass := [byte, word, long, quad, single, double]

theorem mem_all (c : SizeClass) : c ∈ all := by
  cases c <;> decide

def flag : SizeClass → Flag
  | byte => .sizeByte
  | word => .sizeWord
  | long => .sizeLong
  | quad => .sizeQuad
  | single => .sizeSingle
  | double => .sizeDouble

/-- The width in bytes. -/
def width : SizeClass → Nat
  | byte => 1
  | word => 2
  | long | single => 4
  | quad | double => 8

def isFloat : SizeClass → Bool
  | single | double => true
  | byte | word | long | quad => false

/-- The width in words, as a listing shows it. -/
def text (c : SizeClass) : String :=
  if c.isFloat then toString c.width ++ " bytes float" else toString c.width ++ " bytes"

end SizeClass

/-!
## Access to an operand slot

An instruction has a left slot and a right slot. It may read the operand of a slot, write it, do
both, or leave the slot alone.
-/

inductive Access where
  | none
  | read
  | write
  | readWrite
  deriving DecidableEq, Repr

namespace Access

def ofPair : (reads writes : Bool) → Access
  | false, false => none
  | true, false => read
  | false, true => write
  | true, true => readWrite

def reads : Access → Bool
  | read | readWrite => true
  | none | write => false

def writes : Access → Bool
  | write | readWrite => true
  | none | read => false

@[simp] theorem reads_ofPair (r w : Bool) : (ofPair r w).reads = r := by
  cases r <;> cases w <;> rfl

@[simp] theorem writes_ofPair (r w : Bool) : (ofPair r w).writes = w := by
  cases r <;> cases w <;> rfl

/-- The letters of a listing: `r`, `w`, `rw`, or a dash for a slot left alone. -/
def letters : Access → String
  | none => "-"
  | read => "r"
  | write => "w"
  | readWrite => "rw"

end Access

end Amd64Effects
