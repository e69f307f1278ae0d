import Amd64Effects.Flag.Set
import Amd64Effects.Opcode
import Amd64Effects.Register.Set

/-!
# Descriptors

A descriptor is what is known of an instruction: its flags and the registers that it uses and
defines without naming them as operands. In the entry of an opcode these are the registers that
every occurrence uses and defines; in the descriptor of an occurrence they are complete, and
`addressing` holds the used registers that form the address of an operand.
-/

namespace Amd64Effects

structure Descriptor where
  flags : FlagSet
  uses : RegisterSet := ∅
  defines : RegisterSet := ∅
  addressing : RegisterSet := ∅
  deriving DecidableEq, Repr

namespace Descriptor

/-- The descriptor that says nothing at all. -/
def empty : Descriptor := { flags := ∅ }

/-- Flags, used and defined registers, and the addressing registers where there are any. -/
def text (d : Descriptor) : String :=
  "flags: " ++ d.flags.text ++ "  use: " ++ d.uses.text ++ "  set: " ++ d.defines.text ++
    (if d.addressing.isEmpty then "" else "  index: " ++ d.addressing.text)

end Descriptor

/-!
## The entry of each amd64 opcode

An opcode's entry holds what is true of all its occurrences. Opcodes of a family share a shape that
depends at most on the size class; an opcode that fits no family is described by itself. The
families with a variant for each size are complete even where a code generator only emits some of
them.
-/

namespace Descriptor

/-! ## Families -/

/-- The left operand is combined into the right one; the carry bit tells of an overflow. -/
def arithmetic (c : SizeClass) : Descriptor :=
  { flags := {c.flag, .leftRead, .rightRead, .rightWrite, .setCarry} }

/-- Arithmetic that takes the carry bit in as well. -/
def arithmeticWithCarry (c : SizeClass) : Descriptor :=
  { flags := {c.flag, .leftRead, .rightRead, .rightWrite, .setCarry, .useCarry} }

/-- The left operand is combined into the right one without a carry. -/
def floatArithmetic (c : SizeClass) : Descriptor :=
  { flags := {c.flag, .leftRead, .rightRead, .rightWrite} }

/-- The right operand is changed in place. -/
def inPlace (c : SizeClass) : Descriptor :=
  { flags := {c.flag, .rightRead, .rightWrite} }

def negation (c : SizeClass) : Descriptor :=
  { flags := {c.flag, .rightRead, .rightWrite, .setCarry} }

/-- Both operands are read, and the outcome is in the carry bit. -/
def comparison (c : SizeClass) : Descriptor :=
  { flags := {c.flag, .leftRead, .rightRead, .setCarry} }

/-- Both operands are read, and the carry bit is left alone. -/
def quietComparison (c : SizeClass) : Descriptor :=
  { flags := {c.flag, .leftRead, .rightRead} }

/-- A product or quotient of a byte, kept in AX. -/
def byteAccumulator : Descriptor :=
  { flags := {.sizeByte, .leftRead, .setCarry}, uses := {.ax}, defines := {.ax} }

/-- DX:AX divided by the left operand. -/
def division (c : SizeClass) : Descriptor :=
  { flags := {c.flag, .leftRead, .setCarry}, uses := {.ax, .dx}, defines := {.ax, .dx} }

/-- AX times the left operand, in DX:AX. -/
def product (c : SizeClass) : Descriptor :=
  { flags := {c.flag, .leftRead, .setCarry}, uses := {.ax}, defines := {.ax, .dx} }

/-- A product whose place depends on whether the occurrence has a right operand. -/
def signedProduct (c : SizeClass) : Descriptor :=
  { flags := {c.flag, .leftRead, .wideProduct, .setCarry} }

/-- AX extended into DX by its sign. -/
def signExtension : Descriptor :=
  { flags := {.ok}, uses := {.ax}, defines := {.ax, .dx} }

def conversion (c : SizeClass) : Descriptor :=
  { flags := {c.flag, .leftRead, .rightWrite, .conversion} }

def plainMove (c : SizeClass) : Descriptor :=
  { flags := {c.flag, .leftRead, .rightWrite, .move} }

def exchange (c : SizeClass) : Descriptor :=
  { flags := {c.flag, .leftRead, .leftWrite, .rightRead, .rightWrite} }

/-- A block is copied from SI to DI. -/
def blockCopy : Descriptor :=
  { flags := {.ok}, uses := {.di, .si}, defines := {.di, .si} }

/-- A block at DI is filled with AX. -/
def blockFill : Descriptor :=
  { flags := {.ok}, uses := {.ax, .di}, defines := {.di} }

/-- The next block instruction is repeated as often as CX says. -/
def repetition : Descriptor :=
  { flags := {.ok}, uses := {.cx}, defines := {.cx} }

def shift (c : SizeClass) : Descriptor :=
  { flags := {c.flag, .leftRead, .rightRead, .rightWrite, .shiftCount, .setCarry} }

/-- A rotation in which the carry bit takes part. -/
def carryRotation (c : SizeClass) : Descriptor :=
  { flags := {c.flag, .leftRead, .rightRead, .rightWrite, .shiftCount, .setCarry, .useCarry} }

end Descriptor

namespace Opcode

/-! ## The entries -/

/-- What is true of every occurrence of an opcode. -/
def entry : Opcode → Descriptor
  | type => { flags := {.pseudo, .skip} }
  | text | funcdata | pcdata => { flags := {.pseudo} }
  | vardef | varkill => { flags := {.pseudo, .rightWrite} }
  | undef => { flags := {.breaksFlow} }
  | usefield | cld | std => { flags := {.ok} }
  | checknil => { flags := {.leftRead} }
  -- stands for the annotations of used and set variables, not for the machine's instruction
  | nop => { flags := {.leftRead, .rightWrite} }
  | addb | andb | orb | subb | xorb => .arithmetic .byte
  | addw | andw | orw | subw | xorw => .arithmetic .word
  | addl | andl | orl | subl | xorl => .arithmetic .long
  | addq | andq | orq | subq | xorq => .arithmetic .quad
  | sbbb => .arithmeticWithCarry .byte
  | adcw | sbbw => .arithmeticWithCarry .word
  | adcl | sbbl => .arithmeticWithCarry .long
  | adcq | sbbq => .arithmeticWithCarry .quad
  | addss | subss | mulss | divss => .floatArithmetic .single
  | addsd | subsd | mulsd | divsd => .floatArithmetic .double
  | decb | incb | notb => .inPlace .byte
  | decw | incw | notw => .inPlace .word
  | decl | incl | notl => .inPlace .long
  | decq | incq | notq => .inPlace .quad
  | negb => .negation .byte
  | negw => .negation .word
  | negl => .negation .long
  | negq => .negation .quad
  | cmpb | testb => .comparison .byte
  | cmpw | testw => .comparison .word
  | cmpl | testl => .comparison .long
  | cmpq | testq => .comparison .quad
  | comiss => .comparison .single
  | comisd => .comparison .double
  | ucomiss => .quietComparison .single
  | ucomisd => .quietComparison .double
  | divb | idivb | imulb | mulb => .byteAccumulator
  | divw | idivw => .division .word
  | divl | idivl => .division .long
  | divq | idivq => .division .quad
  | mulw => .product .word
  | mull => .product .long
  | mulq => .product .quad
  | imulw => .signedProduct .word
  | imull => .signedProduct .long
  | imulq => .signedProduct .quad
  | cdq | cqo | cwd => .signExtension
  | movbwsx | movbwzx => .conversion .word
  | cvtsd2sl | cvtss2sl | cvttsd2sl | cvttss2sl
  | movblsx | movblzx | movwlsx | movwlzx | movql => .conversion .long
  | cvtsd2sq | cvtss2sq | cvttsd2sq | cvttss2sq
  | movbqsx | movbqzx | movwqsx | movwqzx | movlqsx | movlqzx => .conversion .quad
  | cvtsd2ss | cvtsl2ss | cvtsq2ss => .conversion .single
  | cvtss2sd | cvtsl2sd | cvtsq2sd => .conversion .double
  | movb => .plainMove .byte
  | movw => .plainMove .word
  | movl => .plainMove .long
  | movq => .plainMove .quad
  | movss => .plainMove .single
  -- the aligned move of a pair is the faster spelling of a move of a double
  | movsd | movapd => .plainMove .double
  | leal | leaq => { flags := {.leftAddress, .rightWrite} }
  | popq => { flags := {.sizeQuad, .rightWrite} }
  | pushq => { flags := {.sizeQuad, .leftRead} }
  | xchgb => .exchange .byte
  | xchgw => .exchange .word
  | xchgl => .exchange .long
  | xchgq => .exchange .quad
  | movsb | movsw | movsl | movsq => .blockCopy
  -- moves each word through CX
  | duffcopy => { Descriptor.blockCopy with defines := {.di, .si, .cx} }
  | stosb | stosw | stosl | stosq | duffzero => .blockFill
  | rep | repn => .repetition
  | rolb | rorb | salb | sarb | shlb | shrb => .shift .byte
  | rolw | rorw | salw | sarw | shlw | shrw => .shift .word
  | roll | rorl | sall | sarl | shll | shrl => .shift .long
  | rolq | rorq | salq | sarq | shlq | shrq => .shift .quad
  | rclb | rcrb => .carryRotation .byte
  | rclw | rcrw => .carryRotation .word
  | rcll | rcrl => .carryRotation .long
  | rclq | rcrq => .carryRotation .quad
  | jcc | jcs | jeq | jge | jgt | jhi | jle | jls
  | jlt | jmi | jne | joc | jos | jpc | jpl | jps => { flags := {.conditionalJump, .useCarry} }
  | jmp => { flags := {.jump, .breaksFlow, .killCarry} }
  | call => { flags := {.rightAddress, .call, .killCarry} }
  | ret => { flags := {.breaksFlow, .killCarry} }

/--
Whether a lone operand of this opcode is its right one: it is for branches, and for the opcodes that
touch their right slot and leave the left one alone, such as INCQ or POPQ.
-/
def placesLoneOperandRight (op : Opcode) : Bool :=
  op.isBranch || (!op.entry.flags.touchesLeft && op.entry.flags.touchesRight)

end Opcode

end Amd64Effects
