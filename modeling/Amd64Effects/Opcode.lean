import Amd64Effects.Text.Word
import Amd64Effects.Text.Format

/-!
# Opcodes

The closed set of opcodes that a code generator for amd64 may emit. The size of the operands is part
of a mnemonic: ADDQ adds quads, and MOVBLZX extends a byte to a long with zeros. The order of the
opcodes is also the order of a table of descriptors.
-/

namespace Amd64Effects

inductive Opcode where
  -- annotations of the assembler
  | type | text | funcdata | pcdata | undef | usefield | checknil | vardef | varkill | nop
  -- arithmetic and logic of integers
  | adcl | adcq | adcw
  | addb | addl | addw | addq
  | andb | andl | andq | andw
  | orb | orl | orq | orw
  | sbbb | sbbl | sbbq | sbbw
  | subb | subl | subq | subw
  | xorb | xorl | xorq | xorw
  | decb | decl | decq | decw
  | incb | incl | incq | incw
  | negb | negl | negq | negw
  | notb | notl | notq | notw
  -- comparisons
  | cmpb | cmpl | cmpq | cmpw
  | testb | testl | testq | testw
  | comisd | comiss | ucomisd | ucomiss
  -- arithmetic of floating point
  | addsd | addss | subsd | subss | mulsd | mulss | divsd | divss
  -- products and quotients of double width
  | divb | divl | divq | divw
  | idivb | idivl | idivq | idivw
  | imulb | imull | imulq | imulw
  | mulb | mull | mulq | mulw
  | cdq | cqo | cwd
  -- conversions between representations
  | cvtsd2sl | cvtsd2sq | cvtsd2ss | cvtsl2sd | cvtsl2ss | cvtsq2sd | cvtsq2ss
  | cvtss2sd | cvtss2sl | cvtss2sq | cvttsd2sl | cvttsd2sq | cvttss2sl | cvttss2sq
  | movblsx | movblzx | movbqsx | movbqzx | movbwsx | movbwzx
  | movlqsx | movlqzx | movwlsx | movwlzx | movwqsx | movwqzx | movql
  -- moves, stack and exchange
  | movb | movl | movq | movw | movsd | movss | movapd
  | leal | leaq
  | popq | pushq
  | xchgb | xchgl | xchgq | xchgw
  -- blocks of memory
  | movsb | movsl | movsq | movsw | duffcopy
  | stosb | stosl | stosq | stosw | duffzero
  | rep | repn | cld | std
  -- rotations and shifts
  | rclb | rcll | rclq | rclw
  | rcrb | rcrl | rcrq | rcrw
  | rolb | roll | rolq | rolw
  | rorb | rorl | rorq | rorw
  | salb | sall | salq | salw
  | sarb | sarl | sarq | sarw
  | shlb | shll | shlq | shlw
  | shrb | shrl | shrq | shrw
  -- jumps, calls and returns
  | jcc | jcs | jeq | jge | jgt | jhi | jle | jls | jlt | jmi | jne | joc | jos | jpc | jpl | jps
  | jmp | call | ret
  deriving DecidableEq, Repr

namespace Opcode

/-- Every opcode, in table order. -/
def all : List Opcode :=
  [type, text, funcdata, pcdata, undef, usefield, checknil, vardef, varkill, nop, adcl, adcq,
   adcw, addb, addl, addw, addq, andb, andl, andq, andw, orb, orl, orq, orw, sbbb, sbbl, sbbq,
   sbbw, subb, subl, subq, subw, xorb, xorl, xorq, xorw, decb, decl, decq, decw, incb, incl,
   incq, incw, negb, negl, negq, negw, notb, notl, notq, notw, cmpb, cmpl, cmpq, cmpw, testb,
   testl, testq, testw, comisd, comiss, ucomisd, ucomiss, addsd, addss, subsd, subss, mulsd,
   mulss, divsd, divss, divb, divl, divq, divw, idivb, idivl, idivq, idivw, imulb, imull, imulq,
   imulw, mulb, mull, mulq, mulw, cdq, cqo, cwd, cvtsd2sl, cvtsd2sq, cvtsd2ss, cvtsl2sd,
   cvtsl2ss, cvtsq2sd, cvtsq2ss, cvtss2sd, cvtss2sl, cvtss2sq, cvttsd2sl, cvttsd2sq, cvttss2sl,
   cvttss2sq, movblsx, movblzx, movbqsx, movbqzx, movbwsx, movbwzx, movlqsx, movlqzx, movwlsx,
   movwlzx, movwqsx, movwqzx, movql, movb, movl, movq, movw, movsd, movss, movapd, leal, leaq,
   popq, pushq, xchgb, xchgl, xchgq, xchgw, movsb, movsl, movsq, movsw, duffcopy, stosb, stosl,
   stosq, stosw, duffzero, rep, repn, cld, std, rclb, rcll, rclq, rclw, rcrb, rcrl, rcrq, rcrw,
   rolb, roll, rolq, rolw, rorb, rorl, rorq, rorw, salb, sall, salq, salw, sarb, sarl, sarq,
   sarw, shlb, shll, shlq, shlw, shrb, shrl, shrq, shrw, jcc, jcs, jeq, jge, jgt, jhi, jle, jls,
   jlt, jmi, jne, joc, jos, jpc, jpl, jps, jmp, call, ret]

/-- The number of opcodes. -/
def count : Nat := all.length

/-- The place of an opcode in table order. -/
def index (op : Opcode) : Nat := op.ctorIdx

theorem all_index (op : Opcode) : all[op.index]? = some op := by
  cases op <;> rfl

theorem index_lt (op : Opcode) : op.index < count :=
  (List.getElem?_eq_some_iff.mp (all_index op)).1

theorem mem_all (op : Opcode) : op ∈ all :=
  List.mem_of_getElem? (all_index op)

theorem index_injective {a b : Opcode} (h : a.index = b.index) : a = b := by
  have ha := all_index a
  rw [h, all_index b] at ha
  exact (Option.some.inj ha).symm

theorem map_index_all : all.map index = List.range count := by
  decide +kernel

theorem pairwise_index_all : all.Pairwise fun a b => a.index < b.index := by
  rw [← List.pairwise_map, map_index_all]
  exact List.pairwise_lt_range

theorem nodup_all : all.Nodup := by
  refine pairwise_index_all.imp ?_
  rintro a b hlt rfl
  exact Nat.lt_irrefl _ hlt

/-- The opcode at a place in table order. -/
def ofIndex (i : Fin count) : Opcode := all.get i

theorem ofIndex_index (op : Opcode) : ofIndex ⟨op.index, op.index_lt⟩ = op := by
  have h := List.getElem?_eq_some_iff.mp (all_index op)
  exact h.2

/-- The mnemonic. -/
def name : Opcode → String
  | type => "TYPE" | text => "TEXT" | funcdata => "FUNCDATA" | pcdata => "PCDATA"
  | undef => "UNDEF" | usefield => "USEFIELD" | checknil => "CHECKNIL" | vardef => "VARDEF"
  | varkill => "VARKILL" | nop => "NOP" | adcl => "ADCL" | adcq => "ADCQ" | adcw => "ADCW"
  | addb => "ADDB" | addl => "ADDL" | addw => "ADDW" | addq => "ADDQ" | andb => "ANDB"
  | andl => "ANDL" | andq => "ANDQ" | andw => "ANDW" | orb => "ORB" | orl => "ORL" | orq => "ORQ"
  | orw => "ORW" | sbbb => "SBBB" | sbbl => "SBBL" | sbbq => "SBBQ" | sbbw => "SBBW"
  | subb => "SUBB" | subl => "SUBL" | subq => "SUBQ" | subw => "SUBW" | xorb => "XORB"
  | xorl => "XORL" | xorq => "XORQ" | xorw => "XORW" | decb => "DECB" | decl => "DECL"
  | decq => "DECQ" | decw => "DECW" | incb => "INCB" | incl => "INCL" | incq => "INCQ"
  | incw => "INCW" | negb => "NEGB" | negl => "NEGL" | negq => "NEGQ" | negw => "NEGW"
  | notb => "NOTB" | notl => "NOTL" | notq => "NOTQ" | notw => "NOTW" | cmpb => "CMPB"
  | cmpl => "CMPL" | cmpq => "CMPQ" | cmpw => "CMPW" | testb => "TESTB" | testl => "TESTL"
  | testq => "TESTQ" | testw => "TESTW" | comisd => "COMISD" | comiss => "COMISS"
  | ucomisd => "UCOMISD" | ucomiss => "UCOMISS" | addsd => "ADDSD" | addss => "ADDSS"
  | subsd => "SUBSD" | subss => "SUBSS" | mulsd => "MULSD" | mulss => "MULSS" | divsd => "DIVSD"
  | divss => "DIVSS" | divb => "DIVB" | divl => "DIVL" | divq => "DIVQ" | divw => "DIVW"
  | idivb => "IDIVB" | idivl => "IDIVL" | idivq => "IDIVQ" | idivw => "IDIVW" | imulb => "IMULB"
  | imull => "IMULL" | imulq => "IMULQ" | imulw => "IMULW" | mulb => "MULB" | mull => "MULL"
  | mulq => "MULQ" | mulw => "MULW" | cdq => "CDQ" | cqo => "CQO" | cwd => "CWD"
  | cvtsd2sl => "CVTSD2SL" | cvtsd2sq => "CVTSD2SQ" | cvtsd2ss => "CVTSD2SS"
  | cvtsl2sd => "CVTSL2SD" | cvtsl2ss => "CVTSL2SS" | cvtsq2sd => "CVTSQ2SD"
  | cvtsq2ss => "CVTSQ2SS" | cvtss2sd => "CVTSS2SD" | cvtss2sl => "CVTSS2SL"
  | cvtss2sq => "CVTSS2SQ" | cvttsd2sl => "CVTTSD2SL" | cvttsd2sq => "CVTTSD2SQ"
  | cvttss2sl => "CVTTSS2SL" | cvttss2sq => "CVTTSS2SQ" | movblsx => "MOVBLSX"
  | movblzx => "MOVBLZX" | movbqsx => "MOVBQSX" | movbqzx => "MOVBQZX" | movbwsx => "MOVBWSX"
  | movbwzx => "MOVBWZX" | movlqsx => "MOVLQSX" | movlqzx => "MOVLQZX" | movwlsx => "MOVWLSX"
  | movwlzx => "MOVWLZX" | movwqsx => "MOVWQSX" | movwqzx => "MOVWQZX" | movql => "MOVQL"
  | movb => "MOVB" | movl => "MOVL" | movq => "MOVQ" | movw => "MOVW" | movsd => "MOVSD"
  | movss => "MOVSS" | movapd => "MOVAPD" | leal => "LEAL" | leaq => "LEAQ" | popq => "POPQ"
  | pushq => "PUSHQ" | xchgb => "XCHGB" | xchgl => "XCHGL" | xchgq => "XCHGQ" | xchgw => "XCHGW"
  | movsb => "MOVSB" | movsl => "MOVSL" | movsq => "MOVSQ" | movsw => "MOVSW"
  | duffcopy => "DUFFCOPY" | stosb => "STOSB" | stosl => "STOSL" | stosq => "STOSQ"
  | stosw => "STOSW" | duffzero => "DUFFZERO" | rep => "REP" | repn => "REPN" | cld => "CLD"
  | std => "STD" | rclb => "RCLB" | rcll => "RCLL" | rclq => "RCLQ" | rclw => "RCLW"
  | rcrb => "RCRB" | rcrl => "RCRL" | rcrq => "RCRQ" | rcrw => "RCRW" | rolb => "ROLB"
  | roll => "ROLL" | rolq => "ROLQ" | rolw => "ROLW" | rorb => "RORB" | rorl => "RORL"
  | rorq => "RORQ" | rorw => "RORW" | salb => "SALB" | sall => "SALL" | salq => "SALQ"
  | salw => "SALW" | sarb => "SARB" | sarl => "SARL" | sarq => "SARQ" | sarw => "SARW"
  | shlb => "SHLB" | shll => "SHLL" | shlq => "SHLQ" | shlw => "SHLW" | shrb => "SHRB"
  | shrl => "SHRL" | shrq => "SHRQ" | shrw => "SHRW" | jcc => "JCC" | jcs => "JCS" | jeq => "JEQ"
  | jge => "JGE" | jgt => "JGT" | jhi => "JHI" | jle => "JLE" | jls => "JLS" | jlt => "JLT"
  | jmi => "JMI" | jne => "JNE" | joc => "JOC" | jos => "JOS" | jpc => "JPC" | jpl => "JPL"
  | jps => "JPS" | jmp => "JMP" | call => "CALL" | ret => "RET"

/-- The opcode of this mnemonic, whatever the case of its letters. -/
def ofName? (text : List Char) : Option Opcode :=
  all.find? fun op => op.name.toList == Text.upper text

/-- The conditional jumps. -/
def isConditionalJump : Opcode → Bool
  | jcc | jcs | jeq | jge | jgt | jhi | jle | jls | jlt
  | jmi | jne | joc | jos | jpc | jpl | jps => true
  | _ => false

/-- Jumps and calls take a branch target where other opcodes take a data operand. -/
def isBranch : Opcode → Bool
  | jmp | call => true
  | op => op.isConditionalJump

/-- The mnemonic, filled up with spaces on its right to a width. -/
def padded (op : Opcode) (width : Nat) : String :=
  Text.padRight width op.name

end Opcode

end Amd64Effects
