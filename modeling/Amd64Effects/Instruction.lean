import Amd64Effects.Descriptor
import Amd64Effects.Operand.Reading
import Amd64Effects.Operand.Text
import Amd64Effects.Statement

/-!
# Instructions

One occurrence of an opcode with its two operands. The left operand is the source and the right one
the destination. An instruction that comes from a listing knows its line.
-/

namespace Amd64Effects

structure Instruction where
  opcode : Opcode
  left : Operand := .absent
  right : Operand := .absent
  line : Option Nat := none
  deriving DecidableEq, Repr

namespace Instruction

/-- The same instruction at a line of a listing. -/
def atLine (i : Instruction) (line : Nat) : Instruction :=
  { i with line := some line }

/--
The operands after a tab. A right operand always has a comma before it, so that it can be told from
a left one.
-/
def operandText (i : Instruction) : List Char :=
  match i.left.isAbsent, i.right.isAbsent with
  | true, true => []
  | false, true => '\t' :: i.left.render
  | true, false => '\t' :: ',' :: i.right.render
  | false, false => '\t' :: (i.left.render ++ ',' :: i.right.render)

/-- The line in brackets, where it is known. -/
def lineText (i : Instruction) : List Char :=
  match i.line with
  | some n => "(line ".toList ++ (Nat.toDigits 10 n ++ ") ".toList)
  | none => []

/-- The characters of an instruction. -/
def render (i : Instruction) : List Char :=
  i.lineText ++ (i.opcode.name.toList ++ i.operandText)

def text (i : Instruction) : String :=
  String.ofList i.render

end Instruction

/-!
## Reading an instruction

A line is read by taking it apart into a mnemonic and arguments, looking up the mnemonic, and
reading each argument as an operand. Blank lines, comments and labels on a line of their own hold no
instruction.

A lone argument goes to the slot that its opcode touches. Only the right operand of a branch may be
a branch target.
-/

namespace Instruction

/-- The instruction of an opcode and its arguments. The left argument is read first. -/
def ofArguments (op : Opcode) : List (List Char) → Except SyntaxFault Instruction
  | [] => .ok { opcode := op }
  | [lone] => do
    let o ← Operand.read op.isBranch lone
    if op.placesLoneOperandRight then return { opcode := op, right := o }
    else return { opcode := op, left := o }
  | [left, right] => do
    let l ← Operand.read false left
    let r ← Operand.read op.isBranch right
    return { opcode := op, left := l, right := r }
  | _ => .error (.tooManyOperands op)

/-- The instruction of a statement. Blank arguments are none at all. -/
def ofStatement (s : Statement) : Except SyntaxFault Instruction :=
  match Opcode.ofName? s.mnemonic with
  | none => .error (.unknownOpcode (String.ofList s.mnemonic))
  | some op =>
    ofArguments op (if Text.allBlank s.arguments then [] else Text.fields ',' s.arguments)

/-- Reads the instruction of a line, where the line holds one. -/
def read (line : List Char) : Except SyntaxFault (Option Instruction) :=
  let code := Statement.code line
  if Text.allBlank code then .ok none
  else match Statement.ofCode? code with
  | none => .error (.statement (String.ofList (Text.trim code)))
  | some none => .ok none
  | some (some s) => (ofStatement s).map some

end Instruction

/-!
## Listings

A listing has at most one instruction a line. Its instructions know their lines, which are counted
from one, and lines without an instruction count as well. The first line with a fault ends the
reading, and no instruction is kept.
-/

/-- A fault of syntax and the line that has it. -/
structure ListingFault where
  line : Nat
  cause : SyntaxFault
  deriving DecidableEq, Repr

def ListingFault.message (f : ListingFault) : String :=
  "line " ++ toString f.line ++ ": " ++ f.cause.message

namespace Listing

/-- The instructions of some lines, the first of which has a given number. -/
def readLines : (number : Nat) → List (List Char) → Except ListingFault (List Instruction)
  | _, [] => .ok []
  | number, line :: rest =>
    match Instruction.read line with
    | .error cause => .error ⟨number, cause⟩
    | .ok none => readLines (number + 1) rest
    | .ok (some i) => (readLines (number + 1) rest).map (i.atLine number :: ·)

/-- The instructions of a listing. -/
def read (text : List Char) : Except ListingFault (List Instruction) :=
  readLines 1 (Text.lines text)

end Listing

end Amd64Effects
