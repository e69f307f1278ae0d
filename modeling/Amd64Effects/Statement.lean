import Amd64Effects.Opcode
import Amd64Effects.Text.Format
import Amd64Effects.Text.Pieces
import Amd64Effects.Text.Word

/-!
# Statements

A line of assembly holds code and, behind `//` or `;`, a comment. The code is an optional label with
a colon, an optional mnemonic, and, after at least one blank, the arguments of the mnemonic.

A line such as `RET : x` can be taken apart in two ways. A label is preferred; only if what follows
the colon is no mnemonic with arguments is the line tried again without a label.
-/

namespace Amd64Effects

/-- A mnemonic and the text of its arguments, which is empty if there are none. -/
structure Statement where
  mnemonic : List Char
  arguments : List Char
  deriving DecidableEq, Repr

namespace Statement

/-- The part of a line before its comment. -/
def code : List Char → List Char
  | [] => []
  | ';' :: _ => []
  | '/' :: '/' :: _ => []
  | c :: rest => c :: code rest

/-- What follows a label and its colon, where a text begins with them. -/
def afterLabel? (text : List Char) : Option (List Char) :=
  match Text.skipBlanks text with
  | [] => none
  | c :: rest =>
    if Text.isNameStart c then
      match Text.skipBlanks (rest.dropWhile Text.isNameChar) with
      | ':' :: body => some body
      | _ => none
    else none

/-- The arguments behind a mnemonic. There is a blank before them, and they are on one line. -/
def arguments? : List Char → Option (List Char)
  | [] => some []
  | c :: rest =>
    let arguments := Text.trim rest
    if Text.isBlank c && !arguments.contains '\n' then some arguments else none

/--
A mnemonic with its arguments, between blanks: `some none` for a text that is all blank, and `none`
for one that begins in another way.
-/
def body? (text : List Char) : Option (Option Statement) :=
  match Text.skipBlanks text with
  | [] => some none
  | c :: rest =>
    if c.isAlpha then
      (arguments? (rest.dropWhile Char.isAlphanum)).map fun arguments =>
        some ⟨c :: rest.takeWhile Char.isAlphanum, arguments⟩
    else none

/-- The statement of a line's code; `some none` if it is blank or only a label. -/
def ofCode? (text : List Char) : Option (Option Statement) :=
  ((afterLabel? text).bind body?).or (body? text)

end Statement

/-!
## Faults of syntax

Why a line of assembly cannot be read. Each fault keeps the piece of text that it is about.
-/

inductive SyntaxFault where
  /-- The line is no label, no instruction and no label before an instruction. -/
  | statement (code : String)
  | unknownOpcode (mnemonic : String)
  | tooManyOperands (op : Opcode)
  /-- The value of an immediate does not fit. -/
  | constant (operand : String)
  /-- The offset of a memory operand does not fit. -/
  | offset (operand : String)
  /-- Only a global symbol can be marked as local to its file. -/
  | fileLocalMark (operand : String)
  | unknownBase (name : String)
  | unknownIndex (name : String)
  /-- A symbol stands before a base register that takes none. -/
  | memory (operand : String)
  | unrecognized (operand : String)
  deriving DecidableEq, Repr

-- what two readings give can then be compared, faults included
instance decidableEqExcept {ε α : Type} [DecidableEq ε] [DecidableEq α] :
    DecidableEq (Except ε α)
  | .ok a, .ok b => decidable_of_iff (a = b) (by simp)
  | .error e, .error f => decidable_of_iff (e = f) (by simp)
  | .ok _, .error _ => isFalse nofun
  | .error _, .ok _ => isFalse nofun

namespace SyntaxFault

/-- What is wrong, without the heading. -/
def reason : SyntaxFault → String
  | statement code => "can't parse \"" ++ code ++ "\""
  | unknownOpcode mnemonic => "unknown opcode \"" ++ mnemonic ++ "\""
  | tooManyOperands op => "too many operands for " ++ op.name
  | constant operand => "bad constant \"" ++ operand ++ "\""
  | offset operand => "bad offset in \"" ++ operand ++ "\""
  | fileLocalMark operand => "\"<>\" needs an SB symbol in \"" ++ operand ++ "\""
  | unknownBase name => "unknown base register \"" ++ name ++ "\""
  | unknownIndex name => "unknown index register \"" ++ name ++ "\""
  | memory operand => "bad memory operand \"" ++ operand ++ "\""
  | unrecognized operand => "unrecognized operand \"" ++ operand ++ "\""

def message (f : SyntaxFault) : String :=
  Text.colour .red "Syntax Error" ++ " " ++ f.reason

end SyntaxFault

end Amd64Effects
