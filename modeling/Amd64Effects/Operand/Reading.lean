import Amd64Effects.Numeral
import Amd64Effects.Operand
import Amd64Effects.Operand.MemoryForm
import Amd64Effects.Statement
import Amd64Effects.Text.Pieces

/-!
# Reading an operand

The text of an operand is tried as a register, an immediate, memory, and, where a branch target may
stand, as a target. The first shape that fits decides, also if the operand then turns out to have a
fault, so one text never means two things.
-/

namespace Amd64Effects.Operand

/-! ## Immediates -/

/-- The numeral of an immediate integer, where the text has the shape of one. It takes no plus. -/
def immediateNumeral? : List Char → Option (List Char)
  | '$' :: '-' :: numeral => if Numeral.isUnsigned numeral then some ('-' :: numeral) else none
  | '$' :: numeral => if Numeral.isUnsigned numeral then some numeral else none
  | _ => none

/-- The text between the brackets of an immediate floating-point number. -/
def bracketed? : List Char → Option (List Char)
  | '$' :: '(' :: rest => if rest.getLast? = some ')' then some rest.dropLast else none
  | _ => none

/-- The number of a floating-point immediate, where the text has the shape of one. -/
def floatImmediate? (text : List Char) : Option Binary64 :=
  (bracketed? text).bind FloatLiteral.value?

/-! ## Memory -/

/-- What a memory operand refers to, by its base and its symbol. -/
def memoryOf (text : List Char) (m : MemoryForm) (offset : Int64) : Except SyntaxFault Operand :=
  let base := Text.upper m.base
  let symbol := if m.symbol.isEmpty then none else some (String.ofList m.symbol)
  if base = "SB".toList ∧ ¬m.symbol.isEmpty then
    .ok { mode := if m.isFileLocal then .fileLocal else .global, offset, symbol }
  else if m.isFileLocal then .error (.fileLocalMark (String.ofList text))
  else if base = "SB".toList then .ok { mode := .global, offset }
  else if base = "FP".toList then .ok { mode := .argument, offset, symbol }
  else if ¬m.symbol.isEmpty then
    -- with a symbol SP is the local frame, without one the hardware register
    if base = "SP".toList then .ok { mode := .frameSlot, offset, symbol }
    else .error (.memory (String.ofList text))
  else match Register.generalOfName? base with
    | some r => .ok { mode := .indirect r, offset }
    | none => .error (.unknownBase (String.ofList base))

/-- The factor that a digit stands for. -/
def scaleOf (digit : Char) : UInt8 :=
  UInt8.ofNat (digit.toNat - '0'.toNat)

/-- The operand with its index, where one is written. -/
def addIndex (o : Operand) : Option (List Char × Char) → Except SyntaxFault Operand
  | none => .ok o
  | some (name, scale) =>
    match Register.generalOfName? name with
    | some r => .ok { o with index := some ⟨r, scaleOf scale⟩ }
    | none => .error (.unknownIndex (String.ofList name))

/--
The operand that a memory form stands for. Of several faults that of the offset is reported before
that of the base, and that of the index last.
-/
def ofMemoryForm (text : List Char) (m : MemoryForm) : Except SyntaxFault Operand :=
  match if m.offset.isEmpty then some 0 else Numeral.value? m.offset with
  | none => .error (.offset (String.ofList text))
  | some offset => do
    let o ← memoryOf text m offset
    addIndex o m.index

/-! ## Targets -/

/-- A branch target: a position, or else a label. Digits without a value are taken for a label. -/
def targetOf? (text : List Char) : Option Operand :=
  if Text.isDigits text then
    match Numeral.value? text with
    | some position => some { mode := .target, offset := position }
    | none => some { mode := .target, symbol := some (String.ofList text) }
  else if Text.isName text then some { mode := .target, symbol := some (String.ofList text) }
  else none

/-! ## Operands -/

/-- The operand of a text without blanks around it. -/
def readTrimmed (branch : Bool) (text : List Char) : Except SyntaxFault Operand :=
  if text.isEmpty then .ok .absent
  else match Register.ofName? text with
  | some r => .ok { mode := .register r }
  | none =>
  match immediateNumeral? text with
  | some numeral =>
    match Numeral.value? numeral with
    | some v => .ok { mode := .immediate v }
    | none => .error (.constant (String.ofList text))
  | none =>
  match floatImmediate? text with
  | some v => .ok { mode := .floatImmediate v }
  | none =>
  match MemoryForm.ofText? text with
  | some m => ofMemoryForm text m
  | none =>
  match if branch then targetOf? text else none with
  | some o => .ok o
  | none => .error (.unrecognized (String.ofList text))

/-- Reads an operand; `branch` says whether a branch target may stand in its place. -/
def read (branch : Bool) (text : List Char) : Except SyntaxFault Operand :=
  readTrimmed branch (Text.trim text)

end Amd64Effects.Operand
