import Amd64Effects.Numeral

/-!
# The form of a memory operand

A memory operand is written with an optional symbol, an optional mark `<>`, an optional offset, a
base in brackets, and an optional index in brackets: `tab<>+8(SB)(CX*4)`. This module takes such a
text apart and puts it together again; what the parts mean is not looked at yet.

The first bracket ends the offset, for no part before the base holds one, and the longest run of
name characters is the symbol, for neither a mark nor a sign is a name character and an offset
without either cannot follow a symbol.
-/

namespace Amd64Effects

/-- The parts of a memory operand, as they are written. -/
structure MemoryForm where
  /-- The symbol; empty where there is none. -/
  symbol : List Char
  /-- Whether the mark of a symbol that only its file can see is there. -/
  isFileLocal : Bool
  /-- The numeral of the offset; empty where there is none. -/
  offset : List Char
  base : List Char
  index : Option (List Char × Char)
  deriving DecidableEq, Repr

namespace MemoryForm

/-! ## Putting together -/

def renderIndex : Option (List Char × Char) → List Char
  | some (register, scale) => '(' :: (register ++ ['*', scale, ')'])
  | none => []

def render (m : MemoryForm) : List Char :=
  m.symbol ++ ((if m.isFileLocal then ['<', '>'] else []) ++
    (m.offset ++ '(' :: (m.base ++ ')' :: renderIndex m.index)))

/-! ## Taking apart -/

/-- The symbol at the front of a text, empty where there is none, and what follows it. -/
def splitSymbol (text : List Char) : List Char × List Char :=
  if (text.head?.map Text.isNameStart).getD false then
    (text.takeWhile Text.isNameChar, text.dropWhile Text.isNameChar)
  else ([], text)

/-- Whether the mark is at the front of a text, and what follows it. -/
def splitMark : List Char → Bool × List Char
  | '<' :: '>' :: rest => (true, rest)
  | text => (false, text)

/-- A register and a scale: `CX*4`. -/
def index? (text : List Char) : Option (List Char × Char) :=
  let register := text.takeWhile Char.isAlphanum
  match text.dropWhile Char.isAlphanum with
  | ['*', scale, ')'] =>
    if !register.isEmpty && ['1', '2', '4', '8'].contains scale then some (register, scale)
    else none
  | _ => none

/-- The base and the index, from behind the first bracket. -/
def brackets? (text : List Char) : Option (List Char × Option (List Char × Char)) :=
  let base := text.takeWhile Char.isAlphanum
  if base.isEmpty then none
  else match text.dropWhile Char.isAlphanum with
    | [')'] => some (base, none)
    | ')' :: '(' :: rest => (index? rest).map fun i => (base, some i)
    | _ => none

/-- The parts of a memory operand, where the text has the form of one. -/
def ofText? (text : List Char) : Option MemoryForm :=
  match text.dropWhile (· != '(') with
  | [] => none
  | _ :: inside =>
    let (symbol, rest) := splitSymbol (text.takeWhile (· != '('))
    let (isFileLocal, offset) := splitMark rest
    if offset.isEmpty || Numeral.isSigned offset then
      (brackets? inside).map fun (base, index) => { symbol, isFileLocal, offset, base, index }
    else none

end MemoryForm

end Amd64Effects
