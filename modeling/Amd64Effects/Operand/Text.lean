import Amd64Effects.Binary64.Text
import Amd64Effects.Numeral
import Amd64Effects.Operand
import Amd64Effects.Text.Format

/-!
# The text of an operand

An operand is written as in a listing: `8(BX)(CX*4)`, `$-1`, `x+8(FP)`, `tab<>(SB)`. A second form
shows all its parts by name, also those that a listing has no place for.
-/

namespace Amd64Effects.Operand

/-! ## In a listing -/

/-- The symbol, empty where there is none. -/
def symbolText (o : Operand) : List Char :=
  (o.symbol.getD "").toList

/--
The offset of a memory operand. Behind a symbol it has a sign even if it is positive, and is left
out if it is zero; where there is no symbol it always stands.
-/
def offsetText (o : Operand) : List Char :=
  if o.symbolText.isEmpty then Numeral.ofWord o.offset
  else if o.offset = 0 then []
  else if o.offset < 0 then Numeral.ofWord o.offset
  else '+' :: Numeral.ofWord o.offset

/-- The index and its scale in brackets, where there is one. -/
def indexText (o : Operand) : List Char :=
  match o.index with
  | some i => '(' :: (i.register.name.toList ++ '*' :: (Nat.toDigits 10 i.scale.toNat ++ [')']))
  | none => []

/-- The characters of an operand in a listing. An unused slot has none, with an index or without. -/
def render (o : Operand) : List Char :=
  match o.mode with
  | .none => []
  | .register r => r.name.toList ++ o.indexText
  | .indirect base =>
    (if o.offset = 0 then [] else Numeral.ofWord o.offset) ++
      '(' :: (base.name.toList ++ ')' :: o.indexText)
  | .immediate v => '$' :: (Numeral.ofWord v ++ o.indexText)
  | .floatImmediate v => '$' :: '(' :: (v.render ++ ')' :: o.indexText)
  | .global => o.symbolText ++ (o.offsetText ++ ("(SB)".toList ++ o.indexText))
  | .fileLocal => o.symbolText ++ ("<>".toList ++ (o.offsetText ++ ("(SB)".toList ++ o.indexText)))
  | .frameSlot => o.symbolText ++ (o.offsetText ++ ("(SP)".toList ++ o.indexText))
  | .argument => o.symbolText ++ (o.offsetText ++ ("(FP)".toList ++ o.indexText))
  | .target =>
    (if o.symbolText.isEmpty then Numeral.ofWord o.offset else o.symbolText) ++ o.indexText

def text (o : Operand) : String :=
  String.ofList o.render

/-! ## Part by part -/

/-- The name of a mode and what it holds. -/
def Mode.description : Mode → String
  | .none => "None"
  | .register r => "Reg(" ++ r.name ++ ")"
  | .indirect base => "Indir(" ++ base.name ++ ")"
  | .immediate v => "Const(" ++ String.ofList (Numeral.ofWord v) ++ ")"
  | .floatImmediate v => "FConst(" ++ String.ofList v.render ++ ")"
  | .global => "Extern"
  | .fileLocal => "Static"
  | .frameSlot => "Auto"
  | .argument => "Param"
  | .target => "Branch"

/-- A part that may be missing. -/
def optionalPart : Option String → String
  | some part => "Some(" ++ part ++ ")"
  | none => "None"

/-- All parts of an operand by name. -/
def description (o : Operand) : String :=
  let index := o.index.map fun i => "(" ++ i.register.name ++ ", " ++ toString i.scale.toNat ++ ")"
  "Addr \x7b typ: " ++ o.mode.description ++
    ", index: " ++ optionalPart index ++
    ", offset: " ++ String.ofList (Numeral.ofWord o.offset) ++
    ", sym: " ++ optionalPart (o.symbol.map Text.quoted) ++ " \x7d"

end Amd64Effects.Operand
