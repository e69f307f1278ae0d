import Amd64Effects.Table
import Amd64Effects.Table.Policy

/-!
# Items of a report

What the inspector prints, one item after the other. An item is kept as what it tells; its text is
made from that.
-/

namespace Amd64Effects.Inspector

inductive Item where
  /-- The table keeps its policy. -/
  | tableKept (opcodes : Nat)
  | violation (v : Violation)
  /-- A row of the table. -/
  | row (op : Opcode) (d : Descriptor)
  /-- The operands of an instruction, part by part. -/
  | operands (i : Instruction)
  /-- An instruction and its descriptor. -/
  | block (i : Instruction) (d : Descriptor)
  | failure (f : Fault)
  /-- A file is about to be read. -/
  | opening (name : String)
  /-- The number of instructions of a file. -/
  | closing (count : Nat) (name : String)
  deriving DecidableEq, Repr

/-- A line of the descriptor block: its coloured heading and what it tells. -/
def entryLine (heading text : String) : String :=
  "\n  " ++ Text.colour .yellow heading ++ ": " ++ text

/-- The size class of some flags; a dash stands for none or several. -/
def sizeText (s : FlagSet) : String :=
  match s.size? with
  | some c => c.text
  | none => "-"

/-- An instruction with its descriptor below it. -/
def blockText (i : Instruction) (d : Descriptor) : String :=
  i.text ++ entryLine "flags" d.flags.text ++
    entryLine "size" (sizeText d.flags) ++
    "  " ++ Text.colour .yellow "left" ++ ": " ++ d.flags.left.letters ++
    "  " ++ Text.colour .yellow "right" ++ ": " ++ d.flags.right.letters ++
    entryLine "use" ("  " ++ d.uses.text) ++
    entryLine "set" ("  " ++ d.defines.text) ++
    (if d.addressing.isEmpty then "" else entryLine "index" d.addressing.text)

/-- The text of an item, with its line ends. Notices end in a carriage return as well. -/
def Item.text : Item → String
  | .tableKept n =>
    Text.colour .blue "INFO" ++ ": Descriptor table OK (" ++ toString n ++ " opcodes)\r\n"
  | .violation v => Text.colour .red "WARNING" ++ ": " ++ v.text ++ "\r\n"
  | .row op d => Text.colour .green (op.padded 10) ++ " " ++ d.text ++ "\n"
  | .operands i =>
    Text.colour .blue "parsed" ++ " from: " ++ i.left.description ++ " to: " ++
      i.right.description ++ "\n"
  | .block i d => blockText i d ++ "\n"
  | .failure f => f.report ++ "\n"
  | .opening name => Text.colour .blue "INFO" ++ ": Resolving " ++ name ++ "\r\n"
  | .closing n name =>
    Text.colour .red "resolved" ++ " " ++ toString n ++ " instruction(s) from " ++ name ++ "\n"

end Amd64Effects.Inspector
