import Amd64Effects.Descriptor
import Amd64Effects.Fault

/-!
# Descriptor tables

A table holds one entry for each opcode, at the place of the opcode in table order. A table is made
by classifying every opcode, and reading it gives the classification back (`Table.get_ofFn`).

Resolving an instruction takes the entry of its opcode to the descriptor of this one occurrence
(`Table.resolve`).
-/

namespace Amd64Effects

structure Table where
  entries : Vector Descriptor Opcode.count

namespace Table

/-- The table of a classification. -/
def ofFn (classify : Opcode → Descriptor) : Table :=
  ⟨Vector.ofFn fun i => classify (Opcode.ofIndex i)⟩

/-- The entry of an opcode. -/
def get (t : Table) (op : Opcode) : Descriptor :=
  have := op.index_lt
  t.entries[op.index]

@[simp] theorem get_ofFn (classify : Opcode → Descriptor) (op : Opcode) :
    (ofFn classify).get op = classify op := by
  simp only [get, ofFn, Vector.getElem_ofFn, Opcode.ofIndex_index]

/-- The table of the amd64 entries. -/
def amd64 : Table := ofFn Opcode.entry

/-- The opcodes with their entries, in table order. -/
def toList (t : Table) : List (Opcode × Descriptor) :=
  Opcode.all.map fun op => (op, t.get op)

@[simp] theorem length_toList (t : Table) : t.toList.length = Opcode.count := by
  simp [toList, Opcode.count]

end Table

/-!
## Resolution

The descriptor of one occurrence of an opcode. It starts from the opcode's entry and takes the
operands into account in three steps: where a shift finds its count, where a product goes, and which
registers form addresses. An opcode without any flag in its entry has no descriptor.
-/

namespace Descriptor

/-- The count of a shift is in CX unless it is an immediate integer. -/
def withShiftCount (i : Instruction) (d : Descriptor) : Descriptor :=
  if d.flags.contains .shiftCount && !i.left.isImmediate then { d with uses := d.uses ∪ {.cx} }
  else d

/--
A wide product without a right operand multiplies AX into DX:AX. With one it is narrow: it reads and
writes that operand and has no implicit registers, whichever register the operand is.
-/
def withProduct (i : Instruction) (d : Descriptor) : Descriptor :=
  if d.flags.contains .wideProduct then
    if i.right.isAbsent then { d with uses := d.uses ∪ {.ax}, defines := d.defines ∪ {.ax, .dx} }
    else { d with flags := d.flags ∪ {.rightRead, .rightWrite} }
  else d

/-- The registers of addresses are used. -/
def withAddressing (i : Instruction) (d : Descriptor) : Descriptor :=
  let registers := i.left.addressRegisters ∪ i.right.addressRegisters
  { d with uses := d.uses ∪ registers, addressing := registers }

/-- The descriptor of an occurrence, from the entry of its opcode. -/
def refine (i : Instruction) (d : Descriptor) : Descriptor :=
  ((d.withShiftCount i).withProduct i).withAddressing i

end Descriptor

namespace Table

/-- The descriptor of an instruction. -/
def resolve (t : Table) (i : Instruction) : Except Fault Descriptor :=
  let d := t.get i.opcode
  if d.flags.isEmpty then .error (.unclassified i) else .ok (d.refine i)

/-- Reads a line and resolves its instruction, where it holds one. -/
def resolveText (t : Table) (line : List Char) :
    Except Fault (Option (Instruction × Descriptor)) :=
  match Instruction.read line with
  | .error cause => .error (.line cause)
  | .ok none => .ok none
  | .ok (some i) => (t.resolve i).map fun d => some (i, d)

end Table

end Amd64Effects
