import Amd64Effects.Binary64
import Amd64Effects.Binary64.Rounding
import Amd64Effects.Binary64.Text
import Amd64Effects.Descriptor
import Amd64Effects.Fault
import Amd64Effects.Flag
import Amd64Effects.Flag.Set
import Amd64Effects.Inspector.Item
import Amd64Effects.Inspector.Request
import Amd64Effects.Inspector.Run
import Amd64Effects.Instruction
import Amd64Effects.Main
import Amd64Effects.Numeral
import Amd64Effects.Opcode
import Amd64Effects.Operand
import Amd64Effects.Operand.MemoryForm
import Amd64Effects.Operand.Reading
import Amd64Effects.Operand.Text
import Amd64Effects.Register
import Amd64Effects.Register.Set
import Amd64Effects.Statement
import Amd64Effects.Table
import Amd64Effects.Table.Policy
import Amd64Effects.Table.Revision
import Amd64Effects.Text.Format
import Amd64Effects.Text.Pieces
import Amd64Effects.Text.Unicode
import Amd64Effects.Text.Word
import Amd64Effects.Proofs.Binary64.Rounding
import Amd64Effects.Proofs.Binary64.Shortest
import Amd64Effects.Proofs.Binary64.Text
import Amd64Effects.Proofs.Decimal
import Amd64Effects.Proofs.Descriptor
import Amd64Effects.Proofs.FloatLiteral
import Amd64Effects.Proofs.Inspector.Agreement
import Amd64Effects.Proofs.Inspector.Details
import Amd64Effects.Proofs.Inspector.FaultyFile
import Amd64Effects.Proofs.Inspector.Item
import Amd64Effects.Proofs.Inspector.Outcome
import Amd64Effects.Proofs.Inspector.Run
import Amd64Effects.Proofs.Instruction.Descriptor
import Amd64Effects.Proofs.Instruction.Layout
import Amd64Effects.Proofs.Instruction.Omission
import Amd64Effects.Proofs.Instruction.RoundTrip
import Amd64Effects.Proofs.Instruction.Shape
import Amd64Effects.Proofs.Listing
import Amd64Effects.Proofs.Listing.Append
import Amd64Effects.Proofs.Names
import Amd64Effects.Proofs.Names.Lookup
import Amd64Effects.Proofs.Numeral
import Amd64Effects.Proofs.Numeral.Denotation
import Amd64Effects.Proofs.Numeral.Literal
import Amd64Effects.Proofs.Operand.Digits
import Amd64Effects.Proofs.Operand.FloatImmediate
import Amd64Effects.Proofs.Operand.Integers
import Amd64Effects.Proofs.Operand.Memory
import Amd64Effects.Proofs.Operand.MemoryForm
import Amd64Effects.Proofs.Operand.Readable
import Amd64Effects.Proofs.Operand.Recognition
import Amd64Effects.Proofs.Operand.RoundTrip
import Amd64Effects.Proofs.Operand.Target
import Amd64Effects.Proofs.Register.Set
import Amd64Effects.Proofs.Resolution
import Amd64Effects.Proofs.Table.Policy
import Amd64Effects.Proofs.Table.Revision
import Amd64Effects.Proofs.Table.Violations
import Amd64Effects.Proofs.Text.Words
