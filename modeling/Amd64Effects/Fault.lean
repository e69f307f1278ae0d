import Amd64Effects.Instruction

/-!
# Faults

Everything that can go wrong between a command line and the descriptors that it asks for. A fault is
a cause; its kind, its wording and the instruction that it concerns are functions of it.
-/

namespace Amd64Effects

/-- Why the contents of a file cannot be used. -/
inductive FileFault where
  /-- The system does not give the contents, for a reason in its own words. -/
  | system (reason : String)
  /-- The contents are not text in UTF-8. -/
  | encoding
  deriving DecidableEq, Repr

namespace FileFault

def message : FileFault → String
  | system reason => reason
  | encoding => "stream did not contain valid UTF-8"

end FileFault

inductive Fault where
  /-- A line cannot be read. -/
  | line (cause : SyntaxFault)
  /-- A line of a listing cannot be read. -/
  | listing (cause : ListingFault)
  /-- The table has no flags for an instruction's opcode. -/
  | unclassified (i : Instruction)
  /-- The entries of a table break the policy this many times. -/
  | policy (violations : Nat)
  | file (cause : FileFault)
  /-- A text that is asked for holds no instruction. -/
  | noInstruction (text : String)
  /-- This many of the instructions that are asked for have a fault. -/
  | unresolved (count : Nat)
  deriving DecidableEq, Repr

namespace Fault

/-- What a fault is about. -/
inductive Kind where
  | text
  | opcode
  | table
  | file
  | request
  deriving DecidableEq, Repr

def kind : Fault → Kind
  | line _ | listing _ => .text
  | unclassified _ => .opcode
  | policy _ => .table
  | file _ => .file
  | noInstruction _ | unresolved _ => .request

/-- What is wrong, on one line. -/
def message : Fault → String
  | line cause => cause.message
  | listing cause => cause.message
  | unclassified i => Text.colour .red "unknown instruction" ++ " " ++ i.text
  | policy n => "descriptor table has " ++ toString n ++ " violation(s)"
  | file cause => cause.message
  | noInstruction text => "no instruction in \"" ++ text ++ "\""
  | unresolved n => toString n ++ " instruction(s) could not be resolved"

/-- The instruction that a fault concerns, where it is known. -/
def instruction? : Fault → Option Instruction
  | unclassified i => some i
  | _ => none

/-- The message, and below it the instruction that it concerns. -/
def report (f : Fault) : String :=
  match f.instruction? with
  | some i => f.message ++ "\nContext: " ++ i.opcode.name ++ " -> (" ++ i.text ++ ")"
  | none => f.message

/-- The message as a diagnostic of the program. -/
def diagnostic (f : Fault) : String :=
  Text.colour .red "proginfo::Error" ++ ": " ++ f.message

end Fault

end Amd64Effects
