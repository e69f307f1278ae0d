import Amd64Effects.Inspector.Item
import Amd64Effects.Inspector.Request

/-!
# A run of the inspector

A run answers a request with the items of a report and, if it fails, the fault that ended it. The
table comes first, then the instructions of the command line, all of which are tried, then the files
up to the first one that has a fault. Only when no file has one is the number of instructions with a
fault itself a fault.

Files are given as a function, so that a run depends on the request and the files alone. The
function gives the contents of a file, or the system's words for why there are none.
-/

namespace Amd64Effects.Inspector

/-- The items printed so far, and the fault that ended the run. -/
structure Outcome where
  items : List Item := []
  fault : Option Fault := none
  deriving DecidableEq, Repr

namespace Outcome

/-- The second outcome after the first, unless the first ended the run. -/
def andThen (a b : Outcome) : Outcome :=
  match a.fault with
  | some _ => a
  | none => { items := a.items ++ b.items, fault := b.fault }

/-- Outcomes one after the other, up to the first that ended the run. -/
def sequence (outcomes : List Outcome) : Outcome :=
  outcomes.foldr andThen {}

/-- All that is printed: the items, and last the fault. -/
def output (o : Outcome) : String :=
  String.join (o.items.map Item.text) ++
    match o.fault with
    | some f => f.report ++ "\n"
    | none => ""

/-- What is printed as a diagnostic. -/
def diagnostics (o : Outcome) : String :=
  match o.fault with
  | some f => "Error: " ++ f.diagnostic ++ "\n"
  | none => ""

def exitCode (o : Outcome) : Nat :=
  if o.fault.isSome then 1 else 0

end Outcome

/-- The contents of the files, by name, or why the system does not give them. -/
abbrev Files := String → Except String ByteArray

variable (t : Table)

/-! ## The table -/

/-- The check of the table against its policy. -/
def tableCheck : Outcome :=
  let violations := t.violations
  if violations.isEmpty then { items := [.tableKept t.toList.length] }
  else { items := violations.map .violation, fault := some (.policy violations.length) }

/-- The rows of the table. -/
def tableRows : Outcome :=
  { items := t.toList.map fun (op, d) => .row op d }

/-! ## Instructions of the command line -/

/-- Reads and resolves one instruction. -/
def inspectText (verbose : Bool) (text : String) : List Item :=
  match Instruction.read text.toList with
  | .error cause => [.failure (.line cause)]
  | .ok none => [.failure (.noInstruction text)]
  | .ok (some i) =>
    (if verbose then [.operands i] else []) ++
      match t.resolve i with
      | .error f => [.failure f]
      | .ok d => [.block i d]

def Item.isFailure : Item → Bool
  | .failure _ => true
  | _ => false

/-- Tries every instruction of the command line. -/
def inspectTexts (verbose : Bool) (texts : List String) : List Item :=
  texts.flatMap (inspectText t verbose)

/-! ## Files -/

/-- Resolves the instructions of a listing up to the first that has no descriptor. -/
def resolveAll : List Instruction → Outcome
  | [] => {}
  | i :: rest =>
    match t.resolve i with
    | .error f => { fault := some f }
    | .ok d => Outcome.andThen { items := [.block i d] } (resolveAll rest)

/-- The text of a file. -/
def readText (files : Files) (name : String) : Except FileFault String :=
  match files name with
  | .error reason => .error (.system reason)
  | .ok contents =>
    match String.fromUTF8? contents with
    | some text => .ok text
    | none => .error .encoding

/-- Resolves the instructions of a listing. It is read as a whole before the first is printed. -/
def inspectListing (verbose : Bool) (name text : String) : Outcome :=
  match Listing.read text.toList with
  | .error cause => { fault := some (.listing cause) }
  | .ok instructions =>
    (resolveAll t instructions).andThen
      { items := if verbose then [.closing instructions.length name] else [] }

/-- Reads a file and resolves its instructions. -/
def inspectFile (files : Files) (verbose : Bool) (name : String) : Outcome :=
  match readText files name with
  | .error cause => { fault := some (.file cause) }
  | .ok text => Outcome.andThen { items := [.opening name] } (inspectListing t verbose name text)

/-! ## The whole run -/

/-- The number of instructions with a fault, as a fault. -/
def countFailures (items : List Item) : Outcome :=
  let failures := items.countP Item.isFailure
  { fault := if failures = 0 then none else some (.unresolved failures) }

/-- Answers a request. -/
def run (files : Files) (r : Request) : Outcome :=
  let items := inspectTexts t r.verbose r.instructions
  .sequence <|
    [if r.checksTable then tableCheck t else {},
     if r.table then tableRows t else {},
     { items := items }] ++
    r.files.map (inspectFile t files r.verbose) ++
    [countFailures items]

/-- The line that tells the version. -/
def versionText : String := "proginfo 0.1.0\n"

end Amd64Effects.Inspector
