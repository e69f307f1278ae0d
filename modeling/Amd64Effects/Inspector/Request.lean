/-!
# Requests to the inspector

What a command line asks for, and how its arguments are read. Options and instructions may be mixed;
`--` ends the options, and a dash on its own is no option. Single-letter options can share one dash,
and the name of a file may be joined to its option or follow as an argument of its own, where it may
not look like an option.

The arguments are read from left to right. The first misuse ends the reading, and so does the option
that asks for the version.
-/

namespace Amd64Effects.Inspector

structure Request where
  instructions : List String := []
  files : List String := []
  table : Bool := false
  check : Bool := false
  verbose : Bool := false
  deriving DecidableEq, Repr

namespace Request

/-- Whether nothing is asked for. The verbose option alone asks for nothing. -/
def isIdle (r : Request) : Bool :=
  r.instructions.isEmpty && r.files.isEmpty && !r.table && !r.check

/-- Whether the table is to be checked, which it also is when nothing is asked for. -/
def checksTable (r : Request) : Bool :=
  r.check || r.isIdle

def addInstruction (r : Request) (text : String) : Request :=
  { r with instructions := r.instructions ++ [text] }

def addFile (r : Request) (name : String) : Request :=
  { r with files := r.files ++ [name] }

/-- An option that is given without a value. Each may be given once. -/
inductive Switch where
  | table | check | verbose
  deriving DecidableEq, Repr

/-- Turns a switch on, unless it is on already. -/
def turnOn? (r : Request) : Switch → Option Request
  | .table => if r.table then none else some { r with table := true }
  | .check => if r.check then none else some { r with check := true }
  | .verbose => if r.verbose then none else some { r with verbose := true }

end Request

/-- What becomes of a command line. -/
inductive Invocation where
  | inspect (r : Request)
  | showVersion
  | misuse
  deriving DecidableEq, Repr

namespace Invocation

/-- What becomes of one argument. -/
inductive Step where
  | done (r : Request)
  /-- The name of a file has to follow. -/
  | needsFile (r : Request)
  | showVersion
  | misuse

/-- Turns a switch on. -/
def Step.ofSwitch (r : Request) (s : Request.Switch) : Step :=
  match r.turnOn? s with
  | some r => .done r
  | none => .misuse

/-- The switch of a letter. -/
def switchOfLetter? : Char → Option Request.Switch
  | 't' => some .table
  | 'c' => some .check
  | 'v' => some .verbose
  | _ => none

/-- Letters behind one dash. The letter of a file takes the rest, less an equals sign before it. -/
def readLetters (r : Request) : List Char → Step
  | [] => .done r
  | 'V' :: _ => .showVersion
  | ['f'] => .needsFile r
  | 'f' :: '=' :: name => .done (r.addFile (String.ofList name))
  | 'f' :: name => .done (r.addFile (String.ofList name))
  | c :: rest =>
    match switchOfLetter? c with
    | none => .misuse
    | some s =>
      match r.turnOn? s with
      | some r => readLetters r rest
      | none => .misuse

/-- The name of an option and the value that is joined to it, if any. -/
def splitValue (text : List Char) : List Char × Option (List Char) :=
  (text.takeWhile (· != '='), (text.dropWhile (· != '=')).tail?)

/-- An option behind two dashes. -/
def readLong (r : Request) (text : List Char) : Step :=
  match splitValue text with
  | (name, none) =>
    if name = "version".toList then .showVersion
    else if name = "file".toList then .needsFile r
    else if name = "table".toList then .ofSwitch r .table
    else if name = "check".toList then .ofSwitch r .check
    else if name = "verbose".toList then .ofSwitch r .verbose
    else .misuse
  | (name, some value) =>
    if name = "file".toList then .done (r.addFile (String.ofList value)) else .misuse

/-- One argument before the end of the options. -/
def readArgument (r : Request) (text : String) : Step :=
  match text.toList with
  | '-' :: '-' :: name => readLong r name
  | '-' :: c :: rest => readLetters r (c :: rest)
  | _ => .done (r.addInstruction text)

/-- Whether an argument can be the name of a file that follows its option. -/
def isFileName (text : String) : Bool :=
  match text.toList with
  | '-' :: _ :: _ => false
  | _ => true

/-- Reads the arguments that are left, with the request so far. -/
def readAll (r : Request) : List String → Invocation
  | [] => .inspect r
  | "--" :: rest => .inspect { r with instructions := r.instructions ++ rest }
  | text :: rest =>
    match readArgument r text with
    | .done r => readAll r rest
    | .showVersion => .showVersion
    | .misuse => .misuse
    | .needsFile r =>
      match rest with
      | [] => .misuse
      | name :: rest => if isFileName name then readAll (r.addFile name) rest else .misuse

/-- What a command line asks for. -/
def ofArguments (arguments : List String) : Invocation :=
  readAll {} arguments

end Invocation

end Amd64Effects.Inspector
