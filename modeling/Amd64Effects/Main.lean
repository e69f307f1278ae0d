import Amd64Effects.Inspector.Run

/-!
# The command line

Reads the files that a request names, answers the request, and prints the answer. All decisions are
made by `Inspector.run`.
-/

namespace Amd64Effects.Inspector

/-- A reason in the system's words, with its number, which may come with its sign changed. -/
def reasonText (code : UInt32) (words : String) : String :=
  words.capitalize ++ " (os error " ++ toString code.toInt32.toInt.natAbs ++ ")"

/-- Why the system does not give the contents of a file. -/
def reasonOfError : IO.Error → String
  | .alreadyExists _ code words | .interrupted _ code words | .noFileOrDirectory _ code words
  | .invalidArgument _ code words | .permissionDenied _ code words
  | .resourceExhausted _ code words | .inappropriateType _ code words
  | .noSuchThing _ code words => reasonText code words
  | .otherError code words | .resourceBusy code words | .resourceVanished code words
  | .unsupportedOperation code words | .hardwareFault code words
  | .unsatisfiedConstraints code words | .illegalOperation code words
  | .protocolError code words | .timeExpired code words => reasonText code words
  | .unexpectedEof => "unexpected end of file"
  | .userError words => words

/-- The contents of a file, or why the system does not give them. -/
def readContents (name : String) : IO (Except String ByteArray) := do
  try
    return .ok (← IO.FS.readBinFile name)
  catch e =>
    return .error (reasonOfError e)

/-- Looks a name up among the files that were read, as all those of a request are. -/
def filesOf (contents : List (String × Except String ByteArray)) : Files :=
  fun name => (contents.lookup name).getD (.error "not a file of the request")

end Amd64Effects.Inspector

open Amd64Effects Amd64Effects.Inspector in
def main (arguments : List String) : IO UInt32 := do
  match Invocation.ofArguments arguments with
  | .misuse =>
    (← IO.getStderr).putStr
      "usage: proginfo [-t] [-c] [-v] [-V] [-f FILE]... [--] [INSTRUCTION]...\n"
    return 2
  | .showVersion =>
    (← IO.getStdout).putStr versionText
    return 0
  | .inspect request =>
    let contents ← request.files.mapM fun name => do return (name, ← readContents name)
    let outcome := run .amd64 (filesOf contents) request
    (← IO.getStdout).putStr outcome.output
    (← IO.getStderr).putStr outcome.diagnostics
    return outcome.exitCode.toUInt32
