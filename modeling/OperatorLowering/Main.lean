import OperatorLowering.CommandLine

/-!
The command line program.
-/

namespace OperatorLowering.CommandLine

def readFile (path : String) : IO (Except FileError String) := do
  try
    return match String.fromUTF8? (← IO.FS.readBinFile path) with
      | some content => .ok content
      | none => .error .invalidText
  catch
    | .noFileOrDirectory .. => return .error .notFound
    | .inappropriateType _ 21 _ => return .error .isDirectory
    | .inappropriateType .. => return .error .notDirectory
    | .invalidArgument .. => return .error .nameTooLong
    | e => return .error (.other (toString e))

def Outcome.print (outcome : Outcome) : IO UInt32 := do
  for report in outcome.reports do
    IO.eprintln report.text
  IO.print outcome.output
  return outcome.status.toUInt32

end OperatorLowering.CommandLine

open OperatorLowering.CommandLine in
def main (args : List String) : IO UInt32 := do
  match Invocation.ofArguments args with
  | none =>
    IO.eprintln "error: the arguments do not fit\n\nUsage: sarl <COMMAND>"
    Outcome.badUsage.print
  | some invocation =>
    let contents ← invocation.paths.mapM fun path => do return (path, ← readFile path)
    let files : Files := fun path => (contents.lookup path).getD (.error .notFound)
    (perform files invocation).print
