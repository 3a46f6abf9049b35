import Terminator.Command

set_option autoImplicit false

namespace Terminator.Main

open Terminator.Command

-- A directory is found out when it is read, and the other problems when the path is opened. The
-- codes of the latter are negated.
def contentOfError (error : IO.Error) : FileContent :=
  match error with
  | .noFileOrDirectory _ _ _ => .missing
  | .inappropriateType _ code _ => if code = 21 then .directory else .blocked
  | .invalidArgument _ code _ => if code = -36 then .nameTooLong else .unreadable (toString error)
  | .permissionDenied _ _ _ => .unreadable "Permission denied (os error 13)"
  | _ => .unreadable (toString error)

def look (path : Text) : IO FileContent := do
  try return .bytes (← IO.FS.readBinFile (String.ofList path))
  catch error => return contentOfError error

def observe (invocation : Invocation) : IO Environment := do
  let found ← invocation.paths.mapM fun path => do return (path, ← look path)
  let files (path : Text) : FileContent :=
    ((found.find? (·.1 = path)).map (·.2)).getD .missing
  let input ← match invocation with
    | .probe _ arguments =>
      if arguments.path = ['-'] then
        do pure (FileContent.bytes (← (← IO.getStdin).readBinToEnd))
      else pure FileContent.missing
    | _ => pure FileContent.missing
  return { files, input, logFilter := (← IO.getEnv "RUST_LOG").map String.toList }

end Terminator.Main

open Terminator Terminator.Command in
def main (arguments : List String) : IO UInt32 := do
  match Invocation.ofArguments? (arguments.map String.toList) with
  | none =>
    IO.eprintln "error: wrong usage"
    return usageExitCode.toUInt32
  | some invocation =>
    let outcome := run (← Terminator.Main.observe invocation) invocation
    IO.print (String.ofList outcome.output)
    IO.eprint (String.ofList outcome.errors)
    return outcome.exitCode.toUInt32
