import RequestBinding.CommandLine.Program

set_option autoImplicit false

namespace RequestBinding.CommandLine

def markerVariable : String := "PARAM_DIRECTIVE_MARKER"

def nodeAt (path : Text) : IO Node := do
  try
    let content ← IO.FS.readBinFile (String.ofList path)
    return .file content.toList
  catch
    | .noFileOrDirectory .. | .noSuchThing .. => return .missing
    -- A directory opens and cannot be read; a path that leads through a file does not even open,
    -- and only then does the error carry its name.
    | .inappropriateType none .. => return .directory
    | .inappropriateType (some _) .. => return .missing
    | error => throw error

end RequestBinding.CommandLine

open RequestBinding RequestBinding.CommandLine in
def main (args : List String) : IO UInt32 := do
  let setting? ← IO.getEnv markerVariable
  let outcome ←
    match plan (setting?.map String.toList) (args.map String.toList) with
    | .settled outcome => pure outcome
    | .lookUp path next => next <$> nodeAt path
  IO.eprint (String.ofList outcome.stderr)
  IO.print (String.ofList outcome.stdout)
  if let some fault := outcome.fault? then
    IO.eprintln (String.ofList fault.message)
  return UInt32.ofNat outcome.exit
