import Attenuation.CommandLine

/-!
# The program

The outer layer of the command line: it reads the named file, prints the output and reports the
error. Everything else is `CommandLine`.
-/

namespace Attenuation

/-- Read the bytes of a file. The system gives the number of an error with either sign. -/
def readContents (path : String) : IO (Except FileFault ByteArray) := do
  try
    return .ok (← IO.FS.readBinFile path)
  catch
    | .noFileOrDirectory .. => return .error .notFound
    | .inappropriateType none .. => return .error .isDirectory
    | .inappropriateType (some _) .. => return .error .notDirectory
    | fault@(.invalidArgument _ code _) =>
      return .error
        (if code = 36 || code = 0 - 36 then .nameTooLong else .described (toString fault))
    | .permissionDenied .. => return .error .notPermitted
    | fault => return .error (.described (toString fault))

end Attenuation

open Attenuation in
/-- Run the command line. -/
def main (arguments : List String) : IO UInt32 := do
  let exit ←
    match CommandLine.plan arguments with
    | .error _ => pure (CommandLine.run (fun _ => .error .notFound) arguments)
    | .ok plan => do
      let contents ←
        match CommandLine.path? plan with
        | some path => readContents path
        | none => pure (.error .notFound)
      pure (CommandLine.carryOut plan contents)
  IO.print exit.output
  IO.eprint exit.error
  return UInt32.ofNat exit.code
