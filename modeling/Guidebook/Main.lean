import Guidebook.Command.Run

namespace Guidebook

/-!
# The command line

Reads arguments and files, and prints what a command leaves behind.
-/

/--
The refusal with a description and a code of the system.  Some calls give the
code with a minus sign, and some start the description with a small letter.
-/
def ReadFailure.ofSystem (description : String) (code : UInt32) : ReadFailure :=
  .refused description.capitalize (min code.toNat (0 - code).toNat)

/-- The failure that an error of the system stands for. -/
def ReadFailure.ofError : IO.Error → ReadFailure
  | .noFileOrDirectory _ code description => .ofSystem description code
  | .inappropriateType _ code description => .ofSystem description code
  | .permissionDenied _ code description => .ofSystem description code
  | .invalidArgument _ code description => .ofSystem description code
  | .hardwareFault code description => .ofSystem description code
  | error => .ofSystem error.toString 0

/-- Reads the bytes of a file. -/
def readFile (path : String) : IO (Except ReadFailure ByteArray) := do
  try
    return .ok (← IO.FS.readBinFile path)
  catch error =>
    return .error (.ofError error)

end Guidebook

/-- Runs the command that the arguments name. -/
def main (arguments : List String) : IO UInt32 := do
  let outcome ← (Guidebook.Request.ofArguments {} arguments).perform Guidebook.readFile
  IO.print (String.ofList outcome.output)
  match outcome.complaint with
  | none => pure ()
  | some message => IO.eprintln message
  return outcome.exitCode.toUInt32
