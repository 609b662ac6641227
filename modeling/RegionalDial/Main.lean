/-
# The program

It reads its arguments, the variable of the toggle and the files that the command names, and then
shows what is left of the command.  Nothing is sent from here: the network it stands in accepts no
connection and lets no one listen.
-/
import RegionalDial.Command.Perform

namespace RegionalDial
namespace Command

/-- The file error that a failed read tells. -/
def fileErrorOf : IO.Error → File.Error
  | .inappropriateType _ code _ => if code = 20 then .notADirectory else .isADirectory
  | .invalidArgument _ 36 _ => .nameTooLong
  | .permissionDenied _ code details => .other s!"{details} (os error {code})"
  | _ => .notFound

/-- Reads one file. -/
def readFound (path : Path) : IO (Path × Except File.Error (List UInt8)) := do
  if path.bytes.contains 0 then return (path, .error .nulInName)
  try
    let content ← IO.FS.readBinFile path.display
    return (path, .ok content.toList)
  catch error => return (path, .error (fileErrorOf error))

/-- Reads the files that a command line asks for. -/
def readNamed (arguments : List (List UInt8)) : IO File.System := do
  match Invocation.parse arguments with
  | .error _ => return File.System.ofRead []
  | .ok invocation => return File.System.ofRead (← invocation.paths.mapM readFound)

/-- Shows what is left of a program, and gives its exit code. -/
def present (outcome : Outcome) : IO UInt32 := do
  IO.print outcome.output
  match outcome.errorLine with
  | none => pure ()
  | some line => IO.eprintln line
  return UInt32.ofNat outcome.exitCode

end Command
end RegionalDial

open RegionalDial

def main (arguments : List String) : IO UInt32 := do
  let arguments := arguments.map Text.Utf8.encode
  let toggle ← IO.getEnv Toggle.variableName
  let host : Command.Host :=
    ⟨← Command.readNamed arguments, toggle.map Text.Utf8.encode, Dial.Network.isolated,
      fun _ => false⟩
  match (Command.run host arguments).value? with
  | none => return 1
  | some outcome => Command.present outcome
