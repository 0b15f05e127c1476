import GeoSearch.Command.Run
/-!
The command line. The answer is one line on the standard output; what is logged, and the text of an
error, go to the error channel.
-/
namespace GeoSearch.Command

def usage : String :=
  "usage: geosearch compile --schema PATH\n" ++
  "       geosearch precision --bbox MINX,MINY,MAXX,MAXY [--max-bins N] [--config PATH]"

/-- Why a file cannot be read, with the number of the failure. -/
def failureReason : IO.Error → String
  | .noFileOrDirectory .. => "No such file or directory (os error 2)"
  | .permissionDenied .. => "Permission denied (os error 13)"
  | .inappropriateType .. => "Is a directory (os error 21)"
  | .userError _ => "stream did not contain valid UTF-8"
  | other => toString other

def readFile (path : String) : IO (Except String String) := do
  try
    return .ok (← IO.FS.readFile path)
  catch e => return .error (failureReason e)

partial def readAll (input : IO.FS.Stream) (text : String) : IO String := do
  let line ← input.getLine
  if line.isEmpty then return text else readAll input (text ++ line)

def surroundings : Surroundings IO where
  file := readFile
  input := do readAll (← IO.getStdin) ""

def Outcome.write (o : Outcome) : IO UInt32 := do
  for event in o.events do
    IO.eprint event.line.written
  IO.println o.document.text
  match o.answer with
  | .ok _ => pure ()
  | .error e => IO.eprintln e.text
  return o.exitCode.toUInt32

end GeoSearch.Command

open GeoSearch in
def main (args : List String) : IO UInt32 := do
  match Command.ofArguments? args with
  | none =>
    IO.eprintln Command.usage
    return 2
  | some command => (← Command.run Command.surroundings command).write
