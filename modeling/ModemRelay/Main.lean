import ModemRelay.Replay.Run

/-! The program: replays the scenario files that its command line names. -/

namespace ModemRelay

/-- What reading a file comes to. -/
def readFile (path : String) : IO (Except ReadFault ByteArray) := do
  if path.toList.contains '\x00' then
    return .error .nulInPath
  try
    return .ok (← IO.FS.readBinFile path)
  catch
    | .noFileOrDirectory .. => return .error .notFound
    | .inappropriateType .. => return .error .isADirectory
    | .permissionDenied .. => return .error (.system 13 "PermissionDenied" "Permission denied")
    | e => return .error (.system 5 "Other" (toString e))

end ModemRelay

open ModemRelay

def main (args : List String) : IO UInt32 := do
  let files ←
    match Replay.Request.ofArguments args with
    | .replay options => options.scenarios.mapM fun path => return (path, ← readFile path)
    | _ => pure []
  let read (path : String) := (files.lookup path).getD (.error .notFound)
  let output := Replay.run args (← IO.getEnv "RUST_LOG") read
  for line in output.lines do
    IO.println line
  for line in output.errorLines do
    IO.eprintln line
  return output.exitCode.toUInt32
