import LosslessBuffer.CommandLine.Program
/-!
# The executable

`main` runs the program on the process's arguments: files are read from the file system,
the settings' environment variables from the environment, and the transcript is written
to the standard streams, the exit status last.
-/

set_option autoImplicit false

namespace LosslessBuffer.CommandLine

/-- The complaint about a file that cannot be read, worded as the program reports it. -/
def complaintOf (path : String) : IO.Error → String
  | .noFileOrDirectory .. => "open " ++ path ++ ": no such file or directory"
  | .permissionDenied .. => "open " ++ path ++ ": permission denied"
  | .inappropriateType _ 20 _ => "open " ++ path ++ ": not a directory"
  | .inappropriateType _ 21 _ => "read " ++ path ++ ": is a directory"
  | e => "read " ++ path ++ ": " ++ toString e

/-- The text of a file, or the complaint about it. -/
def readText (path : String) : IO (Except String String) := do
  try
    return .ok (← IO.FS.readFile path)
  catch e =>
    return .error (complaintOf path e)

/-- The environment variables a setting may come from, with their values when set. -/
def settingVariables : IO (List (String × String)) := do
  let mut found := []
  for f in calcFlags ++ commonFlags do
    let name := environmentName f.name
    if let some value ← IO.getEnv name then found := found ++ [(name, value)]
  return found

end LosslessBuffer.CommandLine

/-- Runs the program on the process's arguments. -/
def main (args : List String) : IO UInt32 := do
  let known ← LosslessBuffer.CommandLine.settingVariables
  let t ← LosslessBuffer.CommandLine.run LosslessBuffer.CommandLine.readText
    (fun name => (known.find? (·.1 == name)).map (·.2)) args
  (← IO.getStdout).putStr t.stdout
  (← IO.getStderr).putStr t.stderr
  return t.exitCode.toUInt32
