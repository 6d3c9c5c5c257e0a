import RemoteShell.CommandLine.Run

/-!
# The program

Reads the arguments, the environment and the settings file, and prints what comes of
them. No address is served here.
-/

namespace RemoteShell

/-- What a failure to read a file means. -/
def fileErrorOf : IO.Error → FileError
  | .noFileOrDirectory .. => .notFound
  | .permissionDenied .. => .permissionDenied
  | .inappropriateType _ code _ => if code = 21 then .isDirectory else .notDirectory
  | _ => .notFound

/-- Reads a file, as settings are loaded from it. -/
def readSource (path : String) : IO Settings.Source := do
  let result : Except FileError (List UInt8) ←
    try
      let bytes ← IO.FS.readBinFile path
      pure (.ok bytes.toList)
    catch e => pure (.error (fileErrorOf e))
  let isThere := match result with
    | .error .notFound => false
    | _ => true
  return ⟨fun name => if name = path then result else .error .notFound,
    fun name => name = path && isThere⟩

/-- Runs the program with its arguments. -/
def runProgram (arguments : List String) : IO UInt32 := do
  let apiKey ← IO.getEnv "SHELLBRIDGE_API_KEY"
  let listen ← IO.getEnv "SHELLBRIDGE_LISTEN"
  let environment : Settings.Environment
    | "SHELLBRIDGE_API_KEY" => apiKey.map (·.toUTF8.toList)
    | "SHELLBRIDGE_LISTEN" => listen.map (·.toUTF8.toList)
    | _ => none
  let source ← readSource (CommandLine.settingsFile arguments)
  let outcome := CommandLine.run source environment arguments
  IO.print outcome.output
  IO.eprint outcome.complaint
  return .ofNat outcome.status

end RemoteShell

/-- The program. -/
def main (arguments : List String) : IO UInt32 := RemoteShell.runProgram arguments
