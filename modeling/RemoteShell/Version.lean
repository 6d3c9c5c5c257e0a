/-!
# The version of the program
-/

namespace RemoteShell

/-- The version of the program. -/
def versionNumber : String := "0.1.0"

end RemoteShell
