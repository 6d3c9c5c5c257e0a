import RemoteShell.CommandLine.Arguments
import RemoteShell.Version

/-!
# Help texts
-/

namespace RemoteShell.CommandLine

/-- The name of the program. -/
def programName : String := "shellbridge"

/-- The line that tells the version. -/
def versionText : String := s!"{programName} {versionNumber}\n"

/-- The option that names the settings file, in a list of options. -/
def settingsFileLine : String :=
  "      --config <CONFIG>  Path to TOML config file (when no subcommand is given)\n"

/-- The option that asks for help, in a list of options. -/
def helpLine : String := "  -h, --help             Print help\n"

/-- What a command is for. -/
def Command.summary : Command → String
  | .serve => "Run the HTTP/WS server (default when no subcommand given)"
  | .checkConfig => "Print the effective configuration and exit"

/-- The name of a command. -/
def Command.name : Command → String
  | .serve => "serve"
  | .checkConfig => "check-config"

/-- What asking for help is for. -/
def helpSummary : String := "Print this message or the help of the given subcommand(s)"

/-- The help on a topic. -/
def Topic.text : Topic → String
  | .program =>
    "Serves interactive shells over WebSocket\n\n" ++
      s!"Usage: {programName} [OPTIONS] [COMMAND]\n\n" ++
      "Commands:\n" ++
      s!"  serve         {Command.serve.summary}\n" ++
      s!"  check-config  {Command.checkConfig.summary}\n" ++
      s!"  help          {helpSummary}\n\n" ++
      "Options:\n" ++ settingsFileLine ++ helpLine ++ "  -V, --version          Print version\n"
  | .command subject =>
    s!"{subject.summary}\n\nUsage: {programName} {subject.name} [OPTIONS]\n\nOptions:\n" ++
      settingsFileLine ++ helpLine
  | .help =>
    s!"{helpSummary}\n\nUsage: {programName} help [COMMAND]...\n\n" ++
      "Arguments:\n  [COMMAND]...  Print help for the subcommand(s)\n"

end RemoteShell.CommandLine
