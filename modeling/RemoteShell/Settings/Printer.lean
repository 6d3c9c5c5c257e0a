import RemoteShell.Settings.Basic
import RemoteShell.Text.Quoted

/-!
# Printing settings

Settings are shown one on a line, nested by indentation, with texts in quotes.
-/

namespace RemoteShell.Settings

/-- The lines of a block with a name and fields. -/
def block (name : String) (fields : List (List String)) : List String :=
  [name ++ " \x7b"] ++ fields.flatten.map ("    " ++ ·) ++ ["\x7d"]

/-- Adds a comma to the last line. -/
def withComma : List String → List String
  | [] => []
  | [line] => [line ++ ","]
  | line :: lines => line :: withComma lines

/-- The lines of a field. -/
def field (name : String) (value : List String) : List String :=
  match value with
  | [] => []
  | first :: rest => withComma ((name ++ ": " ++ first) :: rest)

/-- The line of a text. -/
def textField (name text : String) : List String := field name [Text.quoted text]

/-- The line of a number. -/
def numberField (name : String) (n : Nat) : List String := field name [toString n]

/-- The settings as they are shown. -/
def print (settings : Settings) : String :=
  let lines := block "Config" [
    field "server" (block "ServerConfig" [
      textField "listen" settings.server.listen,
      numberField "max_sessions" settings.server.maxSessions,
      numberField "default_terminal_rows" settings.server.defaultRows.toNat,
      numberField "default_terminal_cols" settings.server.defaultCols.toNat]),
    field "auth" (block "AuthConfig" [textField "api_key" settings.auth.apiKey]),
    field "shell" (block "ShellConfig" [
      textField "default_shell" settings.shell.defaultShell,
      textField "default_working_dir" settings.shell.defaultWorkingDir]),
    field "bridge" (block "BridgeConfig" [
      numberField "flush_interval_ms" settings.timing.flushIntervalMs,
      numberField "keepalive_interval_secs" settings.timing.keepaliveIntervalSecs,
      numberField "keepalive_max_failures" settings.timing.keepaliveMaxFailures.toNat,
      numberField "drain_timeout_ms" settings.timing.drainTimeoutMs]),
    field "logging" (block "LoggingConfig" [textField "level" settings.logging.level])]
  String.join (lines.map (· ++ "\n"))

end RemoteShell.Settings
