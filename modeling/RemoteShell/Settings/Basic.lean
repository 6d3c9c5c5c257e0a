import RemoteShell.Session.Options

/-!
# Settings

What a server is configured with. Every setting has a default, and so has every section as a
whole, so nothing needs to be configured. Main statement: the default settings are usable
(`findUnusable?_standard`).
-/

namespace RemoteShell

/-- The address that is served, and bounds on the sessions. -/
structure ServerSettings where
  listen : String
  maxSessions : Nat
  /-- The size of a terminal whose client asks for none. -/
  defaultRows : UInt16
  defaultCols : UInt16
  deriving DecidableEq, Repr

/-- The key that clients have to know. -/
structure AuthSettings where
  apiKey : String
  deriving DecidableEq, Repr

/-- What runs in a session whose client asks for nothing else. -/
structure ShellSettings where
  defaultShell : String
  defaultWorkingDir : String
  deriving DecidableEq, Repr

/-- The timing of sessions. -/
structure TimingSettings where
  flushIntervalMs : Nat
  keepaliveIntervalSecs : Nat
  keepaliveMaxFailures : UInt32
  drainTimeoutMs : Nat
  deriving DecidableEq, Repr

/-- What is logged. -/
structure LoggingSettings where
  level : String
  deriving DecidableEq, Repr

/-- All settings. -/
structure Settings where
  server : ServerSettings
  auth : AuthSettings
  shell : ShellSettings
  timing : TimingSettings
  logging : LoggingSettings
  deriving DecidableEq, Repr

/-! ## Defaults -/

namespace Settings.Default

def listen : String := "0.0.0.0:1337"

def maxSessions : Nat := 20

def terminalRows : UInt16 := 24

def terminalCols : UInt16 := 80

def apiKey : String := "change-me"

def shell : String := "/bin/sh"

def workingDir : String := "/"

def flushIntervalMs : Nat := 60

def keepaliveIntervalSecs : Nat := 15

def keepaliveMaxFailures : UInt32 := 3

def drainTimeoutMs : Nat := 500

def logLevel : String := "info"

end Settings.Default

open Settings

/-- The section of the server by default. -/
def ServerSettings.standard : ServerSettings where
  listen := Default.listen
  maxSessions := Default.maxSessions
  defaultRows := Default.terminalRows
  defaultCols := Default.terminalCols

/-- The section of the key by default. -/
def AuthSettings.standard : AuthSettings where
  apiKey := Default.apiKey

/-- The section of the shell by default. -/
def ShellSettings.standard : ShellSettings where
  defaultShell := Default.shell
  defaultWorkingDir := Default.workingDir

/-- The section of the timing by default. -/
def TimingSettings.standard : TimingSettings where
  flushIntervalMs := Default.flushIntervalMs
  keepaliveIntervalSecs := Default.keepaliveIntervalSecs
  keepaliveMaxFailures := Default.keepaliveMaxFailures
  drainTimeoutMs := Default.drainTimeoutMs

/-- The section of the log by default. -/
def LoggingSettings.standard : LoggingSettings where
  level := Default.logLevel

/-- The timing of one session. -/
def TimingSettings.options (timing : TimingSettings) : Options :=
  ⟨millis timing.flushIntervalMs, seconds timing.keepaliveIntervalSecs,
    timing.keepaliveMaxFailures, millis timing.drainTimeoutMs⟩

namespace Settings

/-- The settings of a server that nobody has configured: each section is as it is by default. -/
def standard : Settings where
  server := .standard
  auth := .standard
  shell := .standard
  timing := .standard
  logging := .standard

/-- The file that is read where none is named. -/
def defaultFile : String := "shellbridge.toml"

/-- The first setting that no server can run with: a period must not be empty. -/
def findUnusable? (settings : Settings) : Option String :=
  if settings.timing.flushIntervalMs = 0 then some "bridge.flush_interval_ms"
  else if settings.timing.keepaliveIntervalSecs = 0 then some "bridge.keepalive_interval_secs"
  else if settings.timing.drainTimeoutMs = 0 then some "bridge.drain_timeout_ms"
  else none

theorem findUnusable?_standard : standard.findUnusable? = none := rfl

/-- Takes settings over from variables, where they win. -/
def override (settings : Settings) (exported? : String → Option String) : Settings :=
  { settings with
    auth.apiKey := (exported? "SHELLBRIDGE_API_KEY").getD settings.auth.apiKey
    server.listen := (exported? "SHELLBRIDGE_LISTEN").getD settings.server.listen }

end Settings

end RemoteShell
