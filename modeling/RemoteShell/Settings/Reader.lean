import RemoteShell.Settings.Basic
import RemoteShell.Toml.Document

/-!
# Reading settings from TOML

A section is a table of named settings, or an array of settings in their order. What
is left out of a section keeps its default, and a section that is left out is as a whole
what it is by default. Names that mean nothing are passed over. A setting of the wrong
type spoils the whole file.
-/

namespace RemoteShell.Settings

/-- A section of a file. -/
inductive Section where
  | named (entries : Toml.Entries)
  | listed (items : List Toml.Value)

/-- The section that a value stands for. A date is a table as well, one without any
setting. -/
def Section.ofValue? : Toml.Value → Option Section
  | .table _ entries => some (.named entries)
  | .array items => some (.listed items)
  | .series tables => some (.listed (tables.map (.table .header)))
  | .moment _ => some (.named [])
  | _ => none

/-- The value of the setting that has this name or, in an array, this place. -/
def Section.get? (s : Section) (name : String) (place : Nat) : Option Toml.Value :=
  match s with
  | .named entries => entries.lookup name
  | .listed items => items[place]?

/-- The text of a setting. -/
def text? (fallback : String) : Option Toml.Value → Option String
  | none => some fallback
  | some (.text text) => some text
  | some _ => none

/-- The number of a setting, which is at most that great. -/
def natural? (greatest fallback : Nat) : Option Toml.Value → Option Nat
  | none => some fallback
  | some (.integer n) => if 0 ≤ n ∧ n.toNat ≤ greatest then some n.toNat else none
  | some _ => none

/-- The greatest number of 16 bits. -/
def greatest16 : Nat := 65535

/-- The greatest number of 32 bits. -/
def greatest32 : Nat := 4294967295

/-- The greatest number of 64 bits. -/
def greatest64 : Nat := 18446744073709551615

/-- Reads the section of the server. -/
def readServer? (s : Section) : Option ServerSettings := do
  return {
    listen := ← text? Default.listen (s.get? "listen" 0)
    maxSessions := ← natural? greatest64 Default.maxSessions (s.get? "max_sessions" 1)
    defaultRows :=
      .ofNat (← natural? greatest16 Default.terminalRows.toNat (s.get? "default_terminal_rows" 2))
    defaultCols :=
      .ofNat (← natural? greatest16 Default.terminalCols.toNat (s.get? "default_terminal_cols" 3)) }

/-- Reads the section of the key. -/
def readAuth? (s : Section) : Option AuthSettings := do
  return { apiKey := ← text? Default.apiKey (s.get? "api_key" 0) }

/-- Reads the section of the shell. -/
def readShell? (s : Section) : Option ShellSettings := do
  return {
    defaultShell := ← text? Default.shell (s.get? "default_shell" 0)
    defaultWorkingDir := ← text? Default.workingDir (s.get? "default_working_dir" 1) }

/-- Reads the section of the timing. -/
def readTiming? (s : Section) : Option TimingSettings := do
  return {
    flushIntervalMs := ← natural? greatest64 Default.flushIntervalMs (s.get? "flush_interval_ms" 0)
    keepaliveIntervalSecs :=
      ← natural? greatest64 Default.keepaliveIntervalSecs (s.get? "keepalive_interval_secs" 1)
    keepaliveMaxFailures := .ofNat
      (← natural? greatest32 Default.keepaliveMaxFailures.toNat
        (s.get? "keepalive_max_failures" 2))
    drainTimeoutMs := ← natural? greatest64 Default.drainTimeoutMs (s.get? "drain_timeout_ms" 3) }

/-- Reads the section of the log. -/
def readLogging? (s : Section) : Option LoggingSettings := do
  return { level := ← text? Default.logLevel (s.get? "level" 0) }

/-- Reads one section of a document. If it is not there, it is what it is by default. -/
def readSection? {α : Type} (standard : α) (read? : Section → Option α) (entries : Toml.Entries)
    (name : String) : Option α :=
  match entries.lookup name with
  | none => some standard
  | some value => do read? (← Section.ofValue? value)

/-- The settings of a document. -/
def ofEntries? (entries : Toml.Entries) : Option Settings := do
  return {
    server := ← readSection? .standard readServer? entries "server"
    auth := ← readSection? .standard readAuth? entries "auth"
    shell := ← readSection? .standard readShell? entries "shell"
    timing := ← readSection? .standard readTiming? entries "bridge"
    logging := ← readSection? .standard readLogging? entries "logging" }

/-- The settings of a file. -/
def parse? (text : String) : Option Settings := do ofEntries? (← Toml.parse? text)

end RemoteShell.Settings
