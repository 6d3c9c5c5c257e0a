import RemoteShell.CommandLine.Help
import RemoteShell.Settings.Load
import RemoteShell.Settings.Printer

/-!
# Running the program
-/

namespace RemoteShell.CommandLine

/-- How the program ends, short of serving anybody. -/
inductive Outcome where
  /-- It has printed what it was asked for. -/
  | printed (text : String)
  | misused
  /-- There are no settings to run with. -/
  | unconfigured (error : Settings.LoadError)
  /-- The address of the server cannot be had. -/
  | unbound (settings : Settings)
  deriving DecidableEq, Repr

namespace Outcome

/-- The status that the program leaves with. -/
def status : Outcome → Nat
  | printed _ => 0
  | unconfigured _ | unbound _ => 1
  | misused => 2

/-- What the program writes to its output. -/
def output : Outcome → String
  | printed text => text
  | _ => ""

/-- What the program writes to its error stream. -/
def complaint : Outcome → String
  | printed _ | unbound _ => ""
  | misused => s!"{programName}: these arguments make no sense, see --help\n"
  | unconfigured error => s!"{programName}: {error.message}\n"

/-- Tells whether the wording of the complaint matters to anybody. -/
def hasFixedWording : Outcome → Bool
  | misused | unconfigured (.malformed _) => false
  | _ => true

end Outcome

/-- Runs the program on a host where no address can be served. -/
def run (source : Settings.Source) (environment : Settings.Environment)
    (arguments : List String) : Outcome :=
  match Request.ofArguments arguments with
  | .help topic => .printed topic.text
  | .version => .printed versionText
  | .misuse => .misused
  | .run command path =>
    match Settings.load source environment path with
    | .error e => .unconfigured e
    | .ok settings =>
      match command with
      | .checkConfig => .printed settings.print
      | .serve => .unbound settings

/-- The settings file that is read with these arguments, if any is. -/
def settingsFile (arguments : List String) : String :=
  match Request.ofArguments arguments with
  | .run _ (some path) => path
  | _ => Settings.defaultFile

end RemoteShell.CommandLine
