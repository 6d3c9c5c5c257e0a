import RemoteShell.FileTree
import RemoteShell.Settings.Reader
import RemoteShell.Text.Utf8

/-!
# Loading settings

The environment wins over the file, and the file over the defaults. A file that is
named has to be there; the default file is read only if it is. A variable of the
environment is a list of bytes, and one that spells no text is passed over.
-/

namespace RemoteShell.Settings

/-- Why no settings could be loaded. -/
inductive LoadError where
  | unreadable (path : String) (error : FileError)
  | malformed (path : String)
  | unusable (setting : String)
  deriving DecidableEq, Repr

/-- The wording of a failure. How a file is malformed is not told. -/
def LoadError.message : LoadError → String
  | .unreadable path error => s!"failed to read config file {path}: {error.message}"
  | .malformed path => s!"failed to parse config file {path}"
  | .unusable setting => s!"invalid configuration: {setting} must be greater than 0"

/-- Refuses settings that no server can run with. -/
def check (settings : Settings) : Except LoadError Settings :=
  match settings.findUnusable? with
  | none => .ok settings
  | some setting => .error (.unusable setting)

/-- Where settings are loaded from. -/
structure Source where
  /-- Reads a file. -/
  read : String → Except FileError (List UInt8)
  /-- Tells whether a file is there. -/
  contains : String → Bool

/-- The files of a tree, seen from a directory. -/
def Source.ofTree (tree : FileTree) (directory : List String) : Source :=
  ⟨tree.read directory, tree.contains directory⟩

/-- Reads the settings of one file. -/
def Source.readFile (source : Source) (path : String) : Except LoadError Settings :=
  match source.read path with
  | .error e => .error (.unreadable path e)
  | .ok bytes =>
    match Text.decode? bytes with
    | none => .error (.unreadable path .notText)
    | some text =>
      match parse? (.ofList text) with
      | none => .error (.malformed path)
      | some settings => .ok settings

/-- The settings of the file that counts, before the environment. -/
def Source.settings (source : Source) : Option String → Except LoadError Settings
  | some path => source.readFile path
  | none =>
    if source.contains defaultFile then source.readFile defaultFile
    else .ok standard

/-- The variables that are set in the environment of a program, in bytes. -/
abbrev Environment := String → Option (List UInt8)

/-- The text of a variable; none if it is not set or spells no text. -/
def Environment.text? (environment : Environment) (name : String) : Option String := do
  return .ofList (← Text.decode? (← environment name))

/-- Loads the settings. -/
def load (source : Source) (environment : Environment) (path : Option String) :
    Except LoadError Settings := do
  ((← source.settings path).override environment.text?).check

end RemoteShell.Settings
